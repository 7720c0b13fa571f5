/-!
# Runs

A system takes steps on events, and a run is a fold of them.  `Along step P s es` says that `P` holds of
every event of a run, in the state in which it happens; `Along.inv` is induction over a run.

    Along step P s es → (∀ s e, Inv s → P s e → Inv (step s e)) → Inv s → Inv (es.foldl step s)
-/

namespace PushRelay

variable {σ ε : Type} {step : σ → ε → σ}

/-- `P` holds of every event of a run, in the state in which it happens. -/
def Along (step : σ → ε → σ) (P : σ → ε → Prop) : σ → List ε → Prop
  | _, [] => True
  | s, e :: es => P s e ∧ Along step P (step s e) es

instance Along.decidable (step : σ → ε → σ) (P : σ → ε → Prop) [∀ s e, Decidable (P s e)] :
    ∀ (s : σ) (es : List ε), Decidable (Along step P s es)
  | _, [] => isTrue trivial
  | s, e :: es =>
    have := Along.decidable step P (step s e) es
    inferInstanceAs (Decidable (P s e ∧ Along step P (step s e) es))

variable {P Q : σ → ε → Prop} {s : σ} {es fs : List ε}

theorem along_append :
    Along step P s (es ++ fs) ↔ Along step P s es ∧ Along step P (es.foldl step s) fs := by
  induction es generalizing s with
  | nil => simp [Along]
  | cons e es ih => simp only [List.cons_append, Along, ih, List.foldl_cons, and_assoc]

theorem Along.and (h : Along step P s es) (h' : Along step Q s es) :
    Along step (fun s e => P s e ∧ Q s e) s es := by
  induction es generalizing s with
  | nil => trivial
  | cons e es ih => exact ⟨⟨h.1, h'.1⟩, ih h.2 h'.2⟩

theorem Along.mono (h : Along step P s es) (hPQ : ∀ s e, P s e → Q s e) : Along step Q s es := by
  induction es generalizing s with
  | nil => trivial
  | cons e es ih => exact ⟨hPQ s e h.1, ih h.2⟩

theorem along_of_forall {p : ε → Prop} (h : ∀ e ∈ es, p e) : Along step (fun _ e => p e) s es := by
  induction es generalizing s with
  | nil => trivial
  | cons e es ih =>
    exact ⟨h e List.mem_cons_self, ih fun e' he' => h e' (List.mem_cons_of_mem e he')⟩

/-- What every event keeps, a run keeps. -/
theorem Along.inv (h : Along step P s es) (Inv : σ → Prop)
    (hstep : ∀ s e, Inv s → P s e → Inv (step s e)) (hs : Inv s) : Inv (es.foldl step s) := by
  induction es generalizing s with
  | nil => exact hs
  | cons e es ih => exact ih h.2 (hstep s e hs h.1)

/-- What the end of a run shows of its beginning, it shows of every state on the way. -/
theorem of_foldl {Q : σ → Prop} (hback : ∀ s e, Q (step s e) → Q s) (h : Q (es.foldl step s)) :
    Q s := by
  induction es generalizing s with
  | nil => exact h
  | cons e es ih => exact hback s e (ih h)

theorem along_of_foldl {Q : σ → Prop} (hback : ∀ s e, Q (step s e) → Q s)
    (h : Q (es.foldl step s)) : Along step (fun s e => Q (step s e)) s es := by
  induction es generalizing s with
  | nil => trivial
  | cons e es ih => exact ⟨of_foldl hback h, ih h⟩

end PushRelay
