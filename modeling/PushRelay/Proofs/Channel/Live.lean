import PushRelay.Proofs.Channel.Order

/-!
# What a live connection hears

A connection whose replay has succeeded is written every push that is above all it has seen.  As long
as it stays attached and has room, what it is written can be read off the ids of the accepted messages:
it is those that rise above all before them.

    written after = written before ++ (rising id last accepted).map push              (written_rising)
-/

namespace PushRelay

/-! ## Rising entries -/

section Rising

variable {α β : Type} {f : α → Int} {last : Int} {a : α} {l l' : List α}

/-- The entries that `f` puts above `last` and above all entries before them. -/
def rising (f : α → Int) (last : Int) : List α → List α
  | [] => []
  | a :: l => if last < f a then a :: rising f (f a) l else rising f last l

theorem rising_sublist (f : α → Int) (last : Int) (l : List α) : (rising f last l).Sublist l := by
  induction l generalizing last with
  | nil => exact .slnil
  | cons a l ih =>
    unfold rising
    split
    · exact (ih (f a)).cons_cons a
    · exact (ih last).cons a

theorem rising_map (f : β → Int) (g : α → β) (last : Int) (l : List α) :
    rising f last (l.map g) = (rising (fun a => f (g a)) last l).map g := by
  induction l generalizing last with
  | nil => rfl
  | cons a l ih =>
    simp only [List.map_cons, rising]
    split
    · rw [ih, List.map_cons]
    · exact ih last

/-- An entry rises exactly if it is above `last` and all entries before it are below it. -/
theorem mem_rising_iff (hn : (l ++ a :: l').Nodup) :
    a ∈ rising f last (l ++ a :: l') ↔ last < f a ∧ ∀ b ∈ l, f b < f a := by
  induction l generalizing last with
  | nil =>
    have ha : a ∉ l' := (List.nodup_cons.1 hn).1
    simp only [List.nil_append, rising, List.not_mem_nil, false_implies, implies_true, and_true]
    split
    · next h => simp [h]
    · next h => exact iff_of_false (fun hm => ha ((rising_sublist f last l').subset hm)) h
  | cons b l ih =>
    obtain ⟨hb, hn⟩ := List.nodup_cons.1 hn
    have hne : a ≠ b := by
      rintro rfl
      exact hb (by simp)
    simp only [List.cons_append, rising, List.forall_mem_cons]
    split
    · next h =>
      rw [List.mem_cons, ih hn]
      constructor
      · rintro (he | ⟨h1, h2⟩)
        · exact absurd he hne
        · exact ⟨Int.lt_trans h h1, h1, h2⟩
      · rintro ⟨-, h1, h2⟩
        exact Or.inr ⟨h1, h2⟩
    · next h =>
      rw [ih hn]
      constructor
      · rintro ⟨h1, h2⟩
        exact ⟨h1, by omega, h2⟩
      · rintro ⟨h1, -, h2⟩
        exact ⟨h1, h2⟩

/-- Where entries come in ascending order, all of them rise. -/
theorem rising_eq_self (hl : l.Pairwise fun a b => f a < f b) (h : ∀ a ∈ l, last < f a) :
    rising f last l = l := by
  induction l generalizing last with
  | nil => rfl
  | cons a l ih =>
    obtain ⟨ha, hl⟩ := List.pairwise_cons.1 hl
    unfold rising
    rw [if_pos (h a List.mem_cons_self), ih hl ha]

end Rising

/-! ## Live connections -/

namespace Relay

variable {r : Relay} {e : Event} {c : ConnId} {last : Int} {es : List Event}

/-- A connection whose replay has succeeded takes part in every push. -/
def Live (r : Relay) (c : ConnId) : Prop := ∀ a, r.seat c = some a → a.awaitingReplay = false

theorem Live.step (h : Live r c) (hl : Lawful c r e) : Live (r.step e) c := by
  intro b hb
  cases step_move r e c hl.1 hl.2 with
  | idle _ ha => exact h b (ha ▸ hb)
  | left _ ha =>
    rw [ha] at hb
    cases hb
  | live _ _ hd _ _ ha =>
    rw [ha] at hb
    cases hb
    exact hd
  | caughtUp hs hp =>
    rw [hp.seat] at hb
    cases hb
    show (_ && _) = false
    rw [h _ hs, Bool.false_and]

theorem Live.run (h : Live r c) (hes : Along Relay.step (Lawful c) r es) : Live (r.run es) c :=
  hes.inv (fun r => Live r c) (fun _ _ h hl => h.step hl) h

/-- What is accepted above the seat of a live connection is written to it if it has room. -/
theorem Live.push {a : Attachment} {m : Message} {id : Int} (h : Live r c) (hs : r.seat c = some a)
    (hok : (r.channel.push r.host r.key m).result = .ok id) (hl : a.lastId < id)
    (hroom : r.host.hasRoom c = true) : (m.withId id).push ∈ (r.step (.push m)).written c := by
  have hreach : r.channel.reaches r.host id c = true :=
    Channel.reaches_iff.2 ⟨a, hs, h a hs, hl, hroom⟩
  have hw := Channel.push_waiting hok c
  rw [if_pos hreach] at hw
  have hw' : (r.step (.push m)).written c = r.written c ++ [(m.withId id).push] :=
    written_of_waiting rfl hw
  rw [hw']
  exact List.mem_append_right _ (List.mem_singleton_self _)

/-- The connection is neither attached anew nor replayed, it stays attached, and pushes find room on its
queue. -/
def Attending (c : ConnId) (r : Relay) (e : Event) : Prop :=
  e.attaches c = false ∧ e.since? c = none ∧ ((r.step e).seat c).isSome = true ∧
    ∀ m, e = .push m → r.host.hasRoom c = true

/-- An event that brings no message in does nothing to a connection that attends. -/
theorem Attending.quiet (h : Attending c r e) (hacc : r.accepts e = []) :
    (r.step e).written c = r.written c ∧ (r.step e).seat c = r.seat c := by
  obtain ⟨hatt, hsince, hseat, -⟩ := h
  have hrep : ReplaysAttached c r e := fun hs => by
    rw [hsince] at hs
    cases hs
  cases step_move r e c hatt hrep with
  | idle hw ha => exact ⟨hw, ha⟩
  | left hw ha =>
    rw [ha] at hseat
    cases hseat
  | live hm =>
    rw [hacc] at hm
    cases hm
  | caughtUp => simp [Event.since?] at hsince

/-- An accepted push is written to a live connection that attends exactly if it is above the seat, which
it then moves. -/
theorem Attending.push {m : Message} {id : Int} (h : Attending c r (.push m))
    (hs : r.seat c = some ⟨last, false⟩)
    (hp : (r.channel.push r.host r.key m).result = .ok id) :
    (r.step (.push m)).written c = r.written c ++ (if last < id then [(m.withId id).push] else []) ∧
      (r.step (.push m)).seat c = some ⟨if last < id then id else last, false⟩ := by
  have hat : r.channel.attached.get? c = some ⟨last, false⟩ := hs
  have hroom := h.2.2.2 m rfl
  have hreach : r.channel.reaches r.host id c = decide (last < id) := by
    simp [Channel.reaches, hat, Attachment.isDue, hroom]
  have hw := Channel.push_waiting hp c
  have ha := Channel.push_attached hp c
  simp only [hreach, decide_eq_true_eq] at hw ha
  refine ⟨written_of_waiting rfl hw, ?_⟩
  rw [hat, Option.map_some] at ha
  refine ha.trans ?_
  split <;> rfl

/-- As long as a live connection attends, it is written the accepted messages that rise. -/
theorem written_rising (h : Along Relay.step (Attending c) r es)
    (hs : r.seat c = some ⟨last, false⟩) :
    (r.run es).written c =
      r.written c ++ (rising Message.id last (r.accepting es)).map Message.push := by
  induction es generalizing r last with
  | nil => exact (List.append_nil _).symm
  | cons e es ih =>
    obtain ⟨he, hes⟩ := h
    have hquiet : r.accepts e = [] → (r.run (e :: es)).written c =
        r.written c ++ (rising Message.id last (r.accepting (e :: es))).map Message.push := by
      intro hacc
      obtain ⟨hw, ha⟩ := he.quiet hacc
      rw [run_cons, ih hes (ha.trans hs), hw, accepting, hacc, List.nil_append]
    cases e with
    | push m =>
      cases hp : (r.channel.push r.host r.key m).result with
      | error e => exact hquiet (by simp only [accepts, hp])
      | ok id =>
        obtain ⟨hw, ha⟩ := he.push hs hp
        rw [run_cons, ih hes ha, hw, accepting, accepts_push hp, List.append_assoc]
        congr 1
        show _ = (if last < id then _ else _ : List Message).map Message.push
        split <;> rfl
    | _ => exact hquiet rfl

end Relay

end PushRelay
