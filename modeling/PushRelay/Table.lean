/-!
# Tables

`Table K V` is a finite map from keys to values that remembers the order in which keys came.  `get?`
is its view: each operation is pinned down by what it does to `get?` and to the list of keys.

    (t.insert k v).get? k' = if k' = k then some v else t.get? k'     (get?_insert)
    (t.erase k).get? k' = if k' = k then none else t.get? k'          (get?_erase)
-/

namespace PushRelay

/-- Entries with distinct keys. -/
structure Table (K V : Type) where
  entries : List (K × V)
  distinct : (entries.map (·.1)).Nodup

namespace Table

variable {K V : Type}

/-! ## Operations -/

def empty : Table K V := ⟨[], List.nodup_nil⟩

instance : Inhabited (Table K V) := ⟨empty⟩

def keys (t : Table K V) : List K := t.entries.map (·.1)

def values (t : Table K V) : List V := t.entries.map (·.2)

def size (t : Table K V) : Nat := t.entries.length

def isEmpty (t : Table K V) : Bool := t.entries.isEmpty

theorem nodup_filter (l : List (K × V)) (p : K × V → Bool) (h : (l.map (·.1)).Nodup) :
    ((l.filter p).map (·.1)).Nodup :=
  h.sublist (List.Sublist.map _ List.filter_sublist)

/-- The entries that satisfy `p`. -/
def filter (p : K → V → Bool) (t : Table K V) : Table K V :=
  ⟨t.entries.filter fun e => p e.1 e.2, nodup_filter _ _ t.distinct⟩

theorem map_fst_map (l : List (K × V)) (f : K → V → V) :
    (l.map fun e => (e.1, f e.1 e.2)).map (·.1) = l.map (·.1) := by
  induction l with
  | nil => rfl
  | cons e l ih => simp only [List.map_cons, ih]

/-- Applies `f` to every value. -/
def mapValues (f : K → V → V) (t : Table K V) : Table K V :=
  ⟨t.entries.map fun e => (e.1, f e.1 e.2), by rw [map_fst_map]; exact t.distinct⟩

variable [DecidableEq K]

def find (k : K) : List (K × V) → Option V
  | [] => none
  | e :: l => if e.1 = k then some e.2 else find k l

def get? (t : Table K V) (k : K) : Option V := find k t.entries

def contains (t : Table K V) (k : K) : Bool := (t.get? k).isSome

/-- The table without a key. -/
def erase (t : Table K V) (k : K) : Table K V := t.filter fun k' _ => decide (k' ≠ k)

/-- Applies `f` to the value of a key, if it has one. -/
def modify (t : Table K V) (k : K) (f : V → V) : Table K V :=
  t.mapValues fun k' v => if k' = k then f v else v

theorem find_eq_none {k : K} {l : List (K × V)} : find k l = none ↔ k ∉ l.map (·.1) := by
  induction l with
  | nil => simp [find]
  | cons e l ih =>
    by_cases h : e.1 = k
    · simp [find, h]
    · simp only [find, h, if_false, List.map_cons, List.mem_cons, ih]
      simp [Ne.symm h]

theorem nodup_append_key {k : K} {l : List (K × V)} (v : V) (hl : (l.map (·.1)).Nodup)
    (hk : find k l = none) : ((l ++ [(k, v)]).map (·.1)).Nodup := by
  rw [List.map_append, List.nodup_append]
  refine ⟨hl, by simp, ?_⟩
  intro a ha b hb hab
  have : b = k := by simpa using hb
  exact find_eq_none.1 hk (this ▸ hab ▸ ha)

/-- The table with a key's value set.  A new key comes last. -/
def insert (t : Table K V) (k : K) (v : V) : Table K V :=
  if h : find k t.entries = none then
    ⟨t.entries ++ [(k, v)], nodup_append_key v t.distinct h⟩
  else t.modify k fun _ => v

/-! ## Lemmas -/

@[simp] theorem get?_empty (k : K) : (empty : Table K V).get? k = none := rfl

theorem find_append (k : K) (l m : List (K × V)) :
    find k (l ++ m) = (find k l).or (find k m) := by
  induction l with
  | nil => simp [find]
  | cons e l ih =>
    by_cases h : e.1 = k
    · simp [find, h]
    · simp [find, h, ih]

theorem find_map (k : K) (l : List (K × V)) (f : K → V → V) :
    find k (l.map fun e => (e.1, f e.1 e.2)) = (find k l).map (f k) := by
  induction l with
  | nil => rfl
  | cons e l ih =>
    by_cases h : e.1 = k
    · simp [find, h]
    · simp [find, h, ih]

theorem find_filter (k : K) (l : List (K × V)) (p : K → V → Bool)
    (h : (l.map (·.1)).Nodup) :
    find k (l.filter fun e => p e.1 e.2) = (find k l).filter (p k) := by
  induction l with
  | nil => rfl
  | cons e l ih =>
    simp only [List.map_cons, List.nodup_cons] at h
    have ih := ih h.2
    by_cases hk : e.1 = k
    · subst hk
      have hn : find e.1 l = none := find_eq_none.2 h.1
      by_cases hp : p e.1 e.2
      · simp [find, hp, Option.filter]
      · simp [find, hp, ih, hn, Option.filter]
    · by_cases hp : p e.1 e.2
      · simp [find, hp, hk, ih]
      · simp [find, hp, hk, ih]

theorem find_eq_some {k : K} {v : V} {l : List (K × V)} (hl : (l.map (·.1)).Nodup) :
    find k l = some v ↔ (k, v) ∈ l := by
  induction l with
  | nil => simp [find]
  | cons e l ih =>
    obtain ⟨hn, hl⟩ := List.nodup_cons.1 hl
    unfold find
    split
    · next he =>
      subst he
      constructor
      · intro h
        cases h
        exact List.mem_cons_self
      · intro h
        rcases List.mem_cons.1 h with h | h
        · rw [← h]
        · exact absurd (List.mem_map_of_mem h) hn
    · next he =>
      rw [ih hl, List.mem_cons]
      exact ⟨Or.inr, fun h => h.resolve_left fun h => he (by rw [← h])⟩

theorem get?_eq_some {t : Table K V} {k : K} {v : V} :
    t.get? k = some v ↔ (k, v) ∈ t.entries := find_eq_some t.distinct

theorem get?_filter (t : Table K V) (p : K → V → Bool) (k : K) :
    (t.filter p).get? k = (t.get? k).filter (p k) :=
  find_filter k t.entries p t.distinct

theorem get?_mapValues (t : Table K V) (f : K → V → V) (k : K) :
    (t.mapValues f).get? k = (t.get? k).map (f k) :=
  find_map k t.entries f

theorem get?_erase (t : Table K V) (k k' : K) :
    (t.erase k).get? k' = if k' = k then none else t.get? k' := by
  rw [erase, get?_filter]
  by_cases h : k' = k
  · simp [h]
  · simp only [h, if_false]
    cases t.get? k' <;> simp [Option.filter, h]

theorem get?_modify (t : Table K V) (k k' : K) (f : V → V) :
    (t.modify k f).get? k' = if k' = k then (t.get? k').map f else t.get? k' := by
  rw [modify, get?_mapValues]
  by_cases h : k' = k
  · simp [h]
  · simp [h]

theorem get?_insert (t : Table K V) (k k' : K) (v : V) :
    (t.insert k v).get? k' = if k' = k then some v else t.get? k' := by
  unfold insert
  split
  · next h =>
    show find k' (t.entries ++ [(k, v)]) = _
    rw [find_append]
    by_cases hk : k' = k
    · subst hk; simp [h, find]
    · simp [hk, find, Ne.symm hk, get?]
  · next h =>
    rw [get?_modify]
    by_cases hk : k' = k
    · subst hk
      obtain ⟨w, hw⟩ := Option.ne_none_iff_exists'.1 h
      simp [get?, hw]
    · simp [hk]

end Table

end PushRelay
