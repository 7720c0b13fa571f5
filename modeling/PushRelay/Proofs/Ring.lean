import PushRelay.Ring

/-!
# Who owns a key

A key belongs to the node whose point comes first going up and around from the position of the key.
`Sooner pos` is the order in which points are come by, and `owner?_eq_some_iff` says that looking a
key up finds the node at the soonest point of all: neither the sorting nor the dropping of points at
positions already taken shows.

    N ⊆ M → node ∈ N → M gives key to node → N gives key to node                (owner_of_subset)

The points of the rings have to fit in memory (`Ring.fits`).
-/

namespace PushRelay.Ring

variable {hash : String → UInt32} {nodes : List String} {vnodes : Nat} {pos : UInt32}
  {p q : UInt32 × String}

/-! ## Dropping repeated elements -/

section DedupOn

variable {α β : Type} [DecidableEq β] (f : α → β)

theorem dedupOn_sublist (l : List α) : (dedupOn f l).Sublist l := by
  fun_induction dedupOn f l with
  | case1 a b rest he ih => exact ih.trans ((List.sublist_cons_self b rest).cons_cons a)
  | case2 a b rest hne ih => exact ih.cons_cons a
  | case3 l _ => exact .refl l

/-- Looking for an element by what it stands for does not notice repeated elements. -/
theorem find?_dedupOn (g : β → Bool) (l : List α) :
    (dedupOn f l).find? (fun a => g (f a)) = l.find? fun a => g (f a) := by
  fun_induction dedupOn f l with
  | case1 a b rest he ih =>
    rw [ih]
    cases hg : g (f a) with
    | true => simp only [List.find?_cons, hg]
    | false => simp only [List.find?_cons, ← he, hg]
  | case2 a b rest _ ih => simp only [List.find?_cons, ih]
  | case3 l _ => rfl

theorem head?_dedupOn (l : List α) : (dedupOn f l).head? = l.head? := by
  fun_induction dedupOn f l with
  | case1 a b rest _ ih => exact ih
  | case2 a b rest _ ih => rfl
  | case3 l _ => rfl

end DedupOn

/-! ## Points -/

theorem mem_sortNames {name : String} : name ∈ sortNames nodes ↔ name ∈ nodes := by
  have hfind := find?_dedupOn id (· == name) (nodes.mergeSort fun a b => decide (a ≤ b))
  have hsome := congrArg Option.isSome hfind
  rw [Bool.eq_iff_iff] at hsome
  simpa [sortNames, List.find?_isSome] using hsome

theorem length_sortNames_le (nodes : List String) : (sortNames nodes).length ≤ nodes.length := by
  have hle := (dedupOn_sublist id (nodes.mergeSort fun a b => decide (a ≤ b))).length_le
  rwa [List.length_mergeSort] at hle

theorem fits_of_length (h : nodes.length * max vnodes 1 ≤ maxPoints) : fits nodes vnodes = true :=
  decide_eq_true (Nat.le_trans (Nat.mul_le_mul_right _ (length_sortNames_le nodes)) h)

/-- Not even the points of one node fit. -/
theorem not_fits (hne : nodes ≠ []) (h : maxPoints < vnodes) : fits nodes vnodes = false := by
  obtain ⟨name, rest, rfl⟩ := List.exists_cons_of_ne_nil hne
  have hpos : 0 < (sortNames (name :: rest)).length :=
    List.length_pos_of_mem (mem_sortNames.2 List.mem_cons_self)
  refine decide_eq_false (Nat.not_le.2 ?_)
  calc maxPoints < max vnodes 1 := by omega
    _ ≤ (sortNames (name :: rest)).length * max vnodes 1 := Nat.le_mul_of_pos_left _ hpos

/-- The points of a ring are those of the nodes in the list, whatever its order. -/
theorem mem_allPoints :
    p ∈ allPoints hash (sortNames nodes) vnodes ↔
      p.2 ∈ nodes ∧ ∃ i < vnodes, hash (replicaName p.2 i) = p.1 := by
  unfold allPoints
  simp only [List.mem_flatMap, List.mem_map, List.mem_range, mem_sortNames]
  constructor
  · rintro ⟨node, hnode, i, hi, rfl⟩
    exact ⟨hnode, i, hi, rfl⟩
  · rintro ⟨hnode, i, hi, hp⟩
    exact ⟨p.2, hnode, i, hi, by rw [hp]⟩

theorem pointLE_iff : pointLE p q = true ↔ p.1 < q.1 ∨ p.1 = q.1 ∧ p.2 ≤ q.2 := by
  simp [pointLE]

theorem pointLE_trans (a b c : UInt32 × String) (hab : pointLE a b = true)
    (hbc : pointLE b c = true) : pointLE a c = true := by
  rw [pointLE_iff] at *
  rcases hab with hab | ⟨hab, hab'⟩ <;> rcases hbc with hbc | ⟨hbc, hbc'⟩
  · exact Or.inl (UInt32.lt_trans hab hbc)
  · exact Or.inl (hbc ▸ hab)
  · exact Or.inl (hab ▸ hbc)
  · exact Or.inr ⟨hab.trans hbc, String.le_trans hab' hbc'⟩

theorem pointLE_total (a b : UInt32 × String) : (pointLE a b || pointLE b a) = true := by
  rw [Bool.or_eq_true, pointLE_iff, pointLE_iff]
  by_cases h : a.1 = b.1
  · rcases String.le_total a.2 b.2 with hn | hn
    · exact Or.inl (Or.inr ⟨h, hn⟩)
    · exact Or.inr (Or.inr ⟨h.symm, hn⟩)
  · rcases UInt32.lt_or_lt_of_ne h with h | h
    · exact Or.inl (Or.inl h)
    · exact Or.inr (Or.inl h)

/-! ## The soonest point -/

/-- Going up and around from `pos`, one comes by `p` no later than by `q`.  Of two points at one
position the one of the lesser name counts as the first. -/
def Sooner (pos : UInt32) (p q : UInt32 × String) : Prop :=
  p.1 - pos < q.1 - pos ∨ p.1 = q.1 ∧ p.2 ≤ q.2

instance (pos : UInt32) (p q : UInt32 × String) : Decidable (Sooner pos p q) :=
  inferInstanceAs (Decidable (_ ∨ _))

theorem Sooner.antisymm (h : Sooner pos p q) (h' : Sooner pos q p) : p = q := by
  rcases h with h | ⟨h, hn⟩ <;> rcases h' with h' | ⟨h', hn'⟩
  · exact absurd (UInt32.lt_trans h h') (UInt32.lt_irrefl _)
  · rw [h'] at h
    exact absurd h (UInt32.lt_irrefl _)
  · rw [h] at h'
    exact absurd h' (UInt32.lt_irrefl _)
  · exact Prod.ext h (String.le_antisymm hn hn')

/-- The way up to a position is shorter than the way around to one below where it starts. -/
theorem sub_lt_sub_of_lt {a b : UInt32} (ha : pos ≤ a) (hb : b < pos) : a - pos < b - pos := by
  rw [UInt32.lt_iff_toNat_lt, UInt32.toNat_sub, UInt32.toNat_sub]
  rw [UInt32.le_iff_toNat_le] at ha
  rw [UInt32.lt_iff_toNat_lt] at hb
  have := pos.toNat_lt
  have := a.toNat_lt
  omega

/-- On one side of where the way starts the higher of two positions is the farther one. -/
theorem sub_lt_sub {a b : UInt32} (hab : a < b) (hside : pos ≤ a ∨ b < pos) :
    a - pos < b - pos := by
  rw [UInt32.lt_iff_toNat_lt, UInt32.toNat_sub, UInt32.toNat_sub]
  rw [UInt32.le_iff_toNat_le, UInt32.lt_iff_toNat_lt] at hside
  rw [UInt32.lt_iff_toNat_lt] at hab
  have := pos.toNat_lt
  have := b.toNat_lt
  omega

theorem sooner_of_pointLE (h : pointLE p q = true) (hside : pos ≤ p.1 ∨ q.1 < pos) :
    Sooner pos p q := by
  rcases pointLE_iff.1 h with hlt | heq
  · exact Or.inl (sub_lt_sub hlt hside)
  · exact Or.inr heq

/-- In a sorted list of points, the one that is found is the soonest. -/
theorem pointFrom?_sorted {l : List (UInt32 × String)}
    (hl : l.Pairwise fun p q => pointLE p q = true) (hp : pointFrom? l pos = some p) :
    p ∈ l ∧ ∀ q ∈ l, Sooner pos p q := by
  unfold pointFrom? at hp
  split at hp
  · next p' hfind =>
    cases hp
    obtain ⟨hpos, before, after, rfl, hbefore⟩ := List.find?_eq_some_iff_append.1 hfind
    rw [decide_eq_true_eq] at hpos
    refine ⟨List.mem_append_right _ List.mem_cons_self, fun q hq => ?_⟩
    rcases List.mem_append.1 hq with hq | hq
    · -- the points that were passed over are below `pos`, so the way around to them is longer
      have hq : q.1 < pos := by simpa using hbefore q hq
      exact Or.inl (sub_lt_sub_of_lt hpos hq)
    · rcases List.mem_cons.1 hq with rfl | hq
      · exact Or.inr ⟨rfl, String.le_refl _⟩
      · exact sooner_of_pointLE ((List.pairwise_cons.1 (List.pairwise_append.1 hl).2.1).1 q hq)
          (Or.inl hpos)
  · next hnone =>
    obtain ⟨l, rfl⟩ : ∃ l', l = p :: l' := List.head?_eq_some_iff.1 hp
    refine ⟨List.mem_cons_self, fun q hq => ?_⟩
    have hbelow : q.1 < pos := by simpa using List.find?_eq_none.1 hnone q hq
    rcases List.mem_cons.1 hq with rfl | hq
    · exact Or.inr ⟨rfl, String.le_refl _⟩
    · exact sooner_of_pointLE ((List.pairwise_cons.1 hl).1 q hq) (Or.inr hbelow)

theorem pointFrom?_eq_none {l : List (UInt32 × String)} : pointFrom? l pos = none ↔ l = [] := by
  unfold pointFrom?
  split
  · next p hfind => simp [List.ne_nil_of_mem (List.mem_of_find?_eq_some hfind)]
  · exact List.head?_eq_none_iff

/-- The point that looking a key up comes to is the soonest point of all. -/
theorem pointFrom?_ofNodes :
    pointFrom? (ofNodes hash nodes vnodes).points pos = some p ↔
      p ∈ allPoints hash (sortNames nodes) (max vnodes 1) ∧
        ∀ q ∈ allPoints hash (sortNames nodes) (max vnodes 1), Sooner pos p q := by
  generalize hall : allPoints hash (sortNames nodes) (max vnodes 1) = all
  have hpoints : pointFrom? (ofNodes hash nodes vnodes).points pos =
      pointFrom? (all.mergeSort pointLE) pos := by
    have hfind := find?_dedupOn Prod.fst (fun a => decide (pos ≤ a)) (all.mergeSort pointLE)
    simp only [pointFrom?, ofNodes, hall, hfind, head?_dedupOn]
  have hsorted := List.pairwise_mergeSort pointLE_trans pointLE_total all
  rw [hpoints]
  constructor
  · intro hp
    obtain ⟨hmem, hsoon⟩ := pointFrom?_sorted hsorted hp
    exact ⟨List.mem_mergeSort.1 hmem, fun q hq => hsoon q (List.mem_mergeSort.2 hq)⟩
  · rintro ⟨hmem, hsoon⟩
    have hmem : p ∈ all.mergeSort pointLE := List.mem_mergeSort.2 hmem
    cases hp : pointFrom? (all.mergeSort pointLE) pos with
    | none =>
      rw [pointFrom?_eq_none.1 hp] at hmem
      cases hmem
    | some p' =>
      obtain ⟨hmem', hsoon'⟩ := pointFrom?_sorted hsorted hp
      rw [(hsoon' p hmem).antisymm (hsoon p' (List.mem_mergeSort.1 hmem'))]

/-- The node that a key belongs to stands at the soonest point of all nodes in the list. -/
theorem owner?_eq_some_iff {key node : String} :
    (ofNodes hash nodes vnodes).owner? key = some node ↔
      node ∈ nodes ∧ ∃ i < max vnodes 1, ∀ other ∈ nodes, ∀ j < max vnodes 1,
        Sooner (hash key) (hash (replicaName node i), node) (hash (replicaName other j), other) := by
  refine Option.map_eq_some_iff.trans ⟨?_, ?_⟩
  · rintro ⟨p, hp, rfl⟩
    obtain ⟨hmem, hsoon⟩ := pointFrom?_ofNodes.1 hp
    obtain ⟨hnode, i, hi, hpos⟩ := mem_allPoints.1 hmem
    refine ⟨hnode, i, hi, fun other hother j hj => ?_⟩
    rw [hpos]
    exact hsoon _ (mem_allPoints.2 ⟨hother, j, hj, rfl⟩)
  · rintro ⟨hnode, i, hi, hsoon⟩
    refine ⟨(hash (replicaName node i), node), pointFrom?_ofNodes.2 ⟨?_, fun q hq => ?_⟩, rfl⟩
    · exact mem_allPoints.2 ⟨hnode, i, hi, rfl⟩
    · obtain ⟨hother, j, hj, hpos⟩ := mem_allPoints.1 hq
      have hq := hsoon q.2 hother j hj
      rwa [hpos] at hq

/-! ## Other lists of nodes -/

/-- A key stays with its node when other nodes go: take any two lists of nodes of which the first is
part of the second.  If the ring of the second list gives a key to a node of the first one, then so does
the ring of the first list. -/
theorem owner_of_subset {fewer more : List String} (hsub : fewer ⊆ more) (hash : String → UInt32)
    (vnodes : Nat) {key node : String}
    (howner : (ofNodes hash more vnodes).owner? key = some node) (hnode : node ∈ fewer) :
    (ofNodes hash fewer vnodes).owner? key = some node := by
  obtain ⟨-, i, hi, hsoon⟩ := owner?_eq_some_iff.1 howner
  -- the point is one of the first list, too, whose points are all among those of the second
  exact owner?_eq_some_iff.2 ⟨hnode, i, hi, fun other hother => hsoon other (hsub hother)⟩

/-- The way from "key" leads around to 3, where every node stands but "a", which stands at 5. -/
def collidingHash (s : String) : UInt32 :=
  if s = "key" then 7 else if s = "a#0" ∨ s = "a#1" then 5 else 3

/-- Of the nodes at one point "b" has the key, with "c" and without it. -/
theorem owner_of_subset_collision :
    (["d", "b", "d"] ⊆ ["c", "b", "a", "d"] ∧
      (ofNodes collidingHash ["c", "b", "a", "d"] 2).owner? "key" = some "b" ∧
      "b" ∈ ["d", "b", "d"]) ∧
    (ofNodes collidingHash ["d", "b", "d"] 2).owner? "key" = some "b" := by
  have hsub : ["d", "b", "d"] ⊆ ["c", "b", "a", "d"] := by decide
  have howner : (ofNodes collidingHash ["c", "b", "a", "d"] 2).owner? "key" = some "b" :=
    owner?_eq_some_iff.2 (by decide +kernel)
  exact ⟨⟨hsub, howner, by decide⟩, owner_of_subset hsub collidingHash 2 howner (by decide)⟩

end PushRelay.Ring
