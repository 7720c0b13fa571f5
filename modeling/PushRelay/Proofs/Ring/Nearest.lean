import Mathlib.Logic.ExistsUnique
import PushRelay.Proofs.Ring

/-!
# The ring against the nearest point

What looking a key up comes to, said without a ring: of all the points of all the nodes the nearest one
going up and around from the key, and of those at one position the one of the least name.

    ring.owner? key = some node ↔ node ∈ nodes ∧ ∃ i < max vnodes 1, ∀ other ∈ nodes, ∀ j < max vnodes 1,
      away node i < away other j ∨ away node i = away other j ∧ node ≤ other        (owner_nearest)

The names and the points of a ring are strictly ascending, so that a ring is known by the set of its nodes,
and the point is the one that a binary search comes to.  All this is about rings whose points fit in memory
(`Ring.fits`).
-/

namespace PushRelay.Ring

variable {hash : String → UInt32} {nodes nodes' : List String} {vnodes : Nat} {pos : UInt32}
  {p q : UInt32 × String}

/-! ## Strictly ascending lists -/

section DedupOn

variable {α β : Type} [DecidableEq β] (f : α → β)

/-- In an ascending list no two of the elements that are left stand for the same. -/
theorem pairwise_dedupOn {le : β → β → Prop} (antisymm : ∀ x y, le x y → le y x → x = y)
    {l : List α} (hl : l.Pairwise fun a b => le (f a) (f b)) :
    (dedupOn f l).Pairwise fun a b => le (f a) (f b) ∧ f a ≠ f b := by
  fun_induction dedupOn f l with
  | case1 a b rest he ih => exact ih (hl.sublist ((List.sublist_cons_self b rest).cons_cons a))
  | case2 a b rest hne ih =>
    obtain ⟨ha, hrest⟩ := List.pairwise_cons.1 hl
    refine List.pairwise_cons.2 ⟨fun x hx => ?_, ih hrest⟩
    have hx := (dedupOn_sublist f (b :: rest)).mem hx
    refine ⟨ha x hx, fun he => ?_⟩
    rcases List.mem_cons.1 hx with rfl | hx
    · exact hne he
    · -- what stands between two equal elements is equal to both
      have hbx := (List.pairwise_cons.1 hrest).1 x hx
      exact hne (antisymm _ _ (ha b List.mem_cons_self) (he ▸ hbx))
  | case3 l hl' =>
    rcases l with _ | ⟨a, _ | ⟨b, rest⟩⟩
    · exact .nil
    · exact List.pairwise_singleton _ a
    · exact (hl' a b rest rfl).elim

end DedupOn

theorem sortNames_ascending (nodes : List String) :
    (sortNames nodes).Pairwise fun a b => a ≤ b ∧ a ≠ b := by
  refine pairwise_dedupOn id (fun _ _ => String.le_antisymm) ?_
  have trans : ∀ a b c : String, decide (a ≤ b) = true → decide (b ≤ c) = true →
      decide (a ≤ c) = true := by
    intro a b c hab hbc
    exact decide_eq_true (String.le_trans (of_decide_eq_true hab) (of_decide_eq_true hbc))
  have total : ∀ a b : String, (decide (a ≤ b) || decide (b ≤ a)) = true := by
    intro a b
    rw [Bool.or_eq_true, decide_eq_true_eq, decide_eq_true_eq]
    exact String.le_total a b
  exact (List.pairwise_mergeSort trans total nodes).imp of_decide_eq_true

/-- The order in which nodes are listed does not show, nor does how often. -/
theorem sortNames_congr (hmem : ∀ name, name ∈ nodes' ↔ name ∈ nodes) :
    sortNames nodes' = sortNames nodes := by
  have hasc := sortNames_ascending nodes
  have hasc' := sortNames_ascending nodes'
  refine List.Perm.eq_of_pairwise (fun a b _ _ => String.le_antisymm) (hasc'.imp And.left)
    (hasc.imp And.left) ?_
  refine (List.perm_ext_iff_of_nodup (hasc'.imp And.right) (hasc.imp And.right)).2 fun name => ?_
  rw [mem_sortNames, mem_sortNames, hmem]

/-- Names sorted once stay as they are. -/
theorem sortNames_sortNames (nodes : List String) : sortNames (sortNames nodes) = sortNames nodes :=
  sortNames_congr fun _ => mem_sortNames

theorem ofNodes_congr (hmem : ∀ name, name ∈ nodes' ↔ name ∈ nodes) :
    ofNodes hash nodes' vnodes = ofNodes hash nodes vnodes := by
  unfold ofNodes
  rw [sortNames_congr hmem]

theorem points_ascending (hash : String → UInt32) (nodes : List String) (vnodes : Nat) :
    (ofNodes hash nodes vnodes).points.Pairwise fun p q => p.1 < q.1 := by
  have hsorted := List.pairwise_mergeSort pointLE_trans pointLE_total
    (allPoints hash (sortNames nodes) (max vnodes 1))
  have hpos := hsorted.imp (S := fun p q => p.1 ≤ q.1) fun {p q} hle => by
    rcases pointLE_iff.1 hle with hlt | ⟨heq, -⟩
    · exact UInt32.le_of_lt hlt
    · exact UInt32.le_of_eq heq
  refine (pairwise_dedupOn Prod.fst (fun _ _ => UInt32.le_antisymm) hpos).imp fun {p q} h => ?_
  exact UInt32.lt_of_le_of_ne h.1 h.2

/-! ## Indices -/

/-- Every point is that of a node of the ring. -/
theorem node_of_mem_points (hp : p ∈ (ofNodes hash nodes vnodes).points) :
    ∃ i : Nat, (ofNodes hash nodes vnodes).nodes[i]? = some p.2 := by
  have hall : p ∈ allPoints hash (sortNames nodes) (max vnodes 1) :=
    List.mem_mergeSort.1 ((dedupOn_sublist _ _).mem hp)
  have hnode : p.2 ∈ sortNames nodes := mem_sortNames.2 (mem_allPoints.1 hall).1
  exact List.mem_iff_getElem?.1 hnode

theorem points_eq_nil : (ofNodes hash nodes vnodes).points = [] ↔ nodes = [] := by
  have hall : (ofNodes hash nodes vnodes).points = [] ↔
      ∀ p, p ∉ allPoints hash (sortNames nodes) (max vnodes 1) := by
    have hhead := head?_dedupOn Prod.fst
      ((allPoints hash (sortNames nodes) (max vnodes 1)).mergeSort pointLE)
    rw [← List.head?_eq_none_iff, ofNodes, hhead, List.head?_eq_none_iff,
      List.eq_nil_iff_forall_not_mem]
    simp only [List.mem_mergeSort]
  rw [hall, List.eq_nil_iff_forall_not_mem]
  constructor
  · intro hnone node hnode
    exact hnone (hash (replicaName node 0), node) (mem_allPoints.2 ⟨hnode, 0, by omega, rfl⟩)
  · intro hnone p hp
    exact hnone p.2 (mem_allPoints.1 hp).1

/-- A binary search for a position ends behind the points below it, and past the last point the search
goes on at the first one. -/
theorem pointFrom?_slot {l : List (UInt32 × String)} (hl : l.Pairwise fun p q => p.1 < q.1)
    (pos : UInt32) :
    ∃ slot ≤ l.length, (∀ i p, l[i]? = some p → (p.1 < pos ↔ i < slot)) ∧
      pointFrom? l pos = l[slot % l.length]? := by
  generalize hslot : l.findIdx (fun p => decide (pos ≤ p.1)) = slot
  have hle : slot ≤ l.length := hslot ▸ List.findIdx_le_length
  refine ⟨slot, hle, fun i p hp => ?_, ?_⟩
  · obtain ⟨hi, rfl⟩ := List.getElem?_eq_some_iff.1 hp
    constructor
    · intro hbelow
      refine Nat.lt_of_not_le fun hge => ?_
      have hlt : slot < l.length := by omega
      have hpos : pos ≤ l[slot].1 := by
        subst hslot
        exact of_decide_eq_true (List.findIdx_getElem (w := hlt))
      have hup : l[slot].1 ≤ l[i].1 := by
        rcases Nat.eq_or_lt_of_le hge with rfl | hsi
        · exact UInt32.le_refl _
        · exact UInt32.le_of_lt (List.pairwise_iff_getElem.1 hl slot i hlt hi hsi)
      exact UInt32.not_lt.2 (UInt32.le_trans hpos hup) hbelow
    · intro hlt
      have hnot := List.not_of_lt_findIdx (hslot ▸ hlt)
      exact UInt32.not_le.1 (of_decide_eq_false hnot)
  · unfold pointFrom?
    rw [List.find?_eq_getElem?_findIdx, hslot]
    rcases Nat.eq_or_lt_of_le hle with rfl | hlt
    · rw [List.getElem?_eq_none (Nat.le_refl _), Nat.mod_self, List.head?_eq_getElem?]
    · rw [Nat.mod_eq_of_lt hlt, List.getElem?_eq_getElem hlt]

/-! ## The way to a point -/

/-- How far up and around it is from one position to another. -/
def clockwise (pos stop : UInt32) : Int := ((stop.toNat : Int) - pos.toNat) % 0x100000000

theorem clockwise_eq (pos stop : UInt32) : clockwise pos stop = ((stop - pos).toNat : Int) := by
  have := pos.toNat_lt
  have := stop.toNat_lt
  rw [clockwise, UInt32.toNat_sub]
  omega

theorem clockwise_inj {stop stop' : UInt32} : clockwise pos stop = clockwise pos stop' ↔ stop = stop' := by
  have := pos.toNat_lt
  have := stop.toNat_lt
  have := stop'.toNat_lt
  rw [← UInt32.toNat_inj]
  unfold clockwise
  omega

theorem sooner_iff : Sooner pos p q ↔ clockwise pos p.1 < clockwise pos q.1 ∨
    clockwise pos p.1 = clockwise pos q.1 ∧ p.2 ≤ q.2 := by
  rw [Sooner, clockwise_inj, clockwise_eq, clockwise_eq, UInt32.lt_iff_toNat_lt, Int.ofNat_lt]

/-! ## Who owns a key, without a ring -/

theorem owner?_eq_none {key : String} : (ofNodes hash nodes vnodes).owner? key = none ↔ nodes = [] := by
  rw [owner?, Option.map_eq_none_iff, pointFrom?_eq_none, points_eq_nil]

/-- Where there are nodes, one of them owns the key, and no other. -/
theorem existsUnique_owns (hn : nodes ≠ []) (hash : String → UInt32) (vnodes : Nat) (key : String) :
    ∃! node, node ∈ nodes ∧ (ofNodes hash nodes vnodes).owns node key = true := by
  have hsome : (ofNodes hash nodes vnodes).owner? key ≠ none := mt owner?_eq_none.1 hn
  obtain ⟨node, howner⟩ := Option.ne_none_iff_exists'.1 hsome
  have howns : ∀ other, (ofNodes hash nodes vnodes).owns other key = true ↔ node = other := by
    intro other
    rw [owns, howner, beq_iff_eq, Option.some.injEq]
  refine ⟨node, ⟨(owner?_eq_some_iff.1 howner).1, (howns node).2 rfl⟩, ?_⟩
  rintro other ⟨-, hother⟩
  exact ((howns other).1 hother).symm

/-- Whatever the hash, looking a key up in the ring of a list of nodes comes to nothing iff the list is
empty, and otherwise to the node that has the nearest of all points clockwise from the key, the least name
first where points are at one position.  The ring depends on the set of nodes only, contains those that are
listed, and exactly one of them owns the key.  The lookup is a binary search among the points: the slot at
which it ends, or the first one behind the last, is one of them, and it leads to one of the nodes. -/
theorem owner_nearest (hash : String → UInt32) (nodes : List String) (vnodes : Nat) (key : String) :
    let ring := ofNodes hash nodes vnodes
    let away (node : String) (replica : Nat) : Int :=
      clockwise (hash key) (hash (replicaName node replica))
    (ring.owner? key = none ↔ nodes = []) ∧
    (∀ node, ring.owner? key = some node ↔ node ∈ nodes ∧ ∃ i < max vnodes 1,
      ∀ other ∈ nodes, ∀ j < max vnodes 1,
        away node i < away other j ∨ away node i = away other j ∧ node ≤ other) ∧
    (∀ nodes', (∀ name, name ∈ nodes' ↔ name ∈ nodes) → ofNodes hash nodes' vnodes = ring) ∧
    (∀ node, ring.contains node = true ↔ node ∈ nodes) ∧
    (nodes ≠ [] → ∃! node, node ∈ nodes ∧ ring.owns node key = true) ∧
    (∃ slot ≤ ring.points.length,
      (∀ i p, ring.points[i]? = some p → (p.1 < hash key ↔ i < slot)) ∧
      (nodes ≠ [] → slot % ring.points.length < ring.points.length) ∧
      ring.owner? key = (ring.points[slot % ring.points.length]?).map (·.2)) ∧
    ∀ p ∈ ring.points, ∃ i : Nat, ring.nodes[i]? = some p.2 := by
  intro ring away
  refine ⟨owner?_eq_none, fun node => ?_, fun nodes' hmem => ofNodes_congr hmem, fun node => ?_,
    fun hn => existsUnique_owns hn hash vnodes key, ?_, fun p hp => node_of_mem_points hp⟩
  · rw [owner?_eq_some_iff]
    simp only [sooner_iff]
    rfl
  · rw [contains, List.contains_iff_mem]
    exact mem_sortNames
  · obtain ⟨slot, hle, hbelow, hpoint⟩ := pointFrom?_slot (points_ascending hash nodes vnodes) (hash key)
    refine ⟨slot, hle, hbelow, fun hn => Nat.mod_lt _ ?_, congrArg _ hpoint⟩
    exact List.length_pos_iff.2 (mt points_eq_nil.1 hn)

/-- The way from "key" at 7 leads around to 3, where "b" stands with "d". -/
theorem owner_nearest_behind_the_last_point :
    let ring := ofNodes collidingHash ["d", "b", "a", "d"] 0
    ring.owner? "key" = some "b" ∧ ofNodes collidingHash ["a", "b", "d"] 0 = ring ∧
      ring.contains "d" = true ∧ clockwise 7 3 = 4294967292 ∧
      ∃! node, node ∈ ["d", "b", "a", "d"] ∧ ring.owns node "key" = true := by
  obtain ⟨-, howner, hset, hcontains, hone, -⟩ :=
    owner_nearest collidingHash ["d", "b", "a", "d"] 0 "key"
  refine ⟨(howner "b").2 ?_, hset _ fun name => ?_, (hcontains "d").2 (by decide), by decide,
    hone (by decide)⟩
  · decide +kernel
  · simp only [List.mem_cons, List.not_mem_nil]
    grind

end PushRelay.Ring
