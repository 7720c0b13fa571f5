import PushRelay.Tokens

/-!
# Tickets along the links

A `Cell` is a ticket in its slot.  `Holds r cells` says that the links of a registry lead through these
cells from the oldest to the newest and back again, that the other slots are vacant and known to be free
(`Spare`), and that the index knows the slots of these tickets and no others.  Then slots and links do not show: `Lists r ts` gives the
tickets alone, and each operation is an operation on this list.

    r.Holds (xs ++ c :: ys) → (r.removeSlot c.slot).Holds (xs ++ ys)             (Holds.removeSlot)
    r.Lists ts → (r.purge now).Lists (ts.dropWhile fun e => e.2 ≤ now)                 (Lists.purge)
-/

namespace PushRelay.TokenRegistry

/-- A ticket in its slot. -/
structure Cell where
  slot : Nat
  ticket : String
  expire : Int

def Cell.entry (c : Cell) : String × Int := (c.ticket, c.expire)

variable {r r' : TokenRegistry} {cells xs ys : List Cell} {c : Cell} {before after : Option Nat}
  {i j : Nat} {ticket : String} {expire now : Int} {ts : List (String × Int)}

/-! ## Slots -/

theorem slot?_update (r : TokenRegistry) (i : Nat) (f : TokenSlot → TokenSlot) (j : Nat) :
    (r.update i f).slot? j = if j = i then (r.slot? j).map f else r.slot? j := by
  unfold slot? update
  rw [List.getElem?_modify]
  by_cases h : j = i
  · rw [if_pos h]
    cases r.slots[j]? with
    | none => rfl
    | some s => cases s <;> simp [h]
  · rw [if_neg h]
    cases r.slots[j]? with
    | none => rfl
    | some s => simp [Ne.symm h]

theorem slot?_vacate (r : TokenRegistry) (i j : Nat) :
    (r.vacate i).slot? j = if j = i then none else r.slot? j := by
  unfold slot? vacate
  rw [List.getElem?_set]
  by_cases h : j = i
  · rw [if_pos h, if_pos h.symm]
    split <;> rfl
  · rw [if_neg h, if_neg (Ne.symm h)]

/-! ## Chains -/

/-- The first slot of a chain with more slots behind it. -/
def firstSlot : List Cell → Option Nat → Option Nat
  | [], after => after
  | c :: _, _ => some c.slot

/-- The last slot of a chain with more slots in front of it. -/
def lastSlot : Option Nat → List Cell → Option Nat
  | before, [] => before
  | _, c :: cells => lastSlot (some c.slot) cells

/-- The slots of the cells are linked with each other in both directions, and with one slot in front and
one behind. -/
def Linked (r : TokenRegistry) : Option Nat → List Cell → Option Nat → Prop
  | _, [], _ => True
  | before, c :: cells, after =>
    r.slot? c.slot = some ⟨c.ticket, c.expire, before, firstSlot cells after⟩ ∧
      r.Linked (some c.slot) cells after

theorem firstSlot_append (xs ys : List Cell) (after : Option Nat) :
    firstSlot (xs ++ ys) after = firstSlot xs (firstSlot ys after) := by
  cases xs <;> rfl

theorem lastSlot_append (before : Option Nat) (xs ys : List Cell) :
    lastSlot before (xs ++ ys) = lastSlot (lastSlot before xs) ys := by
  induction xs generalizing before with
  | nil => rfl
  | cons x xs ih => exact ih (some x.slot)

theorem linked_append :
    r.Linked before (xs ++ ys) after ↔
      r.Linked before xs (firstSlot ys after) ∧ r.Linked (lastSlot before xs) ys after := by
  induction xs generalizing before with
  | nil => simp [Linked, lastSlot]
  | cons x xs ih =>
    simp only [List.cons_append, Linked, lastSlot, ih, firstSlot_append, and_assoc]

/-- A chain of which no slot changes. -/
theorem Linked.congr (h : r.Linked before cells after)
    (same : ∀ c ∈ cells, r'.slot? c.slot = r.slot? c.slot) : r'.Linked before cells after := by
  induction cells generalizing before with
  | nil => trivial
  | cons c cells ih =>
    exact ⟨(same c List.mem_cons_self).trans h.1,
      ih h.2 fun c' hc' => same c' (List.mem_cons_of_mem c hc')⟩

theorem lastSlot_mem (h : lastSlot none xs = some i) : i ∈ xs.map Cell.slot := by
  rcases List.eq_nil_or_concat xs with rfl | ⟨init, c, rfl⟩
  · cases h
  · rw [List.concat_eq_append, lastSlot_append] at h
    cases h
    simp

theorem firstSlot_mem (h : firstSlot ys none = some i) : i ∈ ys.map Cell.slot := by
  cases ys with
  | nil => cases h
  | cons c ys =>
    cases h
    exact List.mem_cons_self

/-! ## Changing links -/

/-- Makes `newer` come behind `older`, or first of all. -/
def setAfter (r : TokenRegistry) (older newer : Option Nat) : TokenRegistry :=
  match older with
  | some i => r.setNewer i newer
  | none => { r with oldest := newer }

/-- Makes `older` come in front of `newer`, or last of all. -/
def setBefore (r : TokenRegistry) (newer older : Option Nat) : TokenRegistry :=
  match newer with
  | some i => r.setOlder i older
  | none => { r with newest := older }

theorem unlink_eq {s : TokenSlot} (h : r.slot? i = some s) :
    r.unlink i = ((r.setAfter s.older s.newer).setBefore s.newer s.older).update i
      fun s => { s with older := none, newer := none } := by
  unfold unlink
  rw [h]
  rfl

theorem linkNewest_eq (r : TokenRegistry) (i : Nat) :
    r.linkNewest i =
      { (r.update i fun s => { s with older := r.newest, newer := none }).setAfter r.newest (some i)
        with newest := some i } := rfl

theorem slot?_setAfter (r : TokenRegistry) (older newer : Option Nat) (h : older ≠ some j) :
    (r.setAfter older newer).slot? j = r.slot? j := by
  cases older with
  | none => rfl
  | some i =>
    refine (slot?_update r i _ j).trans (if_neg ?_)
    rintro rfl
    exact h rfl

theorem slot?_setBefore (r : TokenRegistry) (newer older : Option Nat) (h : newer ≠ some j) :
    (r.setBefore newer older).slot? j = r.slot? j := by
  cases newer with
  | none => rfl
  | some i =>
    refine (slot?_update r i _ j).trans (if_neg ?_)
    rintro rfl
    exact h rfl

theorem setAfter_newest (r : TokenRegistry) (older newer : Option Nat) :
    (r.setAfter older newer).newest = r.newest := by
  cases older <;> rfl

theorem setBefore_oldest (r : TokenRegistry) (newer older : Option Nat) :
    (r.setBefore newer older).oldest = r.oldest := by
  cases newer <;> rfl

/-- Something else comes behind a chain. -/
theorem Linked.setAfter (h : r.Linked none xs after) (distinct : (xs.map Cell.slot).Nodup)
    (oldest : r.oldest = firstSlot xs after) (after' : Option Nat) :
    (r.setAfter (lastSlot none xs) after').Linked none xs after' ∧
      (r.setAfter (lastSlot none xs) after').oldest = firstSlot xs after' := by
  rcases List.eq_nil_or_concat xs with rfl | ⟨init, c, rfl⟩
  · exact ⟨trivial, rfl⟩
  · rw [List.concat_eq_append] at *
    rw [List.map_append, List.nodup_append] at distinct
    have hlast : lastSlot none (init ++ [c]) = some c.slot := lastSlot_append none init [c]
    obtain ⟨hinit, hc, -⟩ := linked_append.1 h
    rw [hlast]
    refine ⟨linked_append.2 ⟨hinit.congr fun x hx => ?_, ?_, trivial⟩, ?_⟩
    · refine slot?_setAfter r (some c.slot) after' fun he => ?_
      exact distinct.2.2 x.slot (List.mem_map_of_mem hx) c.slot List.mem_cons_self
        (Option.some.inj he).symm
    · refine (slot?_update r c.slot _ c.slot).trans ?_
      rw [if_pos rfl, hc]
      rfl
    · rw [firstSlot_append] at oldest ⊢
      exact oldest

/-- Something else comes in front of a chain. -/
theorem Linked.setBefore (h : r.Linked before ys none) (distinct : (ys.map Cell.slot).Nodup)
    (newest : r.newest = lastSlot before ys) (before' : Option Nat) :
    (r.setBefore (firstSlot ys none) before').Linked before' ys none ∧
      (r.setBefore (firstSlot ys none) before').newest = lastSlot before' ys := by
  cases ys with
  | nil => exact ⟨trivial, rfl⟩
  | cons c ys =>
    refine ⟨⟨?_, h.2.congr fun y hy => ?_⟩, newest⟩
    · refine (slot?_update r c.slot _ c.slot).trans ?_
      rw [if_pos rfl, h.1]
      rfl
    · refine slot?_setBefore r (some c.slot) before' fun he => ?_
      exact (List.nodup_cons.1 distinct).1 (Option.some.inj he ▸ List.mem_map_of_mem hy)

/-! ## Whole chains -/

/-- The links of a registry lead through the cells. -/
structure Chained (r : TokenRegistry) (cells : List Cell) : Prop where
  distinct : (cells.map Cell.slot).Nodup
  linked : r.Linked none cells none
  oldest : r.oldest = firstSlot cells none
  newest : r.newest = lastSlot none cells

/-- The slots on both sides of one in the middle. -/
structure Apart (xs : List Cell) (i : Nat) (ys : List Cell) : Prop where
  left : (xs.map Cell.slot).Nodup
  right : (ys.map Cell.slot).Nodup
  notLeft : i ∉ xs.map Cell.slot
  notRight : i ∉ ys.map Cell.slot
  disjoint : ∀ j ∈ xs.map Cell.slot, j ∉ ys.map Cell.slot

theorem apart (h : ((xs ++ c :: ys).map Cell.slot).Nodup) : Apart xs c.slot ys := by
  rw [List.map_append, List.map_cons, List.nodup_append, List.nodup_cons] at h
  obtain ⟨hx, ⟨hc, hy⟩, hxy⟩ := h
  exact ⟨hx, hy, fun hm => hxy _ hm _ List.mem_cons_self rfl, hc,
    fun i hi hm => hxy i hi i (List.mem_cons_of_mem _ hm) rfl⟩

theorem Apart.nodup (h : Apart xs i ys) : ((xs ++ ys).map Cell.slot).Nodup := by
  rw [List.map_append, List.nodup_append]
  refine ⟨h.left, h.right, fun j hj k hk => ?_⟩
  rintro rfl
  exact h.disjoint j hj hk

theorem Apart.not_mem (h : Apart xs i ys) : i ∉ (xs ++ ys).map Cell.slot := by
  rw [List.map_append, List.mem_append]
  rintro (hm | hm)
  · exact h.notLeft hm
  · exact h.notRight hm

theorem Chained.slot? (h : r.Chained (xs ++ c :: ys)) :
    r.slot? c.slot = some ⟨c.ticket, c.expire, lastSlot none xs, firstSlot ys none⟩ :=
  (linked_append.1 h.linked).2.1

/-- Taking a slot out of the links closes the gap. -/
theorem Chained.unlink (h : r.Chained (xs ++ c :: ys)) :
    (r.unlink c.slot).Chained (xs ++ ys) ∧
      (r.unlink c.slot).slot? c.slot = some ⟨c.ticket, c.expire, none, none⟩ := by
  have hp := apart h.distinct
  obtain ⟨hx, -, hy⟩ := linked_append.1 h.linked
  let older := lastSlot none xs
  let newer := firstSlot ys none
  let r₁ := r.setAfter older newer
  let r₂ := r₁.setBefore newer older
  have holder : ∀ j, j ∉ xs.map Cell.slot → older ≠ some j := fun j hj he => hj (lastSlot_mem he)
  have hnewer : ∀ j, j ∉ ys.map Cell.slot → newer ≠ some j := fun j hj he => hj (firstSlot_mem he)
  -- first the slots in front of the gap are linked with those behind it, then the other way
  obtain ⟨hx₁, ho₁⟩ : r₁.Linked none xs newer ∧ r₁.oldest = firstSlot xs newer :=
    hx.setAfter hp.left (h.oldest.trans (firstSlot_append xs (c :: ys) none)) newer
  have hy₁ : r₁.Linked (some c.slot) ys none := hy.congr fun y hm =>
    slot?_setAfter r older newer (holder y.slot fun hj => hp.disjoint y.slot hj (List.mem_map_of_mem hm))
  have hn₁ : r₁.newest = lastSlot (some c.slot) ys :=
    (setAfter_newest r older newer).trans (h.newest.trans (lastSlot_append none xs (c :: ys)))
  obtain ⟨hy₂, hn₂⟩ : r₂.Linked older ys none ∧ r₂.newest = lastSlot older ys :=
    hy₁.setBefore hp.right hn₁ older
  have hx₂ : r₂.Linked none xs newer := hx₁.congr fun x hm =>
    slot?_setBefore r₁ newer older (hnewer x.slot (hp.disjoint x.slot (List.mem_map_of_mem hm)))
  have hc₂ : r₂.slot? c.slot = r.slot? c.slot :=
    (slot?_setBefore r₁ newer older (hnewer c.slot hp.notRight)).trans
      (slot?_setAfter r older newer (holder c.slot hp.notLeft))
  rw [unlink_eq h.slot?]
  refine ⟨⟨hp.nodup, ?_, ?_, ?_⟩, ?_⟩
  · refine (linked_append.2 ⟨hx₂, hy₂⟩).congr fun d hm => ?_
    refine (slot?_update r₂ c.slot _ d.slot).trans (if_neg fun he => hp.not_mem ?_)
    exact he ▸ List.mem_map_of_mem hm
  · exact (setBefore_oldest r₁ newer older).trans (ho₁.trans (firstSlot_append xs ys none).symm)
  · exact hn₂.trans (lastSlot_append none xs ys).symm
  · refine (slot?_update r₂ c.slot _ c.slot).trans ?_
    rw [if_pos rfl, hc₂, h.slot?]
    rfl

/-- A slot that is not in the links yet becomes the newest. -/
theorem Chained.linkNewest (h : r.Chained cells) (hc : c.slot ∉ cells.map Cell.slot)
    {older newer : Option Nat} (hs : r.slot? c.slot = some ⟨c.ticket, c.expire, older, newer⟩) :
    (r.linkNewest c.slot).Chained (cells ++ [c]) := by
  let last := lastSlot none cells
  let r₁ := r.update c.slot fun s => { s with older := last, newer := none }
  let r₂ := r₁.setAfter last (some c.slot)
  have hr : r.linkNewest c.slot = { r₂ with newest := some c.slot } := by
    rw [linkNewest_eq, h.newest]
  have hne : ∀ d ∈ cells, d.slot ≠ c.slot := fun d hm he => hc (he ▸ List.mem_map_of_mem hm)
  have hcells₁ : r₁.Linked none cells none := h.linked.congr fun d hm =>
    (slot?_update r c.slot _ d.slot).trans (if_neg (hne d hm))
  have hc₁ : r₁.slot? c.slot = some ⟨c.ticket, c.expire, last, none⟩ := by
    refine (slot?_update r c.slot _ c.slot).trans ?_
    rw [if_pos rfl, hs]
    rfl
  obtain ⟨hcells₂, ho₂⟩ : r₂.Linked none cells (some c.slot) ∧
      r₂.oldest = firstSlot cells (some c.slot) :=
    hcells₁.setAfter h.distinct h.oldest (some c.slot)
  have hc₂ : r₂.slot? c.slot = some ⟨c.ticket, c.expire, last, none⟩ :=
    (slot?_setAfter r₁ last (some c.slot) fun he => hc (lastSlot_mem he)).trans hc₁
  have hlinked : r₂.Linked none (cells ++ [c]) none :=
    linked_append.2 ⟨hcells₂, hc₂, trivial⟩
  rw [hr]
  refine ⟨?_, hlinked.congr fun _ _ => rfl, ho₂.trans (firstSlot_append cells [c] none).symm,
    (lastSlot_append none cells [c]).symm⟩
  rw [List.map_append, List.nodup_append]
  refine ⟨h.distinct, by simp, fun j hj k hk => ?_⟩
  rw [List.map_singleton, List.mem_singleton] at hk
  rintro rfl
  exact hc (hk ▸ hj)

/-! ## What the registry holds -/

/-- From `r` to `r'` slots change, but none is filled or vacated, and nothing else but the ends of the
chain changes. -/
structure Relinked (r r' : TokenRegistry) : Prop where
  free : r'.free = r.free
  slots : r'.slots.length = r.slots.length
  index : r'.index = r.index
  capacity : r'.capacity = r.capacity
  ttl : r'.ttl = r.ttl
  occupied : ∀ j, (r'.slot? j).isSome = (r.slot? j).isSome

theorem Relinked.refl (r : TokenRegistry) : Relinked r r := ⟨rfl, rfl, rfl, rfl, rfl, fun _ => rfl⟩

theorem Relinked.trans {r'' : TokenRegistry} (h : Relinked r r') (h' : Relinked r' r'') :
    Relinked r r'' where
  free := h'.free.trans h.free
  slots := h'.slots.trans h.slots
  index := h'.index.trans h.index
  capacity := h'.capacity.trans h.capacity
  ttl := h'.ttl.trans h.ttl
  occupied := fun j => (h'.occupied j).trans (h.occupied j)

theorem relinked_update (r : TokenRegistry) (i : Nat) (f : TokenSlot → TokenSlot) :
    Relinked r (r.update i f) := by
  refine ⟨rfl, List.length_modify .., rfl, rfl, rfl, fun j => ?_⟩
  rw [slot?_update]
  split
  · exact Option.isSome_map
  · rfl

theorem relinked_setAfter (r : TokenRegistry) (older newer : Option Nat) :
    Relinked r (r.setAfter older newer) := by
  cases older with
  | none => exact ⟨rfl, rfl, rfl, rfl, rfl, fun _ => rfl⟩
  | some i => exact relinked_update r i _

theorem relinked_setBefore (r : TokenRegistry) (newer older : Option Nat) :
    Relinked r (r.setBefore newer older) := by
  cases newer with
  | none => exact ⟨rfl, rfl, rfl, rfl, rfl, fun _ => rfl⟩
  | some i => exact relinked_update r i _

theorem relinked_unlink (r : TokenRegistry) (i : Nat) : Relinked r (r.unlink i) := by
  cases hs : r.slot? i with
  | none =>
    unfold unlink
    rw [hs]
    exact .refl r
  | some s =>
    rw [unlink_eq hs]
    exact ((relinked_setAfter r _ _).trans (relinked_setBefore _ _ _)).trans (relinked_update _ i _)

theorem relinked_linkNewest (r : TokenRegistry) (i : Nat) : Relinked r (r.linkNewest i) := by
  rw [linkNewest_eq]
  have h := (relinked_update r i fun s => { s with older := r.newest, newer := none }).trans
    (relinked_setAfter _ r.newest (some i))
  exact { h with }

/-- The free slots are those that are vacant, each of them once. -/
structure Spare (r : TokenRegistry) : Prop where
  distinct : r.free.Nodup
  vacant : ∀ i, i ∈ r.free ↔ i < r.slots.length ∧ r.slot? i = none

theorem slot?_of_length_le (h : r.slots.length ≤ i) : r.slot? i = none := by
  unfold slot?
  rw [List.getElem?_eq_none h]
  rfl

theorem lt_of_slot? (h : (r.slot? i).isSome = true) : i < r.slots.length := by
  refine Nat.lt_of_not_le fun hge => ?_
  rw [slot?_of_length_le hge] at h
  cases h

theorem vacant_of_cons {rest : List Nat} (h : r.free = i :: rest) : r.vacant = i := by
  unfold vacant
  rw [h]
  rfl

theorem vacant_of_nil (h : r.free = []) : r.vacant = r.slots.length := by
  unfold vacant
  rw [h]
  rfl

theorem Spare.slot?_vacant (h : r.Spare) : r.slot? r.vacant = none := by
  cases hfree : r.free with
  | nil => exact slot?_of_length_le (Nat.le_of_eq (vacant_of_nil hfree).symm)
  | cons i rest =>
    rw [vacant_of_cons hfree]
    exact ((h.vacant i).1 (hfree ▸ List.mem_cons_self)).2

theorem Spare.slot?_fill (h : r.Spare) (s : TokenSlot) (j : Nat) :
    (r.fill s).slot? j = if j = r.vacant then some s else r.slot? j := by
  cases hfree : r.free with
  | nil =>
    rw [vacant_of_nil hfree]
    simp only [fill, hfree, slot?]
    rw [List.getElem?_append]
    by_cases hj : j = r.slots.length
    · rw [if_pos hj, if_neg (by omega), hj, Nat.sub_self]
      rfl
    · rw [if_neg hj]
      split
      · rfl
      · next hge => rw [List.getElem?_eq_none (by simp; omega), List.getElem?_eq_none (by omega)]
  | cons i rest =>
    have hlt : i < r.slots.length := ((h.vacant i).1 (hfree ▸ List.mem_cons_self)).1
    rw [vacant_of_cons hfree]
    simp only [fill, hfree, slot?]
    rw [List.getElem?_set]
    by_cases hj : j = i
    · rw [if_pos hj, if_pos hj.symm, if_pos hlt]
      rfl
    · rw [if_neg hj, if_neg (Ne.symm hj)]

/-- The slot that has been filled is not free any more. -/
theorem Spare.fill (h : r.Spare) (s : TokenSlot) : (r.fill s).Spare := by
  have hslot := h.slot?_fill s
  cases hfree : r.free with
  | nil =>
    rw [vacant_of_nil hfree] at hslot
    have hfill : (r.fill s).free = [] ∧ (r.fill s).slots.length = r.slots.length + 1 := by
      simp [TokenRegistry.fill, hfree]
    refine ⟨hfill.1 ▸ List.nodup_nil, fun j => ?_⟩
    rw [hfill.1, hfill.2, hslot]
    refine iff_of_false List.not_mem_nil ?_
    rintro ⟨hj, hnone⟩
    split at hnone
    · cases hnone
    · have hmem := (h.vacant j).2 ⟨by omega, hnone⟩
      rw [hfree] at hmem
      cases hmem
  | cons i rest =>
    rw [vacant_of_cons hfree] at hslot
    have hfill : (r.fill s).free = rest ∧ (r.fill s).slots.length = r.slots.length := by
      simp [TokenRegistry.fill, hfree]
    have hdistinct := h.distinct
    rw [hfree, List.nodup_cons] at hdistinct
    refine ⟨hfill.1 ▸ hdistinct.2, fun j => ?_⟩
    have hvacant := h.vacant j
    rw [hfree, List.mem_cons] at hvacant
    rw [hfill.1, hfill.2, hslot]
    by_cases hj : j = i
    · rw [if_pos hj]
      exact iff_of_false (hj ▸ hdistinct.1) (by simp)
    · rw [if_neg hj, ← hvacant]
      exact ⟨Or.inr, fun hm => hm.resolve_left hj⟩

theorem Spare.vacate (h : r.Spare) (hi : (r.slot? i).isSome = true) : (r.vacate i).Spare := by
  have hnot : i ∉ r.free := fun hm => by
    rw [((h.vacant i).1 hm).2] at hi
    cases hi
  refine ⟨List.nodup_cons.2 ⟨hnot, h.distinct⟩, fun j => ?_⟩
  rw [slot?_vacate]
  show j ∈ i :: r.free ↔ j < (r.slots.set i none).length ∧ _
  rw [List.length_set, List.mem_cons, h.vacant]
  by_cases hj : j = i
  · rw [if_pos hj]
    exact iff_of_true (Or.inl hj) ⟨hj ▸ lt_of_slot? hi, rfl⟩
  · rw [if_neg hj]
    exact ⟨fun hm => hm.resolve_left hj, Or.inr⟩

theorem Spare.relinked (h : r.Spare) (hr : Relinked r r') : r'.Spare := by
  refine ⟨hr.free ▸ h.distinct, fun i => ?_⟩
  rw [hr.free, hr.slots, h.vacant, ← Option.not_isSome_iff_eq_none, ← Option.not_isSome_iff_eq_none,
    hr.occupied]

/-- The registry holds the tickets of the cells, from the oldest to the newest, and no others. -/
structure Holds (r : TokenRegistry) (cells : List Cell) : Prop extends Chained r cells where
  spare : r.Spare
  occupied : ∀ i, (r.slot? i).isSome = true ↔ i ∈ cells.map Cell.slot
  index : ∀ ticket i, r.index.get? ticket = some i ↔ ∃ c ∈ cells, c.ticket = ticket ∧ c.slot = i

theorem holds_nil (slots : r.slots = []) (free : r.free = []) (index : r.index = .empty) (oldest : r.oldest = none)
    (newest : r.newest = none) : r.Holds [] := by
  have hnone : ∀ i, r.slot? i = none := by
    intro i
    unfold slot?
    rw [slots]
    rfl
  refine ⟨⟨List.nodup_nil, trivial, oldest, newest⟩, ⟨free ▸ List.nodup_nil, fun i => ?_⟩, fun i => ?_,
    fun ticket i => ?_⟩
  · simp [free, slots]
  · simp [hnone]
  · simp [index]

/-- A ticket stands in one slot. -/
theorem Holds.slot_eq {c' : Cell} (h : r.Holds cells) (hc : c ∈ cells) (hc' : c' ∈ cells)
    (ht : c.ticket = c'.ticket) : c.slot = c'.slot := by
  have hi := (h.index c.ticket c.slot).2 ⟨c, hc, rfl, rfl⟩
  have hi' := (h.index c.ticket c'.slot).2 ⟨c', hc', ht.symm, rfl⟩
  exact Option.some.inj (hi.symm.trans hi')

theorem Holds.ticket_ne {d : Cell} (h : r.Holds (xs ++ c :: ys)) (hd : d ∈ xs ++ ys) :
    d.ticket ≠ c.ticket := by
  intro ht
  have hmem : d ∈ xs ++ c :: ys :=
    (List.mem_append.1 hd).elim (List.mem_append_left _) fun hy =>
      List.mem_append_right _ (List.mem_cons_of_mem c hy)
  have hslot := h.slot_eq hmem (List.mem_append_right xs List.mem_cons_self) ht
  exact (apart h.distinct).not_mem (hslot ▸ List.mem_map_of_mem hd)

/-- The slot for the next ticket is filled, and the links do not lead there yet. -/
theorem Holds.chained_fill (h : r.Holds cells) (s : TokenSlot) : (r.fill s).Chained cells := by
  have hends : (r.fill s).oldest = r.oldest ∧ (r.fill s).newest = r.newest := by
    unfold TokenRegistry.fill
    split <;> exact ⟨rfl, rfl⟩
  refine ⟨h.distinct, h.linked.congr fun d hd => ?_, hends.1.trans h.oldest, hends.2.trans h.newest⟩
  refine (h.spare.slot?_fill s d.slot).trans (if_neg fun he => ?_)
  have hd' := (h.occupied d.slot).2 (List.mem_map_of_mem hd)
  rw [he, h.spare.slot?_vacant] at hd'
  cases hd'

theorem mem_middle {d : Cell} : d ∈ xs ++ c :: ys ↔ d = c ∨ d ∈ xs ++ ys := by
  rw [List.mem_append, List.mem_cons, List.mem_append]
  constructor
  · rintro (hx | rfl | hy)
    · exact Or.inr (Or.inl hx)
    · exact Or.inl rfl
    · exact Or.inr (Or.inr hy)
  · rintro (rfl | hx | hy)
    · exact Or.inr (Or.inl rfl)
    · exact Or.inl hx
    · exact Or.inr (Or.inr hy)

theorem Holds.removeSlot (h : r.Holds (xs ++ c :: ys)) :
    (r.removeSlot c.slot).Holds (xs ++ ys) := by
  obtain ⟨hu, -⟩ := h.toChained.unlink
  have hrel := relinked_unlink r c.slot
  have hp := apart h.distinct
  have hr : r.removeSlot c.slot =
      { (r.unlink c.slot).vacate c.slot with
        index := (r.unlink c.slot).index.erase c.ticket } := by
    unfold TokenRegistry.removeSlot
    rw [h.toChained.slot?]
    rfl
  have hspare : ((r.unlink c.slot).vacate c.slot).Spare := by
    refine (h.spare.relinked hrel).vacate ?_
    rw [hrel.occupied, h.toChained.slot?]
    rfl
  rw [hr]
  refine ⟨⟨hu.distinct, hu.linked.congr fun d hd => ?_, hu.oldest, hu.newest⟩,
    ⟨hspare.distinct, hspare.vacant⟩, fun i => ?_, fun ticket i => ?_⟩
  · refine (slot?_vacate _ c.slot d.slot).trans (if_neg fun he => hp.not_mem ?_)
    exact he ▸ List.mem_map_of_mem hd
  · show ((TokenRegistry.vacate _ c.slot).slot? i).isSome = true ↔ _
    rw [slot?_vacate]
    by_cases hi : i = c.slot
    · rw [if_pos hi, hi]
      exact iff_of_false (by simp) hp.not_mem
    · rw [if_neg hi, hrel.occupied, h.occupied]
      simp [hi]
  · show ((r.unlink c.slot).index.erase c.ticket).get? ticket = some i ↔ _
    rw [hrel.index, Table.get?_erase]
    split
    · next ht =>
      refine iff_of_false (by simp) ?_
      rintro ⟨d, hd, rfl, -⟩
      exact h.ticket_ne hd ht
    · next ht =>
      rw [h.index]
      constructor
      · rintro ⟨d, hd, rfl, hi⟩
        exact ⟨d, (mem_middle.1 hd).resolve_left fun he => ht (he ▸ rfl), rfl, hi⟩
      · rintro ⟨d, hd, hdt⟩
        exact ⟨d, mem_middle.2 (Or.inr hd), hdt⟩

/-- A new ticket is put into a vacant slot and becomes the newest. -/
theorem Holds.append (h : r.Holds cells) (hn : ∀ c ∈ cells, c.ticket ≠ ticket) (expire : Int) :
    let filled := (r.fill ⟨ticket, expire, none, none⟩).linkNewest r.vacant
    ({ filled with index := filled.index.insert ticket r.vacant } : TokenRegistry).Holds
      (cells ++ [⟨r.vacant, ticket, expire⟩]) := by
  intro filled
  let c : Cell := ⟨r.vacant, ticket, expire⟩
  let r₁ := r.fill ⟨ticket, expire, none, none⟩
  have hvacant : r.vacant ∉ cells.map Cell.slot := by
    intro hm
    have hs := (h.occupied r.vacant).2 hm
    rw [h.spare.slot?_vacant] at hs
    cases hs
  have hslot : ∀ j, r₁.slot? j = if j = r.vacant then some ⟨ticket, expire, none, none⟩
      else r.slot? j := h.spare.slot?_fill _
  have hindex : r₁.index = r.index := by
    unfold r₁ TokenRegistry.fill
    split <;> rfl
  have hrel : Relinked r₁ filled := relinked_linkNewest r₁ r.vacant
  have hspare : filled.Spare := (h.spare.fill _).relinked hrel
  have hc : filled.Chained (cells ++ [c]) :=
    (h.chained_fill _).linkNewest (c := c) hvacant ((hslot r.vacant).trans (if_pos rfl))
  refine ⟨⟨hc.distinct, hc.linked.congr fun _ _ => rfl, hc.oldest, hc.newest⟩,
    ⟨hspare.distinct, hspare.vacant⟩, fun i => ?_, fun t i => ?_⟩
  · show (filled.slot? i).isSome = true ↔ _
    rw [hrel.occupied, hslot, List.map_append, List.mem_append]
    split
    · next hi => exact iff_of_true rfl (Or.inr (List.mem_singleton.2 hi))
    · next hi =>
      rw [h.occupied]
      exact ⟨Or.inl, fun hm => hm.resolve_right fun he => hi (List.mem_singleton.1 he)⟩
  · show (filled.index.insert ticket r.vacant).get? t = some i ↔ _
    rw [hrel.index, Table.get?_insert]
    split
    · next ht =>
      subst ht
      constructor
      · intro hi
        exact ⟨c, List.mem_append_right _ List.mem_cons_self, rfl, Option.some.inj hi⟩
      · rintro ⟨d, hd, hdt, rfl⟩
        rcases List.mem_append.1 hd with hd | hd
        · exact absurd hdt (hn d hd)
        · rw [List.mem_singleton.1 hd]
    · next ht =>
      rw [hindex, h.index]
      constructor
      · rintro ⟨d, hd, hdi⟩
        exact ⟨d, List.mem_append_left _ hd, hdi⟩
      · rintro ⟨d, hd, hdt, hdi⟩
        refine ⟨d, (List.mem_append.1 hd).resolve_right fun he => ht ?_, hdt, hdi⟩
        rw [← hdt, List.mem_singleton.1 he]

/-- A ticket that is good for longer stays where it is in the links. -/
theorem Chained.setExpire (h : r.Chained (xs ++ c :: ys)) (expire : Int) :
    (r.update c.slot fun s => { s with expire }).Chained (xs ++ { c with expire } :: ys) := by
  have hp := apart h.distinct
  obtain ⟨hx, hc, hy⟩ := linked_append.1 h.linked
  have hkept : ∀ d : Cell, d.slot ≠ c.slot →
      (r.update c.slot fun s => { s with expire }).slot? d.slot = r.slot? d.slot :=
    fun d hd => (slot?_update r c.slot _ d.slot).trans (if_neg hd)
  refine ⟨?_, linked_append.2 ⟨hx.congr fun d hd => hkept d fun he => hp.notLeft ?_, ?_,
    hy.congr fun d hd => hkept d fun he => hp.notRight ?_⟩, h.oldest.trans ?_, h.newest.trans ?_⟩
  · have hd := h.distinct
    rw [List.map_append, List.map_cons] at hd ⊢
    exact hd
  · exact he ▸ List.mem_map_of_mem hd
  · refine (slot?_update r c.slot _ c.slot).trans ?_
    rw [if_pos rfl, hc]
    rfl
  · exact he ▸ List.mem_map_of_mem hd
  · rw [firstSlot_append, firstSlot_append]
    rfl
  · rw [lastSlot_append, lastSlot_append]
    rfl

/-- A ticket that is good for longer becomes the newest. -/
theorem Holds.renew (h : r.Holds (xs ++ c :: ys)) (expire : Int) :
    (((r.update c.slot fun s => { s with expire }).unlink c.slot).linkNewest c.slot).Holds
      (xs ++ ys ++ [{ c with expire }]) := by
  have hrel : Relinked r
      (((r.update c.slot fun s => { s with expire }).unlink c.slot).linkNewest c.slot) :=
    ((relinked_update r c.slot _).trans (relinked_unlink _ c.slot)).trans
      (relinked_linkNewest _ c.slot)
  obtain ⟨hu, hs⟩ := (h.toChained.setExpire expire).unlink
  have hc := hu.linkNewest (c := { c with expire }) (apart h.distinct).not_mem hs
  -- the same slots with the same tickets
  have hsame : ∀ p : Nat → String → Prop, (∃ d ∈ xs ++ c :: ys, p d.slot d.ticket) ↔
      ∃ d ∈ xs ++ ys ++ [{ c with expire }], p d.slot d.ticket := by
    intro p
    constructor
    · rintro ⟨d, hd, hp⟩
      rcases mem_middle.1 hd with rfl | hd
      · exact ⟨_, List.mem_append_right _ List.mem_cons_self, hp⟩
      · exact ⟨d, List.mem_append_left _ hd, hp⟩
    · rintro ⟨d, hd, hp⟩
      rcases List.mem_append.1 hd with hd | hd
      · exact ⟨d, mem_middle.2 (Or.inr hd), hp⟩
      · rw [List.mem_singleton.1 hd] at hp
        exact ⟨c, mem_middle.2 (Or.inl rfl), hp⟩
  refine ⟨hc, h.spare.relinked hrel, fun i => ?_, fun ticket i => ?_⟩
  · rw [hrel.occupied, h.occupied, List.mem_map, List.mem_map]
    exact hsame fun j _ => j = i
  · rw [hrel.index, h.index]
    exact hsame fun j t => t = ticket ∧ j = i

/-! ## Tickets without their slots -/

/-- The registry lists these tickets with the instants from which they are no good, the oldest first. -/
structure Lists (r : TokenRegistry) (capacity ttl : Nat) (ts : List (String × Int)) : Prop where
  capacity : r.capacity = capacity
  ttl : r.ttl = ttl
  holds : ∃ cells, r.Holds cells ∧ cells.map Cell.entry = ts

section Lists

variable {capacity ttl : Nat} {ps qs : List (String × Int)}

theorem lists_new (capacity ttl : Nat) : (new capacity ttl).Lists (max capacity 1) ttl [] :=
  ⟨rfl, rfl, [], holds_nil rfl rfl rfl rfl rfl, rfl⟩

theorem Lists.clear (h : r.Lists capacity ttl ts) : r.clear.Lists capacity ttl [] :=
  ⟨h.capacity, h.ttl, [], holds_nil rfl rfl rfl rfl rfl, rfl⟩

theorem Holds.distinct_tickets (h : r.Holds cells) : (cells.map Cell.ticket).Nodup := by
  rw [List.Nodup, List.pairwise_map]
  have hslots := h.distinct
  rw [List.Nodup, List.pairwise_map] at hslots
  exact hslots.imp_of_mem fun hc hd hne ht => hne (h.slot_eq hc hd ht)

theorem Holds.size (h : r.Holds cells) : r.size = cells.length := by
  have hperm : (r.index.entries.map Prod.fst).Perm (cells.map Cell.ticket) := by
    rw [List.perm_ext_iff_of_nodup r.index.distinct h.distinct_tickets]
    intro ticket
    rw [List.mem_map, List.mem_map]
    constructor
    · rintro ⟨e, he, rfl⟩
      obtain ⟨c, hc, ht, -⟩ := (h.index e.1 e.2).1 (Table.get?_eq_some.2 he)
      exact ⟨c, hc, ht⟩
    · rintro ⟨c, hc, rfl⟩
      exact ⟨_, Table.get?_eq_some.1 ((h.index c.ticket c.slot).2 ⟨c, hc, rfl, rfl⟩), rfl⟩
  have hlen := hperm.length_eq
  rw [List.length_map, List.length_map] at hlen
  exact hlen

theorem Lists.size (h : r.Lists capacity ttl ts) : r.size = ts.length := by
  obtain ⟨cells, hcells, rfl⟩ := h.holds
  rw [hcells.size, List.length_map]

theorem Lists.distinct (h : r.Lists capacity ttl ts) : (ts.map Prod.fst).Nodup := by
  obtain ⟨cells, hcells, rfl⟩ := h.holds
  rw [List.map_map]
  exact hcells.distinct_tickets

theorem Lists.contains (h : r.Lists capacity ttl ts) :
    r.index.contains ticket = true ↔ ticket ∈ ts.map Prod.fst := by
  obtain ⟨cells, hcells, rfl⟩ := h.holds
  rw [Table.contains, Option.isSome_iff_exists, List.map_map, List.mem_map]
  constructor
  · rintro ⟨i, hi⟩
    obtain ⟨c, hc, ht, -⟩ := (hcells.index ticket i).1 hi
    exact ⟨c, hc, ht⟩
  · rintro ⟨c, hc, ht⟩
    exact ⟨c.slot, (hcells.index ticket c.slot).2 ⟨c, hc, ht, rfl⟩⟩

theorem Linked.walk {fuel : Nat} (h : r.Linked before cells none) (hfuel : cells.length ≤ fuel) :
    (r.walk fuel (firstSlot cells none)).map (fun s => (s.ticket, s.expire)) =
      cells.map Cell.entry := by
  induction cells generalizing before fuel with
  | nil => cases fuel <;> rfl
  | cons c cells ih =>
    cases fuel with
    | zero => cases hfuel
    | succ fuel =>
      have htail := ih h.2 (Nat.le_of_succ_le_succ hfuel)
      show (r.walk (fuel + 1) (some c.slot)).map _ = _
      rw [TokenRegistry.walk, h.1]
      exact congrArg (c.entry :: ·) htail

/-- The walk along the links comes by exactly these tickets. -/
theorem Lists.tickets (h : r.Lists capacity ttl ts) : r.tickets = ts := by
  obtain ⟨cells, hcells, rfl⟩ := h.holds
  unfold TokenRegistry.tickets
  rw [hcells.oldest]
  exact hcells.linked.walk (Nat.le_of_eq hcells.size.symm)

theorem removeSlot_settings (r : TokenRegistry) (i : Nat) :
    (r.removeSlot i).capacity = r.capacity ∧ (r.removeSlot i).ttl = r.ttl := by
  have hrel := relinked_unlink r i
  unfold removeSlot
  split
  · exact ⟨rfl, rfl⟩
  · exact ⟨hrel.capacity, hrel.ttl⟩

theorem fill_settings (r : TokenRegistry) (s : TokenSlot) :
    (r.fill s).capacity = r.capacity ∧ (r.fill s).ttl = r.ttl := by
  unfold fill
  split <;> exact ⟨rfl, rfl⟩

/-- The slot of a ticket, and what becomes of the list when the ticket is taken out or renewed. -/
theorem Lists.locate (h : r.Lists capacity ttl (ps ++ (ticket, expire) :: qs)) :
    ∃ i s, r.index.get? ticket = some i ∧ r.slot? i = some s ∧ s.expire = expire ∧
      (ps = [] → r.oldest = some i) ∧
      (r.removeSlot i).Lists capacity ttl (ps ++ qs) ∧
      ∀ expire', (((r.update i fun s => { s with expire := expire' }).unlink i).linkNewest i).Lists
        capacity ttl (ps ++ qs ++ [(ticket, expire')]) := by
  obtain ⟨cells, hcells, hmap⟩ := h.holds
  obtain ⟨xs, rest, rfl, rfl, hrest⟩ := List.map_eq_append_iff.1 hmap
  obtain ⟨c, ys, rfl, hc, rfl⟩ := List.map_eq_cons_iff.1 hrest
  cases hc
  obtain ⟨hcap, httl⟩ := removeSlot_settings r c.slot
  refine ⟨c.slot, _, (hcells.index _ _).2 ⟨c, mem_middle.2 (Or.inl rfl), rfl, rfl⟩,
    hcells.toChained.slot?, rfl, fun hnil => ?_, ⟨hcap.trans h.capacity, httl.trans h.ttl,
      xs ++ ys, hcells.removeSlot, List.map_append⟩, fun expire' => ?_⟩
  · rw [hcells.oldest, List.map_eq_nil_iff.1 hnil]
    rfl
  · have hrel := ((relinked_update r c.slot fun s => { s with expire := expire' }).trans
      (relinked_unlink _ c.slot)).trans (relinked_linkNewest _ c.slot)
    refine ⟨hrel.capacity.trans h.capacity, hrel.ttl.trans h.ttl, _, hcells.renew expire', ?_⟩
    rw [List.map_append, List.map_append]
    rfl

/-! ## Operations -/

/-- Tickets without the expired ones at the oldest end. -/
def fresh (now : Int) (ts : List (String × Int)) : List (String × Int) :=
  ts.dropWhile fun e => decide (e.2 ≤ now)

theorem Lists.oldest_nil (h : r.Lists capacity ttl []) : r.oldest = none := by
  obtain ⟨cells, hcells, hmap⟩ := h.holds
  rw [hcells.oldest, List.map_eq_nil_iff.1 hmap]
  rfl

theorem Lists.oldest_cons {e : String × Int} (h : r.Lists capacity ttl (e :: ts)) :
    ∃ i s, r.oldest = some i ∧ r.slot? i = some s ∧ s.expire = e.2 ∧
      (r.removeSlot i).Lists capacity ttl ts := by
  obtain ⟨ticket, expire⟩ := e
  have h : r.Lists capacity ttl ([] ++ (ticket, expire) :: ts) := h
  obtain ⟨i, s, -, hs, hexpire, hoth, hremove, -⟩ := h.locate
  exact ⟨i, s, hoth rfl, hs, hexpire, hremove⟩

theorem Lists.purgeWithin {fuel : Nat} (h : r.Lists capacity ttl ts) (hfuel : ts.length ≤ fuel) :
    (purgeWithin now fuel r).Lists capacity ttl (fresh now ts) := by
  induction fuel generalizing r ts with
  | zero =>
    rw [List.length_eq_zero_iff.1 (Nat.le_zero.1 hfuel)] at h ⊢
    exact h
  | succ fuel ih =>
    unfold TokenRegistry.purgeWithin
    cases ts with
    | nil =>
      rw [h.oldest_nil]
      exact h
    | cons e ts =>
      obtain ⟨i, s, hoth, hs, hexpire, hremove⟩ := h.oldest_cons
      rw [hoth]
      simp only [hs]
      unfold fresh
      rw [List.dropWhile_cons]
      by_cases hlive : now < e.2
      · rw [if_pos (hexpire ▸ hlive), if_neg (by simpa using hlive)]
        exact h
      · rw [if_neg (hexpire ▸ hlive), if_pos (by simpa using hlive)]
        exact ih hremove (Nat.le_of_succ_le_succ hfuel)

theorem Lists.purge (h : r.Lists capacity ttl ts) (now : Int) :
    (r.purge now).Lists capacity ttl (fresh now ts) :=
  h.purgeWithin (Nat.le_of_eq h.size.symm)

theorem Lists.makeRoomWithin {fuel : Nat} (h : r.Lists capacity ttl ts) (hcap : 0 < capacity)
    (hfuel : ts.length ≤ fuel) :
    (makeRoomWithin fuel r).Lists capacity ttl (ts.drop (ts.length + 1 - capacity)) := by
  induction fuel generalizing r ts with
  | zero =>
    rw [List.length_eq_zero_iff.1 (Nat.le_zero.1 hfuel)] at h ⊢
    rw [List.drop_nil]
    exact h
  | succ fuel ih =>
    unfold TokenRegistry.makeRoomWithin
    rw [h.size, h.capacity]
    by_cases hlt : ts.length < capacity
    · rw [if_pos hlt, Nat.sub_eq_zero_of_le hlt]
      exact h
    · rw [if_neg hlt]
      cases ts with
      | nil => exact absurd hcap hlt
      | cons e ts =>
        obtain ⟨i, s, hoth, -, -, hremove⟩ := h.oldest_cons
        have hdrop : (e :: ts).length + 1 - capacity = ts.length + 1 - capacity + 1 := by
          rw [List.length_cons] at hlt ⊢
          omega
        rw [hoth, hdrop, List.drop_succ_cons]
        exact ih hremove (Nat.le_of_succ_le_succ hfuel)

theorem Lists.makeRoom (h : r.Lists capacity ttl ts) (hcap : 0 < capacity) :
    r.makeRoom.Lists capacity ttl (ts.drop (ts.length + 1 - capacity)) :=
  h.makeRoomWithin hcap (Nat.le_of_eq h.size.symm)

/-- A ticket that is still good is not registered again. -/
theorem Lists.add_registered (h : r.Lists capacity ttl ts)
    (hm : ticket ∈ (fresh now ts).map Prod.fst) :
    r.add ticket now = (.error .alreadyRegistered, r.purge now) := by
  unfold add
  simp only
  rw [if_pos ((h.purge now).contains.2 hm)]

/-- A new ticket takes the place of the oldest ones, if it needs to. -/
theorem Lists.add_new (h : r.Lists capacity ttl ts) (hcap : 0 < capacity)
    (hm : ticket ∉ (fresh now ts).map Prod.fst) :
    ∃ r', r.add ticket now = (.ok (), r') ∧ r'.Lists capacity ttl
      ((fresh now ts).drop ((fresh now ts).length + 1 - capacity) ++ [(ticket, now + ttl)]) := by
  have hroom := (h.purge now).makeRoom hcap
  obtain ⟨cells, hcells, hmap⟩ := hroom.holds
  have hn : ∀ c ∈ cells, c.ticket ≠ ticket := by
    rintro c hc rfl
    have hmem : c.entry ∈ (fresh now ts).drop ((fresh now ts).length + 1 - capacity) :=
      hmap ▸ List.mem_map_of_mem hc
    exact hm (List.mem_map_of_mem (List.mem_of_mem_drop hmem))
  let room := (r.purge now).makeRoom
  let filled := (room.fill ⟨ticket, now + ttl, none, none⟩).linkNewest room.vacant
  have hadd : r.add ticket now =
      (.ok (), { filled with index := filled.index.insert ticket room.vacant }) := by
    unfold add
    simp only
    rw [if_neg fun hc => hm ((h.purge now).contains.1 hc), hroom.ttl]
  have hrel : Relinked (room.fill ⟨ticket, now + ttl, none, none⟩) filled :=
    relinked_linkNewest _ room.vacant
  obtain ⟨hcapacity, httl⟩ := fill_settings room ⟨ticket, now + ttl, none, none⟩
  refine ⟨_, hadd, (hrel.capacity.trans hcapacity).trans hroom.capacity,
    (hrel.ttl.trans httl).trans hroom.ttl, _,
    hcells.append hn (now + ttl), ?_⟩
  rw [List.map_append, hmap]
  rfl

theorem Lists.auth_unknown (h : r.Lists capacity ttl ts) (hm : ticket ∉ ts.map Prod.fst) :
    r.auth ticket now = (.error .notFound, r.purge now) := by
  have hnone : r.index.get? ticket = none := by
    have hc := mt h.contains.1 hm
    rwa [Table.contains, Bool.not_eq_true, Option.isSome_eq_false_iff, Option.isNone_iff_eq_none]
      at hc
  unfold auth
  rw [hnone]

/-- A ticket that is no good any more is taken out. -/
theorem Lists.auth_expired (h : r.Lists capacity ttl (ps ++ (ticket, expire) :: qs))
    (he : expire ≤ now) :
    ∃ r', r.auth ticket now = (.error .expired, r') ∧
      r'.Lists capacity ttl (fresh now (ps ++ qs)) := by
  obtain ⟨i, s, hi, hs, hexpire, -, hremove, -⟩ := h.locate
  refine ⟨_, ?_, hremove.purge now⟩
  unfold auth
  rw [hi]
  simp only [hs]
  rw [if_pos (hexpire ▸ he)]

/-- A ticket that is good becomes the newest and is good for another lifetime. -/
theorem Lists.auth_good (h : r.Lists capacity ttl (ps ++ (ticket, expire) :: qs))
    (he : now < expire) :
    ∃ r', r.auth ticket now = (.ok (), r') ∧
      r'.Lists capacity ttl (fresh now (ps ++ qs ++ [(ticket, now + ttl)])) := by
  obtain ⟨i, s, hi, hs, hexpire, -, -, hrenew⟩ := h.locate
  refine ⟨_, ?_, (hrenew (now + ttl)).purge now⟩
  unfold auth
  rw [hi]
  simp only [hs]
  rw [if_neg (Int.not_le.2 (hexpire ▸ he)), h.ttl]

end Lists

end PushRelay.TokenRegistry
