import PushRelay.Log

/-!
# What logs hold

Membership in a log after each of its operations.  Messages expire for good (`Message.live_earlier`).
-/

namespace PushRelay

/-- A message that has not expired had not expired before. -/
theorem Message.live_earlier {m : Message} {now now' : Int} (h : m.isExpired now' = false)
    (hn : now ≤ now') : m.isExpired now = false := by
  unfold isExpired at h ⊢
  simp only [decide_eq_false_iff_not] at h ⊢
  omega

namespace MessageLog

variable {log log' : MessageLog} {m a : Message} {bound : Nat} {out : List Message}

@[simp] theorem mem_after {id : Int} : a ∈ log.after id ↔ a ∈ log.entries ∧ id < a.id := by
  simp [after]

theorem after_ascending (log : MessageLog) (id : Int) :
    (log.after id).Pairwise fun a b => a.id < b.id :=
  log.ascending.sublist List.filter_sublist

@[simp] theorem mem_remove {p : Message → Bool} :
    a ∈ (log.remove p).entries ↔ a ∈ log.entries ∧ p a = false := by
  simp [remove]

/-- Nothing is evicted from a log with room. -/
theorem makeRoom_of_lt {l : List Message} (h : l.length < bound) : (makeRoom bound l).2 = l := by
  cases l with
  | nil => rfl
  | cons m l =>
    unfold makeRoom
    rw [if_neg (Nat.not_le.2 h)]

theorem mem_of_insertBounded (h : log.insertBounded m bound = .ok (out, log'))
    (ha : a ∈ log'.entries) : a = m ∨ a ∈ log.entries := by
  have hsub := (makeRoom_sublist bound log.entries).subset
  unfold insertBounded at h
  split at h
  · simp only [] at h
    split at h
    · cases h
      rcases mem_place.1 ha with rfl | ha
      · exact Or.inl rfl
      · exact Or.inr (hsub ha)
    · cases h
      exact Or.inr (hsub ha)
  · cases h

/-- A log that may hold anything holds what was inserted last. -/
theorem self_mem_insertBounded (h : log.insertBounded m bound = .ok (out, log')) (hb : 0 < bound) :
    m ∈ log'.entries := by
  unfold insertBounded at h
  split at h
  · simp only [if_pos hb] at h
    cases h
    exact mem_place.2 (Or.inl rfl)
  · cases h

/-- Room is made by taking off as many of the first as are too many. -/
theorem makeRoom_eq (bound : Nat) (l : List Message) :
    makeRoom bound l = (l.take (l.length + 1 - bound), l.drop (l.length + 1 - bound)) := by
  induction l with
  | nil => simp [makeRoom]
  | cons m l ih =>
    unfold makeRoom
    split
    · next hle =>
      rw [List.length_cons] at hle
      have hone : (m :: l).length + 1 - bound = (l.length + 1 - bound) + 1 := by
        rw [List.length_cons]
        omega
      rw [ih, hone, List.take_succ_cons, List.drop_succ_cons]
    · next hlt =>
      have hnone : (m :: l).length + 1 - bound = 0 := by omega
      rw [hnone, List.take_zero, List.drop_zero]

/-- A message stays as long as those above it leave room for it and the new one. -/
theorem mem_insertBounded_of_few {xs ys : List Message}
    (h : log.insertBounded m bound = .ok (out, log')) (hl : log.entries = xs ++ a :: ys)
    (hb : ys.length + 1 < bound) : a ∈ log'.entries := by
  unfold insertBounded at h
  split at h
  · simp only [if_pos (Nat.zero_lt_of_lt hb)] at h
    cases h
    refine mem_place.2 (Or.inr ?_)
    have hlen : log.entries.length + 1 - bound ≤ xs.length := by
      rw [hl, List.length_append, List.length_cons]
      omega
    rw [makeRoom_eq, hl, List.drop_append_of_le_length (hl ▸ hlen)]
    exact List.mem_append_right _ List.mem_cons_self
  · cases h

/-- A log with room keeps all that it holds. -/
theorem mem_insertBounded_of_mem (h : log.insertBounded m bound = .ok (out, log'))
    (hb : log.size < bound) (ha : a ∈ log.entries) : a ∈ log'.entries := by
  unfold insertBounded at h
  split at h
  · simp only [if_pos (Nat.zero_lt_of_lt hb)] at h
    cases h
    refine mem_place.2 (Or.inr ?_)
    rw [makeRoom_of_lt hb]
    exact ha
  · cases h

/-! ## Which messages are inserted, and what is there then -/

theorem contains_eq_true {id : Int} : log.contains id = true ↔ ∃ a ∈ log.entries, a.id = id := by
  simp [contains]

/-- A message whose id the log has is refused. -/
theorem insertBounded_again (bound : Nat) (h : ∃ a ∈ log.entries, a.id = m.id) :
    log.insertBounded m bound = .error (.duplicate m.id) := by
  have hc : ¬ log.contains m.id = false := by
    rw [contains_eq_true.2 h]
    decide
  rw [insertBounded, dif_neg hc]

/-- Any other message is put in its place among those that are left when the lowest ids have made way. -/
theorem insertBounded_new (hb : 0 < bound) (h : ∀ a ∈ log.entries, a.id ≠ m.id) :
    ∃ log', log.insertBounded m bound =
        .ok (log.entries.take (log.entries.length + 1 - bound), log') ∧
      log'.entries = place m (log.entries.drop (log.entries.length + 1 - bound)) := by
  rw [insertBounded, dif_pos (contains_eq_false.2 h)]
  simp only [if_pos hb, makeRoom_eq]
  exact ⟨_, rfl, rfl⟩

theorem length_place (m : Message) (l : List Message) : (place m l).length = l.length + 1 := by
  induction l with
  | nil => rfl
  | cons a l ih =>
    unfold place
    split
    · rfl
    · rw [List.length_cons, ih, List.length_cons]

/-- A log that a message has been put into is within its bound, whatever it held before. -/
theorem length_insertBounded_le (h : log.insertBounded m bound = .ok (out, log')) :
    log'.entries.length ≤ bound := by
  have hroom : (makeRoom bound log.entries).2.length + 1 ≤ max bound 1 := by
    rw [makeRoom_eq, List.length_drop]
    omega
  unfold insertBounded at h
  split at h
  · simp only [] at h
    split at h
    · cases h
      rw [length_place]
      omega
    · cases h
      show (makeRoom bound log.entries).2.length ≤ bound
      omega
  · cases h

theorem length_remove_le (log : MessageLog) (p : Message → Bool) :
    (log.remove p).entries.length ≤ log.entries.length :=
  List.length_filter_le _ _

end MessageLog

end PushRelay
