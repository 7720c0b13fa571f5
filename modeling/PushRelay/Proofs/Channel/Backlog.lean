import PushRelay.Channel.Basic

/-!
# What writing a backlog comes to

`Backlog.Wrote now ms conn last b ws` says everything that later proofs need of
`b = writeBacklog now ms conn last`: the messages `ws` are the ones written, in ascending order and
each above `last`; what is at or below `b.last` and has not expired is among them; and if nothing
failed, everything above `last` that has not expired is.

    ms.Pairwise (·.id < ·.id) → ∃ ws, Wrote now ms conn last (writeBacklog now ms conn last) ws

To an open connection as much is written of what is due as there is room for, and the first message that
there is no room for ends the backlog (`writeBacklog_due`).
-/

namespace PushRelay

namespace Connection

variable {α : Type}

theorem write_ok {c c' : Connection α} {a : α} (h : c.write a = .ok c') : c' = c.enqueue a := by
  unfold write at h
  split at h
  · cases h
  · split at h
    · cases h
    · exact (Except.ok.inj h).symm

/-- Writing succeeds exactly when there is room. -/
theorem write_eq_ok_iff {c : Connection α} {a : α} :
    c.write a = .ok (c.enqueue a) ↔ c.hasRoom = true := by
  unfold write hasRoom
  cases c.isClosed
  · by_cases h : c.depth ≤ c.waiting.length
    · simp [h]
    · simp [h, Nat.lt_of_not_le h]
  · simp

end Connection

namespace Channel

/-- The messages `ws` are what a backlog `b` of `ms` behind `last` has written to `conn`. -/
structure Wrote (now : Int) (ms : List Message) (conn : Connection Push) (last : Int) (b : Backlog)
    (ws : List Message) : Prop where
  waiting : b.conn.waiting = conn.waiting ++ ws.map Message.push
  sublist : ws.Sublist ms
  above : ∀ m ∈ ws, last < m.id
  live : ∀ m ∈ ws, m.isExpired now = false
  ascending : ws.Pairwise fun a b => a.id < b.id
  le_last : last ≤ b.last
  upto : ∀ m ∈ ws, m.id ≤ b.last
  last_eq : b.last = last ∨ ∃ m ∈ ws, m.id = b.last
  sent : b.sent = ws.length
  expired : ∀ i ∈ b.expired, ∃ m ∈ ms, m.id = i ∧ m.isExpired now = true
  /-- Nothing is left out: neither what lies below the point reached nor, unless the connection
  failed, what lies above it. -/
  complete : ms.Pairwise (fun a b => a.id < b.id) → ∀ m ∈ ms, last < m.id →
    m.isExpired now = false → m.id ≤ b.last ∨ b.failure = none → m ∈ ws

theorem wrote_nothing (now : Int) (conn : Connection Push) (last : Int) (e : Option WriteError)
    (ms : List Message) (h : ∀ m ∈ ms, last < m.id → m.isExpired now = false → e ≠ none) :
    Wrote now ms conn last ⟨conn, 0, last, [], e⟩ [] where
  waiting := by simp
  sublist := List.nil_sublist ms
  above := by simp
  live := by simp
  ascending := .nil
  le_last := Int.le_refl last
  upto := by simp
  last_eq := Or.inl rfl
  sent := rfl
  expired := by simp
  complete := by
    intro _ m hm hl hx hd
    rcases hd with hd | hd
    · exact absurd hl (Int.not_lt.2 hd)
    · exact absurd hd (h m hm hl hx)

variable {now last : Int} {m : Message} {ms ws : List Message} {conn : Connection Push} {b : Backlog}

/-- A message at or below `last` is passed over. -/
theorem Wrote.skip (h : Wrote now ms conn last b ws) (hm : m.id ≤ last) :
    Wrote now (m :: ms) conn last b ws :=
  { h with
    sublist := h.sublist.cons m
    expired := by
      intro i hi
      obtain ⟨a, ha, hai⟩ := h.expired i hi
      exact ⟨a, List.mem_cons_of_mem m ha, hai⟩
    complete := by
      intro hp a ha hl hx hd
      rcases List.mem_cons.1 ha with rfl | ha
      · exact absurd hl (Int.not_lt.2 hm)
      · exact h.complete hp.of_cons a ha hl hx hd }

/-- An expired message is passed over and noted. -/
theorem Wrote.expire (h : Wrote now ms conn last b ws) (hm : m.isExpired now = true) :
    Wrote now (m :: ms) conn last { b with expired := m.id :: b.expired } ws :=
  { h with
    sublist := h.sublist.cons m
    expired := by
      intro i hi
      rcases List.mem_cons.1 hi with rfl | hi
      · exact ⟨m, List.mem_cons_self, rfl, hm⟩
      · obtain ⟨a, ha, hai⟩ := h.expired i hi
        exact ⟨a, List.mem_cons_of_mem m ha, hai⟩
    complete := by
      intro hp a ha hl hx hd
      rcases List.mem_cons.1 ha with rfl | ha
      · rw [hm] at hx
        cases hx
      · exact h.complete hp.of_cons a ha hl hx hd }

/-- A message that is written comes first, and the rest goes on behind it. -/
theorem Wrote.write (h : Wrote now ms (conn.enqueue m.push) m.id b ws) (hl : last < m.id)
    (hx : m.isExpired now = false) :
    Wrote now (m :: ms) conn last { b with sent := b.sent + 1 } (m :: ws) where
  waiting := by simp [h.waiting, Connection.enqueue]
  sublist := h.sublist.cons_cons m
  above := by
    intro a ha
    rcases List.mem_cons.1 ha with rfl | ha
    · exact hl
    · exact Int.lt_trans hl (h.above a ha)
  live := by
    intro a ha
    rcases List.mem_cons.1 ha with rfl | ha
    · exact hx
    · exact h.live a ha
  ascending := List.pairwise_cons.2 ⟨h.above, h.ascending⟩
  le_last := Int.le_trans (Int.le_of_lt hl) h.le_last
  upto := by
    intro a ha
    rcases List.mem_cons.1 ha with rfl | ha
    · exact h.le_last
    · exact h.upto a ha
  last_eq := by
    rcases h.last_eq with e | ⟨a, ha, e⟩
    · exact Or.inr ⟨m, List.mem_cons_self, e.symm⟩
    · exact Or.inr ⟨a, List.mem_cons_of_mem m ha, e⟩
  sent := by simp [h.sent]
  expired := by
    intro i hi
    obtain ⟨a, ha, hai⟩ := h.expired i hi
    exact ⟨a, List.mem_cons_of_mem m ha, hai⟩
  complete := by
    intro hp a ha _ hxa hd
    rcases List.mem_cons.1 ha with rfl | ha
    · exact List.mem_cons_self
    · have hma := (List.pairwise_cons.1 hp).1 a ha
      exact List.mem_cons_of_mem m (h.complete hp.of_cons a ha hma hxa hd)

theorem writeBacklog_wrote (now : Int) (ms : List Message) (conn : Connection Push) (last : Int) :
    ∃ ws, Wrote now ms conn last (writeBacklog now ms conn last) ws := by
  induction ms generalizing conn last with
  | nil => exact ⟨[], wrote_nothing now conn last none [] (by simp)⟩
  | cons m ms ih =>
    simp only [writeBacklog]
    split
    · next hm =>
      obtain ⟨ws, h⟩ := ih conn last
      exact ⟨ws, h.skip hm⟩
    · next hm =>
      split
      · next hx =>
        obtain ⟨ws, h⟩ := ih conn last
        exact ⟨ws, h.expire hx⟩
      · next hx =>
        cases hw : conn.write m.push with
        | error e => exact ⟨[], wrote_nothing now conn last (some e) (m :: ms) (by simp)⟩
        | ok conn' =>
          obtain ⟨ws, h⟩ := ih conn' m.id
          rw [Connection.write_ok hw] at h ⊢
          exact ⟨m :: ws, h.write (Int.not_le.1 hm) (Bool.eq_false_iff.2 hx)⟩

/-! ## A backlog and the room for it -/

/-- The messages that a connection is to be written that has seen ids up to `last`. -/
def due (now last : Int) (ms : List Message) : List Message :=
  ms.filter fun m => decide (last < m.id) && !m.isExpired now

theorem due_cons_of_due (hl : last < m.id) (hx : m.isExpired now = false)
    (hm : ∀ a ∈ ms, m.id < a.id) : due now last (m :: ms) = m :: due now m.id ms := by
  unfold due
  rw [List.filter_cons_of_pos (by simp [hl, hx])]
  congr 1
  refine List.filter_congr fun a ha => ?_
  rw [decide_eq_true (hm a ha), decide_eq_true (Int.lt_trans hl (hm a ha))]

theorem due_cons_of_passed (h : m.id ≤ last ∨ m.isExpired now = true) :
    due now last (m :: ms) = due now last ms := by
  refine List.filter_cons_of_neg ?_
  rcases h with hl | hx
  · simp [Int.not_lt.2 hl]
  · simp [hx]

/-- Of a history in ascending order as many of the messages are written that are due as there is room
for.  If that is not all of them, the backlog fails. -/
theorem writeBacklog_due (now last : Int) (hms : ms.Pairwise fun a b => a.id < b.id)
    (ho : conn.isClosed = false) (hd : conn.waiting.length ≤ conn.depth) :
    (writeBacklog now ms conn last).conn = { conn with waiting := conn.waiting ++
        ((due now last ms).take (conn.depth - conn.waiting.length)).map Message.push } ∧
      (writeBacklog now ms conn last).failure =
        if (due now last ms).length ≤ conn.depth - conn.waiting.length then none else some .full := by
  induction ms generalizing conn last with
  | nil =>
    refine ⟨?_, (if_pos (Nat.zero_le _)).symm⟩
    rw [due, List.filter_nil, List.take_nil, List.map_nil, List.append_nil]
    rfl
  | cons m ms ih =>
    obtain ⟨hm, hms⟩ := List.pairwise_cons.1 hms
    simp only [writeBacklog]
    split
    · next hle =>
      rw [due_cons_of_passed (Or.inl hle)]
      exact ih last hms ho hd
    · next hl =>
      split
      · next hx =>
        rw [due_cons_of_passed (Or.inr hx)]
        exact ih last hms ho hd
      · next hx =>
        rw [due_cons_of_due (Int.not_le.1 hl) (Bool.eq_false_iff.2 hx) hm, List.length_cons]
        by_cases hfull : conn.depth ≤ conn.waiting.length
        · have hw : conn.write m.push = .error .full := by
            simp [Connection.write, ho, hfull]
          have hnone : conn.depth - conn.waiting.length = 0 := by omega
          rw [hw, hnone]
          simp
        · have hw : conn.write m.push = .ok (conn.enqueue m.push) :=
            Connection.write_eq_ok_iff.2 (by simp [Connection.hasRoom, ho]; omega)
          have hlen : (conn.enqueue m.push).waiting.length = conn.waiting.length + 1 := by
            simp [Connection.enqueue]
          have hroom : conn.depth - conn.waiting.length =
              ((conn.enqueue m.push).depth - (conn.enqueue m.push).waiting.length) + 1 := by
            rw [hlen]
            simp only [Connection.enqueue]
            omega
          have hle : (conn.enqueue m.push).waiting.length ≤ (conn.enqueue m.push).depth := by
            rw [hlen]
            simp only [Connection.enqueue]
            omega
          have hopen : (conn.enqueue m.push).isClosed = false := ho
          obtain ⟨hconn, hfailure⟩ := ih m.id hms hopen hle
          rw [hw, hroom, List.take_succ_cons]
          simp only [hconn, hfailure, Nat.add_le_add_iff_right]
          simp [Connection.enqueue]

/-- A backlog that gets through comes across all messages behind `last` that have expired. -/
theorem writeBacklog_expired (now last : Int) (hms : ms.Pairwise fun a b => a.id < b.id)
    (hf : (writeBacklog now ms conn last).failure = none) :
    (writeBacklog now ms conn last).expired =
      (ms.filter fun m => decide (last < m.id) && m.isExpired now).map (·.id) := by
  induction ms generalizing conn last with
  | nil => rfl
  | cons m ms ih =>
    obtain ⟨hm, hms⟩ := List.pairwise_cons.1 hms
    simp only [writeBacklog] at hf ⊢
    split at hf
    · next hle =>
      rw [if_pos hle, List.filter_cons_of_neg (by simp [Int.not_lt.2 hle])]
      exact ih last hms hf
    · next hl =>
      rw [if_neg hl]
      split at hf
      · next hx =>
        rw [if_pos hx, List.filter_cons_of_pos (by simp [hx, Int.not_le.1 hl])]
        exact congrArg (m.id :: ·) (ih last hms hf)
      · next hx =>
        rw [if_neg hx, List.filter_cons_of_neg (by simp [hx])]
        cases hw : conn.write m.push with
        | error e =>
          rw [hw] at hf
          cases hf
        | ok conn' =>
          rw [hw] at hf
          refine (ih m.id hms hf).trans (congrArg _ (List.filter_congr fun a ha => ?_))
          rw [decide_eq_true (hm a ha), decide_eq_true (Int.lt_trans (Int.not_le.1 hl) (hm a ha))]

end Channel

end PushRelay
