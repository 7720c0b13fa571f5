import PushRelay.Channel.Basic
import PushRelay.Proofs.Log

/-!
# What a bounded log evicts

A log that is inserted into within a bound loses the lowest ids, as many as have to go, and nothing else;
so messages that come in the order of their ids leave the last of them behind.

    insertAll bound .empty ms = .ok log → log.entries = ms.drop (ms.length - bound)         (insertAll_run)
-/

namespace PushRelay.MessageLog

variable {log log' : MessageLog} {m : Message} {ms : List Message} {bound : Nat}

/-! ## One message -/

/-- A message that is put in its place is there besides all others. -/
theorem place_perm (m : Message) (l : List Message) : (place m l).Perm (m :: l) := by
  induction l with
  | nil => exact .refl _
  | cons a l ih =>
    unfold place
    split
    · exact .refl _
    · exact (ih.cons a).trans (.swap m a l)

theorem place_last {l : List Message} (h : ∀ a ∈ l, a.id < m.id) : place m l = l ++ [m] := by
  induction l with
  | nil => rfl
  | cons a l ih =>
    obtain ⟨ha, hl⟩ := List.forall_mem_cons.1 h
    rw [place, if_neg (Int.not_lt_of_ge (Int.le_of_lt ha)), ih hl, List.cons_append]

/-- A log that refuses a message stays as it is where it is kept. -/
theorem kept_as_is (hdup : ∃ a ∈ log.entries, a.id = m.id) :
    (∀ (s : MemoryStore) (key : String), s.log key = log → s.capacity = bound →
      s.save key m = (.error (.duplicate m.id), s)) ∧
    (∀ (ch : Channel) (h : Host) (key : String), ch.retention = .log log bound →
      ch.keep h key m = ⟨.error (.duplicateMessage m.id), ch, h⟩) := by
  have hi := insertBounded_again bound hdup
  constructor
  · rintro s key rfl rfl
    simp only [MemoryStore.save, hi]
  · intro ch h key hr
    simp only [Channel.keep, hr, hi]

/-! ## Many messages -/

/-- Inserts messages one after the other. -/
def insertAll (bound : Nat) (log : MessageLog) (ms : List Message) : Except StoreError MessageLog :=
  ms.foldlM (fun log m => (log.insertBounded m bound).map Prod.snd) log

theorem insertAll_cons (bound : Nat) (log : MessageLog) (m : Message) (ms : List Message) :
    insertAll bound log (m :: ms) =
      ((log.insertBounded m bound).map Prod.snd).bind fun log => insertAll bound log ms :=
  List.foldlM_cons

/-- A message with the greatest id goes behind those that are left. -/
theorem insertBounded_last (hb : 0 < bound) (h : ∀ a ∈ log.entries, a.id < m.id) :
    ∃ out log', log.insertBounded m bound = .ok (out, log') ∧
      log'.entries = (log.entries ++ [m]).drop (log.entries.length + 1 - bound) := by
  obtain ⟨log', hi, hlog⟩ := insertBounded_new hb fun a ha => Int.ne_of_lt (h a ha)
  refine ⟨_, log', hi, ?_⟩
  have hle : log.entries.length + 1 - bound ≤ log.entries.length := by omega
  rw [hlog, place_last fun a ha => h a (List.mem_of_mem_drop ha), List.drop_append_of_le_length hle]

/-- Messages in the order of their ids leave behind the last of what there was with them. -/
theorem insertAll_run (hb : 0 < bound) (hlog : log.entries.length ≤ bound)
    (h : (log.entries ++ ms).Pairwise fun a b => a.id < b.id) :
    ∃ log', insertAll bound log ms = .ok log' ∧
      log'.entries = (log.entries ++ ms).drop (log.entries.length + ms.length - bound) := by
  induction ms generalizing log with
  | nil =>
    refine ⟨log, rfl, ?_⟩
    rw [List.append_nil, List.length_nil, Nat.add_zero, Nat.sub_eq_zero_of_le hlog, List.drop_zero]
  | cons m ms ih =>
    obtain ⟨-, -, hbelow⟩ := List.pairwise_append.1 h
    obtain ⟨out, log₁, hi, hlog₁⟩ :=
      insertBounded_last hb fun a ha => hbelow a ha m List.mem_cons_self
    -- what is left, with the messages that are still to come
    have hall : log₁.entries ++ ms =
        (log.entries ++ m :: ms).drop (log.entries.length + 1 - bound) := by
      have hle : log.entries.length + 1 - bound ≤ (log.entries ++ [m]).length := by
        rw [List.length_append, List.length_singleton]
        omega
      rw [hlog₁, ← List.drop_append_of_le_length hle, List.append_assoc, List.singleton_append]
    obtain ⟨log', hrest, hlog'⟩ := ih (length_insertBounded_le hi)
      (hall ▸ h.sublist (List.drop_sublist ..))
    refine ⟨log', ?_, ?_⟩
    · rw [insertAll_cons, hi]
      exact hrest
    · rw [hlog', hall, List.drop_drop, hlog₁]
      congr 1
      simp only [List.length_drop, List.length_append, List.length_cons, List.length_nil]
      omega

/-- A bounded log refuses a message exactly if it has the id, and then stays as it is where it is kept.
Otherwise it evicts, in ascending order, as many of the lowest ids as there are too many; the others and
the message are what it holds then, and they are within the bound.  After messages whose ids ascend, what
comes after an id are those of the last ones that are above it, in ascending order. -/
theorem insertBounded_conserves (hb : 1 ≤ bound) :
    (∀ (log : MessageLog) (m : Message),
      (log.insertBounded m bound = .error (.duplicate m.id) ↔ ∃ a ∈ log.entries, a.id = m.id) ∧
      ((∃ a ∈ log.entries, a.id = m.id) →
        (∀ (s : MemoryStore) (key : String), s.log key = log → s.capacity = bound →
          s.save key m = (.error (.duplicate m.id), s)) ∧
        (∀ (ch : Channel) (h : Host) (key : String), ch.retention = .log log bound →
          ch.keep h key m = ⟨.error (.duplicateMessage m.id), ch, h⟩)) ∧
      ((∀ a ∈ log.entries, a.id ≠ m.id) →
        ∃ out kept log', log.insertBounded m bound = .ok (out, log') ∧ log.entries = out ++ kept ∧
          out.length = log.size + 1 - bound ∧ (out.Pairwise fun a b => a.id < b.id) ∧
          (∀ a ∈ out, ∀ b ∈ kept, a.id < b.id) ∧ log'.entries.Perm (m :: kept) ∧
          log'.size ≤ bound)) ∧
    (∀ ms : List Message, (ms.Pairwise fun a b => a.id < b.id) →
      ∃ log, insertAll bound .empty ms = .ok log ∧ ∀ id,
        log.after id = (ms.drop (ms.length - bound)).filter (fun m => decide (id < m.id)) ∧
        (log.after id).Pairwise fun a b => a.id < b.id) := by
  have hb : 0 < bound := hb
  refine ⟨fun log m => ⟨⟨fun he => ?_, insertBounded_again bound⟩, kept_as_is, fun hfree => ?_⟩,
    fun ms hms => ?_⟩
  · refine Classical.byContradiction fun hfree => ?_
    obtain ⟨log', hi, -⟩ := insertBounded_new hb fun a ha hid => hfree ⟨a, ha, hid⟩
    rw [hi] at he
    cases he
  · obtain ⟨log', hi, hlog'⟩ := insertBounded_new hb hfree
    have hsplit := List.take_append_drop (log.entries.length + 1 - bound) log.entries
    obtain ⟨hout, -, hbelow⟩ := List.pairwise_append.1 (hsplit ▸ log.ascending)
    refine ⟨_, _, log', hi, hsplit.symm, ?_, hout, hbelow, hlog' ▸ place_perm .., ?_⟩
    · rw [List.length_take, size]
      omega
    · exact length_insertBounded_le hi
  · have hempty : MessageLog.empty.entries.length ≤ bound := Nat.zero_le _
    obtain ⟨log, hall, hlog⟩ := insertAll_run hb hempty hms
    refine ⟨log, hall, fun id => ⟨?_, after_ascending log id⟩⟩
    rw [after, hlog, empty, List.length_nil, Nat.zero_add, List.nil_append]

/-- A log above its bound makes room for a message whose id is lower than all. -/
theorem insertBounded_conserves_lowest :
    let message (id : Int) : Message := ⟨id, [], .personal, 0⟩
    let log : MessageLog := ⟨[message 2, message 5, message 9], by decide⟩
    1 ≤ 2 ∧ (∀ a ∈ log.entries, a.id ≠ (message 1).id) ∧
      ∃ log', log.insertBounded (message 1) 2 = .ok ([message 2, message 5], log') ∧
        log'.entries.Perm [message 1, message 9] ∧ log'.size ≤ 2 := by
  intro message log
  have hfree : ∀ a ∈ log.entries, a.id ≠ (message 1).id := by decide
  obtain ⟨hone, -⟩ := insertBounded_conserves (by decide : 1 ≤ 2)
  obtain ⟨-, -, hnew⟩ := hone log (message 1)
  obtain ⟨out, kept, log', hi, hsplit, hlen, -, -, hperm, hsize⟩ := hnew hfree
  -- two of the three have to go
  have hout : out = [message 2, message 5] ∧ kept = [message 9] :=
    List.append_inj hsplit.symm hlen
  obtain ⟨rfl, rfl⟩ := hout
  exact ⟨by decide, hfree, log', hi, hperm, hsize⟩

end PushRelay.MessageLog
