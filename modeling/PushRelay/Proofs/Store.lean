import PushRelay.Proofs.Log
import PushRelay.Store

/-!
# What stores hold

`Store.stored` is the view of a store: the messages it holds for a key.  On a store in memory a save
that succeeds adds the one message, as long as there is room; one that fails changes nothing; and
looking messages up loses none but expired ones.

    a ∈ (s.save key m).2.stored key ↔ a = m ∨ a ∈ s.stored key                       (mem_stored_save)
    a ∈ ms ↔ a ∈ s.stored key ∧ since < a.id ∧ a.isExpired now = false                  (mem_of_get)
-/

namespace PushRelay

namespace MemoryStore

variable {s s' : MemoryStore} {key : String} {m a : Message} {since now : Int}

theorem save_ok (h : s.save key m = (.ok (), s')) : ∃ out,
    (s.log key).insertBounded m s.capacity = .ok (out, s'.log key) ∧ s'.capacity = s.capacity := by
  unfold save at h
  split at h
  · next out log hi =>
    cases h
    refine ⟨out, ?_, rfl⟩
    rw [hi]
    simp [MemoryStore.log, Table.get?_insert]
  · cases h

theorem save_error {e : StoreError} (h : s.save key m = (.error e, s')) : s' = s := by
  unfold save at h
  split at h
  · cases h
  · cases h
    rfl

theorem mem_log_get : a ∈ ((s.get key since now).2.log key).entries ↔
    a ∈ (s.log key).entries ∧ (decide (since < a.id) && a.isExpired now) = false := by
  simp only [get, log, Table.get?_modify, if_true]
  cases s.logs.get? key with
  | none => simp [MessageLog.empty]
  | some log => simp only [Option.map_some, Option.getD_some, MessageLog.mem_remove]

theorem mem_get : a ∈ (s.get key since now).1 ↔
    a ∈ (s.log key).entries ∧ since < a.id ∧ a.isExpired now = false := by
  simp [get, and_assoc]

theorem get_ascending (s : MemoryStore) (key : String) (since now : Int) :
    (s.get key since now).1.Pairwise fun a b => a.id < b.id :=
  ((s.log key).after_ascending since).sublist List.filter_sublist

end MemoryStore

namespace Store

/-- The messages a store in memory holds for a key. -/
def stored (s : Store) (key : String) : List Message :=
  match s.backend with
  | .memory memory => (memory.log key).entries
  | .remote .. => []

/-- Whether a store in memory would take one message more for a key without dropping another. -/
def hasRoom (s : Store) (key : String) : Bool :=
  match s.backend with
  | .memory memory => decide (memory.count key < memory.capacity)
  | .remote .. => false

/-- A store in memory, whose calls may fail but do not answer anything else than what is stored. -/
structure InMemory (s : Store) : Prop where
  memory : ∃ memory, s.backend = .memory memory
  history : s.faults.history = none

variable {s : Store} {key : String} {m a : Message} {since now : Int} {ms : List Message}

theorem mem_stored_save (hs : s.InMemory) (h : (s.save key m).1 = .ok ())
    (hroom : s.hasRoom key = true) : (s.save key m).2.InMemory ∧
      ∀ a, a ∈ (s.save key m).2.stored key ↔ a = m ∨ a ∈ s.stored key := by
  obtain ⟨memory, hb⟩ := hs.memory
  unfold save at h ⊢
  split at h
  · cases h
  · next hf =>
    unfold saveSound at h ⊢
    simp only [hb] at h ⊢
    cases hsave : memory.save key m with
    | mk res memory' =>
      simp only [hsave] at h ⊢
      subst h
      obtain ⟨out, hi, -⟩ := MemoryStore.save_ok hsave
      have hlt : memory.count key < memory.capacity := by
        simpa [hasRoom, hb] using hroom
      refine ⟨⟨⟨memory', by simp⟩, by simpa [hf] using hs.history⟩, fun a => ?_⟩
      simp only [stored, hb]
      constructor
      · exact MessageLog.mem_of_insertBounded hi
      · rintro (rfl | ha)
        · exact MessageLog.self_mem_insertBounded hi (Nat.zero_lt_of_lt hlt)
        · exact MessageLog.mem_insertBounded_of_mem hi hlt ha

/-- A save that fails changes nothing. -/
theorem save_error {e : StoreError} (h : (s.save key m).1 = .error e) : (s.save key m).2 = s := by
  unfold save at h ⊢
  split
  · rfl
  · next hf =>
    simp only [hf] at h
    unfold saveSound at h ⊢
    split
    · next memory hb =>
      simp only [hb] at h
      cases hsave : memory.save key m with
      | mk res memory' =>
        simp only [hsave] at h ⊢
        subst h
        rw [MemoryStore.save_error hsave, ← hb]
    · rfl

/-- Looking messages up loses none but expired ones. -/
theorem mem_stored_get (hs : s.InMemory) (key : String) (since now : Int) :
    (s.get key since now).2.InMemory ∧
      (∀ a ∈ (s.get key since now).2.stored key, a ∈ s.stored key) ∧
      ∀ a ∈ s.stored key, a.isExpired now = false → a ∈ (s.get key since now).2.stored key := by
  obtain ⟨memory, hb⟩ := hs.memory
  have hh := hs.history
  unfold get
  simp only [hh]
  split
  · exact ⟨hs, fun a ha => ha, fun a ha _ => ha⟩
  · next e => cases e
  · simp only [getSound, hb]
    refine ⟨⟨⟨_, rfl⟩, hh⟩, fun a ha => ?_, fun a ha hx => ?_⟩
    · simp only [stored, hb] at ha ⊢
      exact (MemoryStore.mem_log_get.1 ha).1
    · simp only [stored, hb] at ha ⊢
      exact MemoryStore.mem_log_get.2 ⟨ha, by rw [hx, Bool.and_false]⟩

/-- What looking messages up gives. -/
theorem mem_of_get (hs : s.InMemory) (h : (s.get key since now).1 = .ok ms) :
    ms.Pairwise (fun a b => a.id < b.id) ∧
      ∀ a, a ∈ ms ↔ a ∈ s.stored key ∧ since < a.id ∧ a.isExpired now = false := by
  obtain ⟨memory, hb⟩ := hs.memory
  have hh := hs.history
  unfold get at h
  simp only [hh] at h
  split at h
  · cases h
  · next e => cases e
  · simp only [getSound, hb] at h
    cases h
    refine ⟨memory.get_ascending key since now, fun a => ?_⟩
    simp only [stored, hb]
    exact MemoryStore.mem_get

end Store

end PushRelay
