import Mathlib.Data.List.Perm.Subperm
import PushRelay.Proofs.Store

/-!
# What a store in memory returns

A `SaveLedger` is a store together with the messages saved under each key since it was last deleted, oldest
first.  Looking up a key gives some of these, and as long as their ids ascend it gives all that have not
expired and are not followed by as many others as there is room for.  Nothing done to other keys matters.

    a ∈ found → a ∈ d.saved key ∧ a.isExpired now = false ∧ since < a.id        (found_of_saved)

A key has a `Shelf`, which only its own events change (`shelf_run`); `Shelf.Honest` is what they keep.
-/

namespace PushRelay

/-! ## Operations -/

namespace MemoryStore

variable {s : MemoryStore} {key : String} {m : Message}

theorem save_cases (s : MemoryStore) (key : String) (m : Message) :
    (∃ out log', (s.log key).insertBounded m s.capacity = .ok (out, log') ∧
      s.save key m = (.ok (), { s with logs := s.logs.insert key log' })) ∨
    ∃ cause, (s.log key).insertBounded m s.capacity = .error cause ∧
      s.save key m = (.error cause, s) := by
  unfold save
  cases h : (s.log key).insertBounded m s.capacity with
  | ok r => exact Or.inl ⟨r.1, r.2, rfl, rfl⟩
  | error cause => exact Or.inr ⟨cause, rfl, rfl⟩

theorem log_insert (s : MemoryStore) (key k : String) (log' : MessageLog) :
    log { s with logs := s.logs.insert key log' } k = if k = key then log' else s.log k := by
  unfold log
  rw [Table.get?_insert]
  split <;> rfl

theorem log_get (s : MemoryStore) (key k : String) (since now : Int) :
    (s.get key since now).2.log k =
      if k = key then (s.log k).remove fun m => decide (since < m.id) && m.isExpired now
      else s.log k := by
  simp only [get, log, Table.get?_modify]
  split
  · cases s.logs.get? k <;> rfl
  · rfl

theorem log_delete (s : MemoryStore) (key k : String) :
    (s.delete key).log k = if k = key then .empty else s.log k := by
  simp only [delete, log, Table.get?_erase]
  split <;> rfl

end MemoryStore

/-! ## Events -/

inductive StoreEvent where
  | save (key : String) (m : Message)
  | get (key : String) (since now : Int)
  | delete (key : String)
  deriving DecidableEq, Repr

namespace StoreEvent

def key : StoreEvent → String
  | .save key _ => key
  | .get key _ _ => key
  | .delete key => key

/-- The time of an event that has one. -/
def now? : StoreEvent → Option Int
  | .get _ _ now => some now
  | _ => none

end StoreEvent

/-- What there is of one key: its log, and the messages saved since it was last deleted, oldest first. -/
structure Shelf where
  log : MessageLog
  saved : List Message

/-- What an event of its key does to a shelf. -/
def Shelf.step (capacity : Nat) (shelf : Shelf) : StoreEvent → Shelf
  | .save _ m => match shelf.log.insertBounded m capacity with
    | .ok (_, log) => ⟨log, shelf.saved ++ [m]⟩
    | .error _ => shelf
  | .get _ since now =>
    { shelf with log := shelf.log.remove fun m => decide (since < m.id) && m.isExpired now }
  | .delete _ => ⟨.empty, []⟩

/-- A store with the messages saved under each key since it was last deleted, oldest first. -/
structure SaveLedger where
  store : MemoryStore
  saved : String → List Message

namespace SaveLedger

def start (capacity : Nat) : SaveLedger := ⟨.withCapacity capacity, fun _ => []⟩

/-- Sets what has been saved under a key. -/
def setSaved (d : SaveLedger) (key : String) (ms : List Message) : String → List Message :=
  fun k => if k = key then ms else d.saved k

def step (d : SaveLedger) : StoreEvent → SaveLedger
  | .save key m => match d.store.save key m with
    | (.ok (), store) => ⟨store, d.setSaved key (d.saved key ++ [m])⟩
    | (.error _, store) => ⟨store, d.saved⟩
  | .get key since now => ⟨(d.store.get key since now).2, d.saved⟩
  | .delete key => ⟨d.store.delete key, d.setSaved key []⟩

def run (d : SaveLedger) (es : List StoreEvent) : SaveLedger := es.foldl step d

def shelf (d : SaveLedger) (key : String) : Shelf := ⟨d.store.log key, d.saved key⟩

/-! ## One key -/

variable {d : SaveLedger} {key : String} {e : StoreEvent} {es : List StoreEvent}

theorem capacity_step (d : SaveLedger) (e : StoreEvent) :
    (d.step e).store.capacity = d.store.capacity := by
  cases e with
  | save key m =>
    rcases d.store.save_cases key m with ⟨out, log', -, hsave⟩ | ⟨cause, -, hsave⟩
    · simp only [step, hsave]
    · simp only [step, hsave]
  | get key since now => rfl
  | delete key => rfl

theorem capacity_run (d : SaveLedger) (es : List StoreEvent) :
    (d.run es).store.capacity = d.store.capacity := by
  induction es generalizing d with
  | nil => rfl
  | cons e es ih => exact (ih (d.step e)).trans (capacity_step d e)

/-- What an event does to the shelf of its key. -/
theorem shelf_step_key (d : SaveLedger) (e : StoreEvent) :
    (d.step e).shelf e.key = (d.shelf e.key).step d.store.capacity e := by
  cases e with
  | save key m =>
    rcases d.store.save_cases key m with ⟨out, log', hlog, hsave⟩ | ⟨cause, hlog, hsave⟩
    · simp only [shelf, step, hsave, MemoryStore.log_insert, setSaved, StoreEvent.key, if_true,
        Shelf.step, hlog]
    · simp only [shelf, step, hsave, StoreEvent.key, Shelf.step, hlog]
  | get key since now =>
    simp only [shelf, step, MemoryStore.log_get, StoreEvent.key, if_true, Shelf.step]
  | delete key =>
    simp only [shelf, step, MemoryStore.log_delete, setSaved, StoreEvent.key, if_true, Shelf.step]

/-- Other keys are left alone. -/
theorem shelf_step_of_ne (h : e.key ≠ key) : (d.step e).shelf key = d.shelf key := by
  have hne : ¬ key = e.key := fun he => h he.symm
  cases e with
  | save k m =>
    have hne : ¬ key = k := hne
    rcases d.store.save_cases k m with ⟨out, log', -, hsave⟩ | ⟨cause, -, hsave⟩
    · simp only [shelf, step, hsave, MemoryStore.log_insert, setSaved, if_neg hne]
    · simp only [shelf, step, hsave]
  | get k since now =>
    have hne : ¬ key = k := hne
    simp only [shelf, step, MemoryStore.log_get, if_neg hne]
  | delete k =>
    have hne : ¬ key = k := hne
    simp only [shelf, step, MemoryStore.log_delete, setSaved, if_neg hne]

/-- What becomes of a key is up to its own events. -/
theorem shelf_run (d : SaveLedger) (es : List StoreEvent) (key : String) :
    (d.run es).shelf key =
      (es.filter fun e => e.key = key).foldl (Shelf.step d.store.capacity) (d.shelf key) := by
  induction es generalizing d with
  | nil => rfl
  | cons e es ih =>
    have ih := ih (d.step e)
    rw [capacity_step] at ih
    by_cases he : e.key = key
    · subst he
      rw [shelf_step_key] at ih
      rw [List.filter_cons_of_pos (by simp), List.foldl_cons]
      exact ih
    · rw [shelf_step_of_ne he] at ih
      rw [List.filter_cons_of_neg (by simpa using he)]
      exact ih

theorem shelf_run_filter (d : SaveLedger) (es : List StoreEvent) (key : String) :
    (d.run (es.filter fun e => e.key = key)).shelf key = (d.run es).shelf key := by
  rw [shelf_run, shelf_run, List.filter_filter]
  simp only [Bool.and_self]

end SaveLedger

/-! ## Shelves -/

namespace Shelf

variable {shelf : Shelf} {capacity : Nat} {now now' : Int} {e : StoreEvent} {es : List StoreEvent}

/-- A shelf holds nothing but what has been saved.  Where the ids of that ascend, it holds every message that
has not expired and is not followed by as many others as there is room for. -/
structure Honest (capacity : Nat) (now : Int) (shelf : Shelf) : Prop where
  genuine : ∀ m ∈ shelf.log.entries, m ∈ shelf.saved
  complete : (shelf.saved.Pairwise fun a b => a.id < b.id) →
    ∀ before m after, shelf.saved = before ++ m :: after → after.length < capacity →
      m.isExpired now = false → m ∈ shelf.log.entries

theorem honest_empty (capacity : Nat) (now : Int) : Honest capacity now ⟨.empty, []⟩ where
  genuine m hm := hm
  complete _ before m after hsplit := by simp at hsplit

/-- What stands above a message on the shelf has been saved after it. -/
theorem Honest.length_le (h : Honest capacity now shelf) {before after xs ys : List Message}
    {m : Message} (hs : shelf.saved.Pairwise fun a b => a.id < b.id)
    (hsaved : shelf.saved = before ++ m :: after) (hlog : shelf.log.entries = xs ++ m :: ys) :
    ys.length ≤ after.length := by
  have hasc := shelf.log.ascending
  rw [hlog, List.pairwise_append, List.pairwise_cons] at hasc
  obtain ⟨-, ⟨habove, hys⟩, -⟩ := hasc
  have hnodup : ys.Nodup := hys.imp fun hlt heq => by
    subst heq
    omega
  have hsub : ys ⊆ after := by
    intro a ha
    have hmem := h.genuine a (by rw [hlog]; simp [ha])
    have hid := habove a ha
    rw [hsaved] at hs hmem
    rw [List.pairwise_append, List.pairwise_cons] at hs
    rcases List.mem_append.1 hmem with hmem | hmem
    · have := hs.2.2 a hmem m List.mem_cons_self
      omega
    · rcases List.mem_cons.1 hmem with rfl | hmem
      · omega
      · exact hmem
  exact (hnodup.subperm hsub).length_le

theorem Honest.save (h : Honest capacity now shelf) (hcap : 0 < capacity) {m : Message}
    {out : List Message} {log' : MessageLog}
    (hins : shelf.log.insertBounded m capacity = .ok (out, log')) :
    Honest capacity now ⟨log', shelf.saved ++ [m]⟩ where
  genuine := by
    intro a ha
    rcases MessageLog.mem_of_insertBounded hins ha with rfl | ha
    · exact List.mem_append_right _ List.mem_cons_self
    · exact List.mem_append_left _ (h.genuine a ha)
  complete := by
    intro hs before a after hsplit hfew hlive
    dsimp only at hs hsplit ⊢
    rcases List.eq_nil_or_concat' after with rfl | ⟨after, b, rfl⟩
    · obtain ⟨-, hma⟩ := List.append_inj' hsplit rfl
      cases hma
      exact MessageLog.self_mem_insertBounded hins hcap
    · -- `a` was saved before, and there is room for `m` beside it
      rw [← List.cons_append, ← List.append_assoc] at hsplit
      obtain ⟨hsaved, hmb⟩ := List.append_inj' hsplit rfl
      rw [List.length_append, List.length_singleton] at hfew
      have hs := (List.pairwise_append.1 hs).1
      have hmem := h.complete hs before a after hsaved (by omega) hlive
      obtain ⟨xs, ys, hlog⟩ := List.append_of_mem hmem
      have hle := h.length_le hs hsaved hlog
      exact MessageLog.mem_insertBounded_of_few hins hlog (by omega)

theorem Honest.step (h : Honest capacity now shelf) (hcap : 0 < capacity)
    (hnow : ∀ t ∈ e.now?, t ≤ now) : Honest capacity now (shelf.step capacity e) := by
  cases e with
  | save key m =>
    unfold Shelf.step
    dsimp only
    split
    · next hins => exact h.save hcap hins
    · exact h
  | get key since t =>
    refine ⟨fun m hm => h.genuine m (MessageLog.mem_remove.1 hm).1, ?_⟩
    intro hs before m after hsplit hfew hlive
    refine MessageLog.mem_remove.2 ⟨h.complete hs before m after hsplit hfew hlive, ?_⟩
    rw [Message.live_earlier hlive (hnow t rfl), Bool.and_false]
  | delete key => exact honest_empty capacity now

theorem Honest.run (h : Honest capacity now shelf) (hcap : 0 < capacity)
    (past : ∀ t ∈ es.filterMap StoreEvent.now?, t ≤ now) :
    Honest capacity now (es.foldl (Shelf.step capacity) shelf) := by
  induction es generalizing shelf with
  | nil => exact h
  | cons e es ih =>
    have hstep := h.step hcap fun t ht => past t (List.mem_filterMap.2 ⟨e, List.mem_cons_self, ht⟩)
    refine ih hstep fun t ht => past t ?_
    obtain ⟨a, ha, hat⟩ := List.mem_filterMap.1 ht
    exact List.mem_filterMap.2 ⟨a, List.mem_cons_of_mem e ha, hat⟩

end Shelf

/-! ## Look-ups -/

namespace SaveLedger

theorem honest_run (capacity : Nat) {es : List StoreEvent} {now : Int} (key : String)
    (past : ∀ t ∈ es.filterMap StoreEvent.now?, t ≤ now) :
    ((start capacity).run es).shelf key |>.Honest (max capacity 1) now := by
  have hempty : Shelf.Honest (max capacity 1) now ((start capacity).shelf key) :=
    Shelf.honest_empty _ _
  rw [shelf_run]
  refine hempty.run (by omega) fun t ht => past t ?_
  obtain ⟨e, he, het⟩ := List.mem_filterMap.1 ht
  exact List.mem_filterMap.2 ⟨e, (List.mem_filter.1 he).1, het⟩

/-- What a look-up and a save come to is up to the log of the key. -/
theorem get_congr {s s' : MemoryStore} {key : String} (h : s.log key = s'.log key) (since now : Int) :
    (s.get key since now).1 = (s'.get key since now).1 := by
  simp only [MemoryStore.get, h]

theorem save_congr {s s' : MemoryStore} {key : String} (h : s.log key = s'.log key)
    (hcap : s.capacity = s'.capacity) (m : Message) : (s.save key m).1 = (s'.save key m).1 := by
  unfold MemoryStore.save
  rw [h, hcap]
  split <;> rfl

/-- Whatever has been saved, looked up and deleted, at times that do not lie ahead: a look-up of a key finds,
in ascending order, messages saved under it since it was last deleted, none of them expired and all above the
given id.  It finds the same if nothing but the events of the key has happened, and a save comes to the same.
Where the ids saved under the key ascend, it finds all of these but those followed by as many saves as there
is room for messages. -/
theorem found_of_saved (capacity : Nat) (es : List StoreEvent) (key : String) (since now : Int)
    (past : ∀ t ∈ es.filterMap StoreEvent.now?, t ≤ now) :
    let d := (start capacity).run es
    let found := (d.store.get key since now).1
    let own := (start capacity).run (es.filter fun e => e.key = key)
    (∀ m ∈ found, m ∈ d.saved key ∧ m.isExpired now = false ∧ since < m.id) ∧
    (found.Pairwise fun a b => a.id < b.id) ∧
    (own.store.get key since now).1 = found ∧
    (∀ m, (own.store.save key m).1 = (d.store.save key m).1) ∧
    (((d.saved key).Pairwise fun a b => a.id < b.id) →
      ∀ before m after, d.saved key = before ++ m :: after → after.length < max capacity 1 →
        m.isExpired now = false → since < m.id → m ∈ found) := by
  intro d found own
  have h : (d.shelf key).Honest (max capacity 1) now := honest_run capacity key past
  have hlog : own.store.log key = d.store.log key :=
    congrArg Shelf.log (shelf_run_filter (start capacity) es key)
  have hcap : own.store.capacity = d.store.capacity := by
    rw [capacity_run, capacity_run]
  refine ⟨fun m hm => ?_, d.store.get_ascending key since now, get_congr hlog since now,
    save_congr hlog hcap, ?_⟩
  · obtain ⟨hmem, hsince, hlive⟩ := MemoryStore.mem_get.1 hm
    exact ⟨h.genuine m hmem, hlive, hsince⟩
  · intro hs before m after hsplit hfew hlive hsince
    exact MemoryStore.mem_get.2 ⟨h.complete hs before m after hsplit hfew hlive, hsince, hlive⟩

/-- Room for two messages under each key.  Of the three saved under "a" since it was deleted the first has been
evicted; a message whose id was taken has not been saved; and what "b" holds has no part in it. -/
theorem found_of_saved_after_an_eviction :
    let m : Int → Int → Message := fun id expire => ⟨id, [104, 105], .personal, expire⟩
    let es : List StoreEvent := [.save "a" (m 1 90), .save "b" (m 7 90), .delete "a", .save "a" (m 2 90),
      .get "a" 0 10, .save "a" (m 3 90), .save "b" (m 3 90), .get "b" 0 20, .save "a" (m 3 80),
      .save "a" (m 5 90), .get "a" 0 50]
    let d := (start 2).run es
    let found := (d.store.get "a" 0 60).1
    let own := (start 2).run (es.filter fun e => e.key = "a")
    ((∀ t ∈ es.filterMap StoreEvent.now?, t ≤ 60) ∧ ((d.saved "a").Pairwise fun a b => a.id < b.id)) ∧
    d.saved "a" = [m 2 90] ++ m 3 90 :: [m 5 90] ∧ [m 5 90].length < max 2 1 ∧ m 3 90 ∈ found ∧
    (∀ m ∈ found, m ∈ d.saved "a" ∧ m.isExpired 60 = false ∧ 0 < m.id) ∧
    found = [m 3 90, m 5 90] ∧ (own.store.get "a" 0 60).1 = found := by
  intro m es d found own
  have past : ∀ t ∈ es.filterMap StoreEvent.now?, t ≤ 60 := by decide
  have hs : (d.saved "a").Pairwise fun a b => a.id < b.id := by decide
  have hsaved : d.saved "a" = [m 2 90] ++ m 3 90 :: [m 5 90] := by decide
  obtain ⟨hgenuine, -, hown, -, hcomplete⟩ := found_of_saved 2 es "a" 0 60 past
  exact ⟨⟨past, hs⟩, hsaved, by decide,
    hcomplete hs [m 2 90] (m 3 90) [m 5 90] hsaved (by decide) (by decide) (by decide), hgenuine,
    by decide, hown⟩

end SaveLedger

end PushRelay
