import PushRelay.Message
import PushRelay.Store.Error

/-!
# Message logs

A `MessageLog` holds messages in ascending order of their ids, each id once.  `insertBounded` keeps a
log within a bound by evicting the messages with the lowest ids before it inserts.
-/

namespace PushRelay

/-- Messages in ascending order of their ids. -/
structure MessageLog where
  entries : List Message
  ascending : entries.Pairwise fun a b => a.id < b.id
  deriving DecidableEq, Repr

namespace MessageLog

/-! ## Operations -/

def empty : MessageLog := ⟨[], .nil⟩

def size (log : MessageLog) : Nat := log.entries.length

def isEmpty (log : MessageLog) : Bool := log.entries.isEmpty

def ids (log : MessageLog) : List Int := log.entries.map (·.id)

def contains (log : MessageLog) (id : Int) : Bool := log.entries.any (·.id == id)

def first? (log : MessageLog) : Option Message := log.entries.head?

def last? (log : MessageLog) : Option Message := log.entries.getLast?

/-- Puts a message in front of the first one with a greater id. -/
def place (m : Message) : List Message → List Message
  | [] => [m]
  | a :: l => if m.id < a.id then m :: a :: l else a :: place m l

theorem mem_place {m a : Message} {l : List Message} : a ∈ place m l ↔ a = m ∨ a ∈ l := by
  induction l with
  | nil => simp [place]
  | cons b l ih =>
    simp only [place]
    split
    · simp
    · simp only [List.mem_cons, ih]
      grind

theorem place_ascending {m : Message} {l : List Message}
    (hl : l.Pairwise fun a b => a.id < b.id) (hm : ∀ a ∈ l, a.id ≠ m.id) :
    (place m l).Pairwise fun a b => a.id < b.id := by
  induction l with
  | nil => simp [place]
  | cons b l ih =>
    rw [List.pairwise_cons] at hl
    simp only [place]
    split
    · next h =>
      refine List.pairwise_cons.2 ⟨?_, List.pairwise_cons.2 hl⟩
      intro a ha
      rcases List.mem_cons.1 ha with rfl | ha
      · exact h
      · exact Int.lt_trans h (hl.1 a ha)
    · next h =>
      refine List.pairwise_cons.2 ⟨?_, ih hl.2 fun a ha => hm a (List.mem_cons_of_mem _ ha)⟩
      intro a ha
      rcases mem_place.1 ha with rfl | ha
      · have := hm b List.mem_cons_self
        omega
      · exact hl.1 a ha

theorem contains_eq_false {log : MessageLog} {id : Int} :
    log.contains id = false ↔ ∀ a ∈ log.entries, a.id ≠ id := by
  simp [contains]

/-- The log with a message under its own id, which has to be free. -/
def insert (log : MessageLog) (m : Message) : Except StoreError MessageLog :=
  if h : log.contains m.id = false then
    .ok ⟨place m log.entries, place_ascending log.ascending (contains_eq_false.1 h)⟩
  else .error (.duplicate m.id)

/-- Takes messages off the front while there are `max` or more.  Returns those taken off and those
left. -/
def makeRoom (max : Nat) : List Message → List Message × List Message
  | [] => ([], [])
  | m :: l =>
    if max ≤ (m :: l).length then
      let (out, kept) := makeRoom max l
      (m :: out, kept)
    else ([], m :: l)

theorem makeRoom_append (max : Nat) (l : List Message) :
    (makeRoom max l).1 ++ (makeRoom max l).2 = l := by
  induction l with
  | nil => rfl
  | cons m l ih =>
    simp only [makeRoom]
    split
    · simp [ih]
    · simp

theorem makeRoom_sublist (max : Nat) (l : List Message) : (makeRoom max l).2.Sublist l := by
  have h := List.sublist_append_right (makeRoom max l).1 (makeRoom max l).2
  rwa [makeRoom_append] at h

/-- Inserts a message into a log of at most `max`, evicting the lowest ids first.  Returns the
evicted messages and the log.  Whether the id is free is looked at first.  A log of at most zero keeps
nothing. -/
def insertBounded (log : MessageLog) (m : Message) (max : Nat) :
    Except StoreError (List Message × MessageLog) :=
  if h : log.contains m.id = false then
    let room := makeRoom max log.entries
    let kept : MessageLog := ⟨room.2, log.ascending.sublist (makeRoom_sublist max log.entries)⟩
    if 0 < max then
      .ok (room.1, ⟨place m room.2, place_ascending kept.ascending fun a ha =>
        contains_eq_false.1 h a ((makeRoom_sublist max log.entries).subset ha)⟩)
    else .ok (room.1, kept)
  else .error (.duplicate m.id)

/-- The messages with ids above `id`, ascending. -/
def after (log : MessageLog) (id : Int) : List Message := log.entries.filter fun m => id < m.id

def get? (log : MessageLog) (id : Int) : Option Message := log.entries.find? (·.id == id)

/-- The log without the messages that satisfy `p`. -/
def remove (log : MessageLog) (p : Message → Bool) : MessageLog :=
  ⟨log.entries.filter fun m => !p m, log.ascending.sublist List.filter_sublist⟩

/-- The log without an id. -/
def delete (log : MessageLog) (id : Int) : MessageLog := log.remove (·.id == id)

/-- The log without its first message. -/
def dropFirst (log : MessageLog) : MessageLog :=
  ⟨log.entries.tail, log.ascending.sublist (List.tail_sublist _)⟩

end MessageLog

end PushRelay
