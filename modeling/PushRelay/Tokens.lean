import PushRelay.Instant
import PushRelay.Table

/-!
# Tickets

A `TokenRegistry` holds a bounded number of tickets, each good until it has not been used for the
lifetime.  Using a ticket makes it the newest; when room is needed the oldest goes.

Tickets stand in numbered slots that are linked from the oldest to the newest, with an index from
tickets to slots, so that every operation touches a few slots only.  Slots that have become vacant are
used again, the last one first.  `TokenRegistry.tickets` lists the tickets along the links.

The time of a use and the lifetime have to add up to an instant, that is, to less than `Instant.bound`.
-/

namespace PushRelay

/-- Why a ticket is not accepted. -/
inductive TokenError where
  | alreadyRegistered
  | notFound
  | expired
  deriving DecidableEq, Repr

def TokenError.message : TokenError → String
  | .alreadyRegistered => "token already registered"
  | .notFound => "token not found"
  | .expired => "token expired"

/-- A ticket, the instant from which it is no good, and the slots before and behind it. -/
structure TokenSlot where
  ticket : String
  expire : Int
  older : Option Nat
  newer : Option Nat
  deriving DecidableEq, Repr

structure TokenRegistry where
  /-- `none` where a slot is vacant. -/
  slots : List (Option TokenSlot)
  /-- The vacant slots, in front the one that has become vacant last. -/
  free : List Nat
  index : Table String Nat
  oldest : Option Nat
  newest : Option Nat
  capacity : Nat
  /-- The lifetime in nanoseconds. -/
  ttl : Nat

namespace TokenRegistry

/-! ## Slots -/

/-- A registry that holds at least one ticket. -/
def new (capacity ttl : Nat) : TokenRegistry :=
  ⟨[], [], .empty, none, none, max capacity 1, ttl⟩

def size (r : TokenRegistry) : Nat := r.index.size

def isEmpty (r : TokenRegistry) : Bool := r.index.isEmpty

/-- What a slot holds. -/
def slot? (r : TokenRegistry) (i : Nat) : Option TokenSlot := (r.slots[i]?).join

/-- Changes what a slot holds.  A vacant slot stays vacant. -/
def update (r : TokenRegistry) (i : Nat) (f : TokenSlot → TokenSlot) : TokenRegistry :=
  { r with slots := r.slots.modify i (Option.map f) }

def setOlder (r : TokenRegistry) (i : Nat) (older : Option Nat) : TokenRegistry :=
  r.update i fun s => { s with older }

def setNewer (r : TokenRegistry) (i : Nat) (newer : Option Nat) : TokenRegistry :=
  r.update i fun s => { s with newer }

/-- The slot for the next ticket: the one that has become vacant last, or a new one. -/
def vacant (r : TokenRegistry) : Nat := r.free.headD r.slots.length

/-- Puts something into the slot for the next ticket. -/
def fill (r : TokenRegistry) (s : TokenSlot) : TokenRegistry :=
  match r.free with
  | [] => { r with slots := r.slots ++ [some s] }
  | i :: free => { r with slots := r.slots.set i (some s), free }

/-- Makes a slot vacant. -/
def vacate (r : TokenRegistry) (i : Nat) : TokenRegistry :=
  { r with slots := r.slots.set i none, free := i :: r.free }

/-! ## Links -/

/-- Appends a slot at the newest end. -/
def linkNewest (r : TokenRegistry) (i : Nat) : TokenRegistry :=
  let r := r.update i fun s => { s with older := r.newest, newer := none }
  let r := match r.newest with
    | some last => r.setNewer last (some i)
    | none => { r with oldest := some i }
  { r with newest := some i }

/-- Takes a slot out of the links. -/
def unlink (r : TokenRegistry) (i : Nat) : TokenRegistry :=
  match r.slot? i with
  | none => r
  | some s =>
    let r := match s.older with
      | some older => r.setNewer older s.newer
      | none => { r with oldest := s.newer }
    let r := match s.newer with
      | some newer => r.setOlder newer s.older
      | none => { r with newest := s.older }
    r.update i fun s => { s with older := none, newer := none }

/-- Takes a ticket out. -/
def removeSlot (r : TokenRegistry) (i : Nat) : TokenRegistry :=
  match r.slot? i with
  | none => r
  | some s =>
    let r := (r.unlink i).vacate i
    { r with index := r.index.erase s.ticket }

/-! ## Operations -/

/-- Takes out expired tickets from the oldest end, at most `fuel` of them, up to the first one that
is still good. -/
def purgeWithin (now : Int) : Nat → TokenRegistry → TokenRegistry
  | 0, r => r
  | fuel + 1, r =>
    match r.oldest with
    | none => r
    | some i =>
      match r.slot? i with
      | none => r
      | some s => if now < s.expire then r else purgeWithin now fuel (r.removeSlot i)

/-- As many rounds as there are tickets are enough. -/
def purge (r : TokenRegistry) (now : Int) : TokenRegistry := purgeWithin now r.size r

/-- Takes out the oldest tickets, at most `fuel` of them, until one more fits. -/
def makeRoomWithin : Nat → TokenRegistry → TokenRegistry
  | 0, r => r
  | fuel + 1, r =>
    if r.size < r.capacity then r
    else match r.oldest with
      | none => r
      | some i => makeRoomWithin fuel (r.removeSlot i)

def makeRoom (r : TokenRegistry) : TokenRegistry := makeRoomWithin r.size r

/-- Registers a ticket that is not registered.  It is good for a lifetime. -/
def add (r : TokenRegistry) (ticket : String) (now : Int) : Except TokenError Unit × TokenRegistry :=
  let r := r.purge now
  if r.index.contains ticket then (.error .alreadyRegistered, r)
  else
    let r := r.makeRoom
    let i := r.vacant
    let r := (r.fill ⟨ticket, now + r.ttl, none, none⟩).linkNewest i
    (.ok (), { r with index := r.index.insert ticket i })

/-- Uses a ticket, which makes it good for another lifetime. -/
def auth (r : TokenRegistry) (ticket : String) (now : Int) :
    Except TokenError Unit × TokenRegistry :=
  match r.index.get? ticket with
  | none => (.error .notFound, r.purge now)
  | some i =>
    match r.slot? i with
    | none => (.error .notFound, r.purge now)
    | some s =>
      if s.expire ≤ now then (.error .expired, (r.removeSlot i).purge now)
      else
        let r := r.update i fun s => { s with expire := now + r.ttl }
        (.ok (), ((r.unlink i).linkNewest i).purge now)

/-- Forgets all tickets. -/
def clear (r : TokenRegistry) : TokenRegistry :=
  { r with slots := [], free := [], index := .empty, oldest := none, newest := none }

/-! ## View -/

/-- The slots along the links from `i` on, at most `fuel` of them. -/
def walk (r : TokenRegistry) : Nat → Option Nat → List TokenSlot
  | 0, _ => []
  | _ + 1, none => []
  | fuel + 1, some i =>
    match r.slot? i with
    | none => []
    | some s => s :: walk r fuel s.newer

/-- The tickets with the instants from which they are no good, the oldest first. -/
def tickets (r : TokenRegistry) : List (String × Int) :=
  (r.walk r.size r.oldest).map fun s => (s.ticket, s.expire)

end TokenRegistry

end PushRelay
