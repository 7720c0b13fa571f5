import PushRelay.Base64
import PushRelay.Json.Record

/-!
# Messages

A message has an id, a body, a group and an instant at which it expires.  `Message.toJson` is the
form in which stores keep it, `Push` what a client gets to see of it.  Both carry the body in base
64.  The readers `Message.ofJson?` and `Push.ofJson?` accept records (`Json.record?`).

Ids are signed 64-bit integers.  Instants are nanoseconds since the beginning of 1970, saturated to
the same range.
-/

namespace PushRelay

/-! ## Instants -/

/-- Nanoseconds in a second. -/
def secondNanos : Nat := 1000000000

/-- Nanoseconds in a millisecond. -/
def milliNanos : Nat := 1000000

/-- A number of seconds in nanoseconds. -/
def secondsToNanos (n : Int) : Int := Numeral.clamp64 (n * secondNanos)

/-- The instant `ttl` nanoseconds after `now`.  A lifetime beyond the range counts as the longest. -/
def deadlineAfter (now : Int) (ttl : Nat) : Int :=
  Numeral.clamp64 (now + min (ttl : Int) Numeral.int64Max)

/-! ## Groups -/

/-- Whom a message is for: one subscriber, who may fetch it later, or whoever is listening now. -/
inductive Group where
  | personal
  | broadcast
  deriving DecidableEq, Repr

namespace Group

def code : Group → Nat
  | .personal => 0
  | .broadcast => 1

def ofCode? : Nat → Option Group
  | 0 => some .personal
  | 1 => some .broadcast
  | _ => none

def name : Group → String
  | .personal => "private"
  | .broadcast => "public"

def ofName? (s : String) : Option Group :=
  if s = "private" then some .personal
  else if s = "public" then some .broadcast
  else none

/-- A name, or an object whose only member has that name and no value. -/
def ofJson? : Json → Option Group
  | .object [(name, .null)] => (Json.name? name).bind ofName?
  | .object _ => none
  | j => j.text?.bind ofName?

end Group

/-! ## Messages -/

structure Message where
  id : Int
  body : Bytes
  group : Group
  expire : Int
  deriving DecidableEq, Repr

namespace Message

/-- A message has expired when its instant is reached. -/
def isExpired (m : Message) (now : Int) : Bool := m.expire ≤ now

/-- The same message under another id. -/
def withId (m : Message) (id : Int) : Message := { m with id }

end Message

/-- Octets in base 64. -/
def bodyJson (body : Bytes) : Json := .string (Base64.encode body)

def body? (j : Json) : Option Bytes :=
  match j.octets? with
  | none => none
  | some digits => Base64.decode? digits

/-- A signed 64-bit integer. -/
def Json.int64? (j : Json) : Option Int := j.int? Numeral.int64Min Numeral.int64Max

namespace Message

def fields : List String := ["id", "body", "group", "expire"]

def toJson (m : Message) : Json :=
  .record [("id", .int m.id), ("body", bodyJson m.body), ("group", .text m.group.name),
    ("expire", .int m.expire)]

def print (m : Message) : Bytes := m.toJson.print

/-- A message whose group is left out is for one subscriber. -/
def ofJson? (j : Json) : Option Message :=
  match j.record? fields with
  | some [some id, some body, group, some expire] =>
    match id.int64?, body? body, (group.map Group.ofJson?).getD (some .personal), expire.int64? with
    | some id, some body, some group, some expire => some ⟨id, body, group, expire⟩
    | _, _, _, _ => none
  | _ => none

def parse? (s : Bytes) : Option Message := (Json.parse? s).bind ofJson?

end Message

/-! ## Pushes -/

/-- What a client gets to see of a message. -/
structure Push where
  body : Bytes
  id : Int
  group : Nat
  deriving DecidableEq, Repr

namespace Push

def fields : List String := ["msg", "mid", "gid"]

def toJson (p : Push) : Json :=
  .record [("msg", bodyJson p.body), ("mid", .int p.id), ("gid", .nat p.group)]

def print (p : Push) : Bytes := p.toJson.print

def ofJson? (j : Json) : Option Push :=
  match j.record? fields with
  | some [some body, some id, some group] =>
    match body? body, id.int64?, group.nat? 256 with
    | some body, some id, some group => some ⟨body, id, group⟩
    | _, _, _ => none
  | _ => none

def parse? (s : Bytes) : Option Push := (Json.parse? s).bind ofJson?

end Push

/-- What clients get to see of the message. -/
def Message.push (m : Message) : Push := ⟨m.body, m.id, m.group.code⟩

end PushRelay
