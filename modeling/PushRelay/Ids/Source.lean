import PushRelay.Ids.Snowflake

/-!
# Where ids come from

`IdSource` is a generator together with the clock it reads: a `Snowflake`, or a `TimeId`, which gives
out the clock's nanoseconds and counts on when the clock does not move.  One source serves a whole
node, so all ids it gives out compare with each other.  `IdSource.drawWaiting` waits a millisecond, up
to three times, when the sequence of a millisecond is used up.
-/

namespace PushRelay

/-! ## Ids from nanoseconds -/

/-- The id given out last. -/
structure TimeId where
  last : Int
  deriving DecidableEq, Repr

namespace TimeId

/-- A generator that has given out nothing. -/
def new : TimeId := ⟨0⟩

/-- The reading, or the number after the last id if that is greater. -/
def nextAt (g : TimeId) (now : Int) : Int × TimeId :=
  let id := if g.last < now then now else g.last + 1
  (id, ⟨id⟩)

end TimeId

/-! ## Clocks -/

/-- What a generator takes the time from. -/
inductive Clock where
  /-- The time of day. -/
  | wall
  /-- Readings in milliseconds, in runs of one value.  The last run does not end. -/
  | script (runs : List (Int × Nat))
  deriving DecidableEq, Repr

namespace Clock

/-- Takes one reading off a script. -/
def readScript : List (Int × Nat) → Int × List (Int × Nat)
  | [] => (0, [])
  | [(ms, n)] => (ms, [(ms, n)])
  | (_, 0) :: runs => readScript runs
  | (ms, 1) :: runs => (ms, runs)
  | (ms, n + 2) :: runs => (ms, (ms, n + 1) :: runs)

/-- A reading in milliseconds, `now` being the time of day in nanoseconds. -/
def read (now : Int) : Clock → Int × Clock
  | .wall => (now / 1000000, .wall)
  | .script runs =>
    let (ms, runs) := readScript runs
    (ms, .script runs)

end Clock

/-! ## Sources -/

inductive Generator where
  | snowflake (g : Snowflake)
  | time (g : TimeId)
  deriving DecidableEq, Repr

structure IdSource where
  generator : Generator
  clock : Clock
  deriving DecidableEq, Repr

namespace IdSource

/-- The ids of one worker. -/
def snowflake? (worker : Int) (clock : Clock) : Except IdError IdSource :=
  match Snowflake.new? worker with
  | .ok g => .ok ⟨.snowflake g, clock⟩
  | .error e => .error e

/-- Ids from the time of day. -/
def time : IdSource := ⟨.time .new, .wall⟩

/-- An id at the given time of day. -/
def draw (s : IdSource) (now : Int) : Except IdError Int × IdSource :=
  match s.generator with
  | .snowflake g =>
    let (ms, clock) := s.clock.read now
    let (id, g) := g.next ms
    (id, ⟨.snowflake g, clock⟩)
  | .time g =>
    let (id, g) := g.nextAt now
    (.ok id, { s with generator := .time g })

/-- How often an exhausted sequence is waited out. -/
def retries : Nat := 3

/-- An id, and the time of day once it has been drawn.  `waits` bounds the waits of a millisecond. -/
def drawWithin (waits : Nat) (s : IdSource) (now : Int) : Except IdError Int × IdSource × Int :=
  match waits, s.draw now with
  | waits + 1, (.error (.sequenceExhausted _), s) => drawWithin waits s (now + 1000000)
  | _, (id, s) => (id, s, now)

def drawWaiting (s : IdSource) (now : Int) : Except IdError Int × IdSource × Int :=
  drawWithin retries s now

end IdSource

end PushRelay
