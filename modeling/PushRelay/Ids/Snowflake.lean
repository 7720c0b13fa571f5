import PushRelay.Text.Numeral

/-!
# Ids from time, worker and sequence

A `Snowflake` makes ids of three parts: 42 bits for the milliseconds since the beginning of 2014, ten
bits for the worker, twelve bits for a sequence number within the millisecond.  It refuses a reading
of the clock below the last one it used, and a 4097th id at one reading; a refusal leaves it as it is.

    next.1 = .ok id → workerOf id = worker
-/

namespace PushRelay

/-- Why no id is given out. -/
inductive IdError where
  | invalidWorker (worker : Int)
  | clockBackwards (last now : Int)
  | sequenceExhausted (ms : Int)
  deriving DecidableEq, Repr

def IdError.message : IdError → String
  | .invalidWorker worker => s!"invalid worker id {worker} (must be 0..=1023)"
  | .clockBackwards last now => s!"clock moved backwards: last {last}ms, now {now}ms"
  | .sequenceExhausted ms => s!"id sequence exhausted for millisecond {ms}"

/-- The generator of one worker, with the reading it last used and the sequence number of the id
given out last. -/
structure Snowflake where
  worker : Fin 1024
  last : Int
  sequence : Nat
  deriving DecidableEq, Repr

namespace Snowflake

/-- The beginning of 2014 in milliseconds since the beginning of 1970. -/
def epoch : Int := 1388534400000

/-- The greatest worker. -/
def maxWorker : Nat := 1023

/-- The greatest sequence number. -/
def maxSequence : Nat := 4095

def new? (worker : Int) : Except IdError Snowflake :=
  if h : 0 ≤ worker ∧ worker ≤ 1023 then .ok ⟨⟨worker.toNat, by omega⟩, -1, 0⟩
  else .error (.invalidWorker worker)

/-- Puts the parts of an id together.  Bits of the time beyond the upper end of a signed 64-bit
integer are lost. -/
def compose (ms : Int) (worker sequence : Nat) : Int :=
  ((ms - epoch) * 0x400000).bmod 0x10000000000000000 + worker * 0x1000 + sequence

/-- An id for a reading of the clock. -/
def next (g : Snowflake) (now : Int) : Except IdError Int × Snowflake :=
  if now < g.last then (.error (.clockBackwards g.last now), g)
  else if now = g.last then
    if g.sequence = maxSequence then (.error (.sequenceExhausted now), g)
    else
      let g := { g with sequence := g.sequence + 1 }
      (.ok (compose now g.worker g.sequence), g)
  else
    let g := { g with last := now, sequence := 0 }
    (.ok (compose now g.worker g.sequence), g)

/-- The worker whose generator made an id. -/
def workerOf (id : Int) : Int := id / 0x1000 % 0x400

end Snowflake

end PushRelay
