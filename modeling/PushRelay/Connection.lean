/-!
# Connections

A `Connection` is a bounded queue of payloads between a channel, which writes, and the session of a
client, which reads, together with a request to close that either side may make.  Writing never
waits: it fails when the queue is full, when closing has been requested or when the reader has gone.
-/

namespace PushRelay

/-- Why a payload is not taken. -/
inductive WriteError where
  | full
  | closed
  deriving DecidableEq, Repr

def WriteError.message : WriteError → String
  | .full => "connection queue full"
  | .closed => "connection closed"

structure Connection (α : Type) where
  /-- How many payloads may wait. -/
  depth : Nat
  waiting : List α
  closeRequested : Bool
  /-- The reader has gone. -/
  readerGone : Bool
  /-- The last writer has gone. -/
  writersGone : Bool
  deriving DecidableEq, Repr

/-- What asking for the next payload comes to. -/
inductive Received (α : Type) where
  | payload (a : α)
  /-- Nothing more will come. -/
  | ended
  /-- Nothing is there yet. -/
  | pending
  deriving DecidableEq, Repr

namespace Connection

variable {α : Type}

/-- The deepest queue there is. -/
def maxDepth : Nat := 0x1fffffffffffffff

/-- A connection with room for `depth` payloads, and for one at least. -/
def new (depth : Nat) : Connection α := ⟨max depth 1, [], false, false, false⟩

/-- Whether a writer sees the connection as closed. -/
def isClosed (c : Connection α) : Bool := c.closeRequested || c.readerGone

/-- Whether a payload would be taken. -/
def hasRoom (c : Connection α) : Bool := !c.isClosed && decide (c.waiting.length < c.depth)

/-- The connection with one more payload waiting. -/
def enqueue (c : Connection α) (a : α) : Connection α := { c with waiting := c.waiting ++ [a] }

/-- Lets a payload wait, or says why it is not taken. -/
def write (c : Connection α) (a : α) : Except WriteError (Connection α) :=
  if c.isClosed then .error .closed
  else if c.depth ≤ c.waiting.length then .error .full
  else .ok (c.enqueue a)

/-- Requests that the connection be closed. -/
def close (c : Connection α) : Connection α := { c with closeRequested := true }

/-- The reader goes, and what is waiting with it. -/
def dropReader (c : Connection α) : Connection α := { c with readerGone := true, waiting := [] }

def dropWriters (c : Connection α) : Connection α := { c with writersGone := true }

/-- Takes the first waiting payload, whether or not closing has been requested. -/
def receive (c : Connection α) : Received α × Connection α :=
  match c.waiting with
  | a :: rest => (.payload a, { c with waiting := rest })
  | [] => (if c.writersGone then .ended else .pending, c)

/-- As `receive`, but nothing more comes once closing has been requested. -/
def next (c : Connection α) : Received α × Connection α :=
  if c.closeRequested then (.ended, c) else c.receive

/-- Takes everything that is waiting. -/
def drain (c : Connection α) : List α × Connection α := (c.waiting, { c with waiting := [] })

end Connection

end PushRelay
