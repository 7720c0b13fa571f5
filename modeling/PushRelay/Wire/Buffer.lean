import PushRelay.Wire.Frame

/-!
# Receive buffers

`takeRequest` takes a request off a receive buffer in two passes, with places in the buffer that are
machine words: it measures the request, splits the frame off the buffer, and cuts the arguments out of
the frame.  It tells what it found and what is left in the buffer, or nothing if it stops because a place
is beyond the range of words or outside the frame.  As long as the limit for arguments is no such place
this does not happen, and what it finds is what `decodeRequest` finds.
-/

namespace PushRelay.Wire

/-- What a look at the start of a buffer comes to. -/
inductive Look (α : Type) where
  /-- A place is beyond the range of words. -/
  | stopped
  | refused (e : WireError)
  | waiting
  | found (a : α) (rest : Bytes)
  deriving DecidableEq, Repr

namespace Look

variable {α β : Type}

def ofRead : Except WireError (Option (α × Bytes)) → Look α
  | .error e => .refused e
  | .ok none => .waiting
  | .ok (some (a, rest)) => .found a rest

/-- Looks on behind what has been found. -/
def andThen (l : Look α) (next : α → Bytes → Look β) : Look β :=
  match l with
  | .stopped => .stopped
  | .refused e => .refused e
  | .waiting => .waiting
  | .found a rest => next a rest

end Look

/-! ## Measuring -/

/-- Passes over an argument and the line end behind it, the place behind which has to be a word. -/
def lookBody (limit n : Nat) (buf : Bytes) : Look Unit :=
  if n > limit then .refused (.argumentTooLarge n limit)
  else if Numeral.wordBound ≤ n + 2 then .stopped
  else .ofRead ((skipBody n buf).map (Option.map fun rest => ((), rest)))

/-- The lengths of the next `count` bulk strings. -/
def lookArgs (limit : Nat) : Nat → Bytes → Look (List Nat)
  | 0, buf => .found [] buf
  | count + 1, buf =>
    (Look.ofRead (readLength bulkLead buf)).andThen fun n body =>
      (lookBody limit n body).andThen fun _ rest =>
        (lookArgs limit count rest).andThen fun lengths rest => .found (n :: lengths) rest

/-- The lengths of a request's arguments. -/
def lookRequest (limit : Nat) (buf : Bytes) : Look (List Nat) :=
  (Look.ofRead (readLength requestLead buf)).andThen fun count rest =>
    if minArgs ≤ count ∧ count ≤ maxArgs then lookArgs limit count rest
    else .refused (.argumentCount count)

/-! ## Cutting -/

/-- As `cutArgs`, with what is left of the frame; `none` where a cut would reach over its end. -/
def cutWithin : List Nat → Bytes → Option (List Bytes × Bytes)
  | [], frame => some ([], frame)
  | n :: lengths, frame =>
    let body := dropLine frame
    if body.length < n + 2 then none
    else (cutWithin lengths (body.drop (n + 2))).map fun (args, left) => (body.take n :: args, left)

/-! ## Taking a request off -/

/-- One request with arguments of at most `limit` octets, or `none` while it has not all arrived, and what
is left in the buffer. -/
def takeRequest (limit : Nat) (buf : Bytes) : Option (Except WireError (Option Request) × Bytes) :=
  match lookRequest limit buf with
  | .stopped => none
  | .refused e => some (.error e, buf)
  | .waiting => some (.ok none, buf)
  | .found lengths rest =>
    let consumed := buf.length - rest.length
    (cutWithin lengths (dropLine (buf.take consumed))).map fun (args, _) =>
      (.ok (some ⟨args⟩), buf.drop consumed)

end PushRelay.Wire
