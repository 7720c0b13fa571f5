import PushRelay.Text.Numeral
import PushRelay.Wire.Error

/-!
# Frames

A request is an argument count line `*N` and N bulk strings; a bulk string is a length line `$L`,
L octets and a line end.  Lines end in CR LF.  A push is one bulk string.

`Request.encode` and `encodePush` write frames.  `decodeRequest` and `decodePush` look at the start
of a receive buffer: they answer that more octets are needed, cut one frame off, or refuse.  A
request is first measured, so that nothing is cut off before the whole frame has arrived.
`decodeRequests` and `decodePushes` cut off frames until one of the other answers comes.
-/

namespace PushRelay.Wire

/-! ## Writing -/

/-- The octet that starts a request. -/
def requestLead : UInt8 := 42

/-- The octet that starts a bulk string. -/
def bulkLead : UInt8 := 36

def crlf : Bytes := [13, 10]

/-- A lead octet, a length and a line end. -/
def lengthLine (lead : UInt8) (n : Nat) : Bytes := lead :: Numeral.ofNat n ++ crlf

/-- The arguments of a request.  The first names the command. -/
structure Request where
  args : List Bytes
  deriving DecidableEq, Repr

namespace Request

/-- The first argument, empty if there is none. -/
def command (r : Request) : Bytes := r.args.headD []

end Request

/-- A bulk string. -/
def encodeBulk (payload : Bytes) : Bytes :=
  lengthLine bulkLead payload.length ++ payload ++ crlf

def Request.encode (r : Request) : Bytes :=
  lengthLine requestLead r.args.length ++ r.args.flatMap encodeBulk

/-- A push travels as one bulk string. -/
def encodePush (payload : Bytes) : Bytes := encodeBulk payload

/-! ## Length lines -/

/-- An unfinished length line may be this long. -/
def maxLine : Nat := 24

/-- Splits at the first CR LF, which belongs to neither part. -/
def splitLine : Bytes → Option (Bytes × Bytes)
  | 13 :: 10 :: rest => some ([], rest)
  | [] => none
  | b :: rest => (splitLine rest).map fun (line, rest) => (b :: line, rest)

/-- Reads a length line: the number and what follows the line, or `none` while the line has not
ended yet. -/
def readLength (lead : UInt8) (buf : Bytes) : Except WireError (Option (Nat × Bytes)) :=
  match buf with
  | [] => .ok none
  | first :: rest =>
    if first ≠ lead then .error (.unexpectedLead first)
    else match splitLine rest with
      | none => if buf.length > maxLine then .error .missingCrlf else .ok none
      | some (digits, rest) =>
        match Numeral.natural? Numeral.wordBound digits with
        | none => .error .invalidLength
        | some n => .ok (some (n, rest))

/-- Passes over `n` octets and the line end behind them, `none` while they have not all arrived.  The place
behind them has to be a machine word. -/
def skipBody (n : Nat) (buf : Bytes) : Except WireError (Option Bytes) :=
  if buf.length < n + 2 then .ok none
  else if (buf.drop n).take 2 ≠ crlf then .error .missingCrlf
  else .ok (some (buf.drop (n + 2)))

/-! ## Requests -/

/-- The lengths of the next `count` bulk strings and what follows them. -/
def measureArgs (limit : Nat) : Nat → Bytes → Except WireError (Option (List Nat × Bytes))
  | 0, buf => .ok (some ([], buf))
  | count + 1, buf =>
    match readLength bulkLead buf with
    | .error e => .error e
    | .ok none => .ok none
    | .ok (some (n, body)) =>
      if n > limit then .error (.argumentTooLarge n limit)
      else match skipBody n body with
        | .error e => .error e
        | .ok none => .ok none
        | .ok (some rest) =>
          match measureArgs limit count rest with
          | .error e => .error e
          | .ok none => .ok none
          | .ok (some (lengths, rest)) => .ok (some (n :: lengths, rest))

/-- The lengths of a request's arguments and what follows the request. -/
def measureRequest (limit : Nat) (buf : Bytes) : Except WireError (Option (List Nat × Bytes)) :=
  match readLength requestLead buf with
  | .error e => .error e
  | .ok none => .ok none
  | .ok (some (count, rest)) =>
    if minArgs ≤ count ∧ count ≤ maxArgs then measureArgs limit count rest
    else .error (.argumentCount count)

/-- What follows the first line, everything if no line ends. -/
def dropLine (frame : Bytes) : Bytes :=
  match splitLine frame with
  | some (_, rest) => rest
  | none => frame

/-- Cuts bulk strings of known lengths out of a frame. -/
def cutArgs : List Nat → Bytes → List Bytes
  | [], _ => []
  | n :: lengths, frame =>
    let body := dropLine frame
    body.take n :: cutArgs lengths (body.drop (n + 2))

/-- One request with arguments of at most `limit` octets, and what follows it; `none` while it has
not all arrived.  Nothing is taken off the buffer unless a request is found. -/
def decodeRequest (limit : Nat) (buf : Bytes) : Except WireError (Option (Request × Bytes)) :=
  match measureRequest limit buf with
  | .error e => .error e
  | .ok none => .ok none
  | .ok (some (lengths, rest)) =>
    let frame := buf.take (buf.length - rest.length)
    .ok (some (⟨cutArgs lengths (dropLine frame)⟩, rest))

/-! ## Pushes -/

/-- One push payload and what follows it; `none` while it has not all arrived. -/
def decodePush (buf : Bytes) : Except WireError (Option (Bytes × Bytes)) :=
  match readLength bulkLead buf with
  | .error e => .error e
  | .ok none => .ok none
  | .ok (some (n, body)) =>
    match skipBody n body with
    | .error e => .error e
    | .ok none => .ok none
    | .ok (some rest) => .ok (some (body.take n, rest))

/-! ## Draining a buffer -/

/-- What draining a buffer came to: the frames in order, the refusal that ended it if any, and the
octets still in the buffer. -/
structure Drained (α : Type) where
  frames : List α
  refusal : Option WireError
  left : Bytes

/-- Cuts off frames while there are any, at most `fuel` of them. -/
def drainWith {α : Type} (decode : Bytes → Except WireError (Option (α × Bytes))) :
    Nat → Bytes → Drained α
  | 0, buf => ⟨[], none, buf⟩
  | fuel + 1, buf =>
    match decode buf with
    | .error e => ⟨[], some e, buf⟩
    | .ok none => ⟨[], none, buf⟩
    | .ok (some (frame, rest)) =>
      let more := drainWith decode fuel rest
      { more with frames := frame :: more.frames }

/-- Every frame takes an octet at least, so one round more than there are octets is enough. -/
def drain {α : Type} (decode : Bytes → Except WireError (Option (α × Bytes))) (buf : Bytes) :
    Drained α :=
  drainWith decode (buf.length + 1) buf

def decodeRequests (limit : Nat) (buf : Bytes) : Drained Request := drain (decodeRequest limit) buf

def decodePushes (buf : Bytes) : Drained Bytes := drain decodePush buf

end PushRelay.Wire
