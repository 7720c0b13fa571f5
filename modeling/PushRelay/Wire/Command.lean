import PushRelay.Wire.Frame

/-!
# Commands and replies

A client subscribes with `sub KEY HEARTBEAT [TOKEN]`: `Subscribe.ofRequest` reads it.  Afterwards it
sends single heartbeat octets.  Each reply is one line.
-/

namespace PushRelay.Wire

/-! ## Replies -/

/-- The octet that keeps a subscription alive. -/
def heartbeat : UInt8 := 104

def heartbeatReply : Bytes := [43, 104, 13, 10]

/-- Malformed request, or a heartbeat outside the range. -/
def paramReply : Bytes := [45, 112, 13, 10]

/-- Ticket missing, unknown or expired. -/
def authReply : Bytes := [45, 97, 13, 10]

/-- The channel turned the connection away. -/
def channelReply : Bytes := [45, 99, 13, 10]

/-- Another node owns the key. -/
def nodeReply : Bytes := [45, 110, 13, 10]

/-! ## Subscribing -/

/-- The name of the subscribe command. -/
def subscribeName : Bytes := [115, 117, 98]

/-- Arguments may be this long unless the configuration says otherwise. -/
def defaultMaxArg : Nat := 1024

structure Subscribe where
  key : String
  /-- Seconds; zero asks for the default. -/
  heartbeat : Nat
  token : Option String
  deriving DecidableEq, Repr

namespace Subscribe

/-- An argument that has to be text. -/
def text (field : Field) (arg : Bytes) : Except WireError String :=
  match Utf8.toString? arg with
  | some s => .ok s
  | none => .error (.invalidArgument field)

/-- An empty token counts as none. -/
def readToken : List Bytes → Except WireError (Option String)
  | [] => .ok none
  | arg :: _ => match text .token arg with
    | .error e => .error e
    | .ok s => .ok (if s.isEmpty then none else some s)

/-- The arguments behind the command name. -/
def ofArgs : List Bytes → Except WireError Subscribe
  | key :: heartbeat :: more =>
    match text .key key with
    | .error e => .error e
    | .ok key =>
      if key.isEmpty then .error (.invalidArgument .key)
      else match Numeral.natural? Numeral.wordBound heartbeat with
        | none => .error (.invalidArgument .heartbeat)
        | some heartbeat => match readToken more with
          | .error e => .error e
          | .ok token => .ok ⟨key, heartbeat, token⟩
  | args => .error (.argumentCount (args.length + 1))

def ofRequest (r : Request) : Except WireError Subscribe :=
  if r.command = subscribeName then ofArgs r.args.tail
  else .error (.unknownCommand (Utf8.toStringLossy r.command))

end Subscribe

end PushRelay.Wire
