import PushRelay.Text.Quoted

/-!
# Why a frame or a command is refused

`WireError` lists the causes; `WireError.message` words them.
-/

namespace PushRelay.Wire

/-- The arguments of a subscribe command. -/
inductive Field where
  | key
  | heartbeat
  | token
  deriving DecidableEq, Repr

def Field.name : Field → String
  | .key => "key"
  | .heartbeat => "heartbeat"
  | .token => "token"

/-- The fewest arguments of a request. -/
def minArgs : Nat := 1

/-- The most arguments of a request. -/
def maxArgs : Nat := 4

inductive WireError where
  /-- The frame does not start with the octet that its kind announces. -/
  | unexpectedLead (found : UInt8)
  /-- A line that is too long, or an argument not followed by CR LF. -/
  | missingCrlf
  /-- The length line holds no numeral. -/
  | invalidLength
  | argumentCount (found : Nat)
  | argumentTooLarge (length limit : Nat)
  | unknownCommand (name : String)
  | invalidArgument (field : Field)
  deriving DecidableEq, Repr

def WireError.message : WireError → String
  | .unexpectedLead b => "unexpected prefix byte 0x" ++ String.ofList (Text.hexByte b)
  | .missingCrlf => "missing CRLF terminator"
  | .invalidLength => "invalid length line"
  | .argumentCount n => s!"argument count {n} outside [{minArgs}, {maxArgs}]"
  | .argumentTooLarge length limit => s!"argument of {length} bytes exceeds limit {limit}"
  | .unknownCommand name => "unknown command " ++ Text.quoted name
  | .invalidArgument field => s!"invalid {field.name} argument"

end PushRelay.Wire
