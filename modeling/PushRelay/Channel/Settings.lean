import PushRelay.Channel.Error

/-!
# Settings of channels

There are two kinds of channels: those that retain messages themselves, and those that rely on an
offline store.  `ChannelKind.parse` reads a kind's name.
-/

namespace PushRelay

inductive ChannelKind where
  /-- Messages are retained in memory. -/
  | inner
  /-- Messages are persisted in the offline store. -/
  | outer
  deriving DecidableEq, Repr

namespace ChannelKind

def name : ChannelKind → String
  | .inner => "inner"
  | .outer => "outer"

/-- White space around the name and the case of ASCII letters do not matter. -/
def parse (s : String) : Except SettingsError ChannelKind :=
  let name := String.ofList ((Text.trim s.toList).map Char.toLower)
  if name = "inner" then .ok .inner
  else if name = "outer" then .ok .outer
  else .error (.unknownKind name)

end ChannelKind

/-- How many tickets a channel holds, and how long they are good in nanoseconds. -/
structure TokenSettings where
  capacity : Nat
  ttl : Nat
  deriving DecidableEq, Repr

structure ChannelSettings where
  kind : ChannelKind
  maxConns : Nat
  maxMessages : Nat
  /-- Without settings every ticket is accepted. -/
  tokens : Option TokenSettings
  /-- How long a channel lives without being used, in nanoseconds. -/
  lifetime : Nat
  deriving DecidableEq, Repr

end PushRelay
