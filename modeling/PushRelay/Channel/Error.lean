import PushRelay.Connection
import PushRelay.Ids.Source
import PushRelay.Store.Error
import PushRelay.Text.Quoted
import PushRelay.Tokens

/-!
# What can go wrong with channels

`ChannelError` lists the causes; `ChannelError.message` words them.
-/

namespace PushRelay

/-- Settings under which no channels can be made. -/
inductive SettingsError where
  | bucketCount (n : Nat)
  | storeMissing
  | unknownKind (name : String)
  deriving DecidableEq, Repr

def SettingsError.detail : SettingsError → String
  | .bucketCount n => s!"bucket count {n} is not a power of two"
  | .storeMissing => "outer channels need a message store"
  | .unknownKind name => "unknown channel kind " ++ Text.quoted name

def SettingsError.message (e : SettingsError) : String := "invalid channel config: " ++ e.detail

inductive ChannelError where
  | notExist
  | expired
  | closed
  | messageExpired
  | duplicateMessage (id : Int)
  | maxConn (max : Nat)
  | token (cause : TokenError)
  | write (cause : WriteError)
  | store (cause : StoreError)
  | noId (cause : IdError)
  | migrateRefused (node : String)
  | settings (cause : SettingsError)
  deriving DecidableEq, Repr

namespace ChannelError

def message : ChannelError → String
  | .notExist => "channel not found"
  | .expired => "channel expired"
  | .closed => "channel closed"
  | .messageExpired => "message already expired"
  | .duplicateMessage id => s!"message id {id} already retained"
  | .maxConn max => s!"connection limit {max} reached"
  | .token cause => cause.message
  | .write cause => "connection write failed: " ++ cause.message
  | .store cause => "message store: " ++ cause.message
  | .noId cause => "failed to assign message id: " ++ cause.message
  | .migrateRefused node => s!"local node {node} is not in the new node list"
  | .settings cause => cause.message

/-- Whether to treat the channel as one that does not exist. -/
def isNotFound : ChannelError → Bool
  | .notExist | .expired => true
  | _ => false

end ChannelError

end PushRelay
