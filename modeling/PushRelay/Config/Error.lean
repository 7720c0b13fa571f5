import PushRelay.Channel.Settings

/-!
# What can be wrong with a configuration

`ConfigError` lists the causes; `ConfigError.message` words them, the outer circumstance first.
-/

namespace PushRelay

/-- Settings that have to be greater than zero. -/
inductive PositiveSetting where
  | maxConnsPerKey
  | maxMessagesPerKey
  | maxTokens
  | connQueueDepth
  | maxArgBytes
  | vnodes
  deriving DecidableEq, Repr

def PositiveSetting.name : PositiveSetting → String
  | .maxConnsPerKey => "max_conns_per_key"
  | .maxMessagesPerKey => "max_messages_per_key"
  | .maxTokens => "max_tokens"
  | .connQueueDepth => "conn_queue_depth"
  | .maxArgBytes => "max_arg_bytes"
  | .vnodes => "vnodes"

inductive ConfigError where
  /-- A setting, under the name it was given with, is no socket address. -/
  | address (setting : String)
  | kind (setting : String) (cause : SettingsError)
  | unreadable (path : String)
  | yaml
  | emptyNodeId
  | buckets (n : Nat)
  | zero (setting : PositiveSetting)
  | heartbeat (max : Nat)
  | worker (n : Int)
  | storeUrlMissing
  | selfMissing (node : String) (nodes : List String)
  deriving DecidableEq, Repr

def ConfigError.message : ConfigError → String
  | .address setting => s!"parse {setting}: invalid socket address syntax"
  | .kind setting cause => s!"parse {setting}: {cause.message}"
  | .unreadable path => s!"read COMET_CONFIG: {path}"
  | .yaml => "parse comet config yaml"
  | .emptyNodeId => "node_id must not be empty"
  | .buckets n => s!"channel_buckets must be a power of two, got {n}"
  | .zero setting => s!"{setting.name} must be greater than zero"
  | .heartbeat max => s!"default_heartbeat_secs must be within 1..={max}"
  | .worker n => s!"worker_id {n} out of range"
  | .storeUrlMissing => "channel_kind outer requires COMET_MESSAGE_URL"
  | .selfMissing node nodes => s!"node {node} is missing from nodes {Text.quotedList nodes}"

end PushRelay
