import PushRelay.Config.Basic
import PushRelay.Yaml.Reader

/-!
# Loading a configuration

A configuration comes from environment variables, each with a default; a file in YAML, if the
environment names one, overrides what it sets.  `Config.ofEnvironment` is the first half,
`Config.override` the second, and `Config.load` does both and validates the result.

Numbers in the environment that cannot be read count as not set; addresses and the channel kind have
to be right.
-/

namespace PushRelay

/-- Environment variables with their values. -/
abbrev Environment := List (String × String)

namespace Environment

def get? (env : Environment) (name : String) : Option String := env.lookup name

/-- The octets of a variable without the white space around them. -/
def trimmed? (env : Environment) (name : String) : Option Bytes :=
  (env.get? name).map fun value => Utf8.ofChars (Text.trim value.toList)

/-- A natural number of a machine word, or the default. -/
def nat (env : Environment) (name : String) (default : Nat) : Nat :=
  ((env.trimmed? name).bind (Numeral.natural? Numeral.wordBound)).getD default

/-- A signed 64-bit integer, or the default. -/
def int (env : Environment) (name : String) (default : Int) : Int :=
  ((env.trimmed? name).bind (Numeral.integer? Numeral.int64Min Numeral.int64Max)).getD default

/-- Whether a switch is on, which takes one of three words. -/
def flag (env : Environment) (name : String) : Bool :=
  match env.get? name with
  | some value => ["1", "true", "yes"].contains value
  | none => false

def address (env : Environment) (name default : String) : Except ConfigError SocketAddress :=
  match SocketAddress.parse? ((env.get? name).getD default) with
  | some a => .ok a
  | none => .error (.address name)

def kind (env : Environment) (name : String) : Except ConfigError ChannelKind :=
  match env.get? name with
  | some value => (ChannelKind.parse value).mapError (.kind name)
  | none => .ok .inner

/-- The names of a list separated by commas.  White space around them and empty ones are left out. -/
def splitNodes (value : String) : List String :=
  ((value.toList.splitOn ',').map fun name => String.ofList (Text.trim name)).filter
    fun name => !name.isEmpty

end Environment

namespace Config

/-- The configuration that environment variables give. -/
def ofEnvironment (env : Environment) : Except ConfigError Config := do
  let nodeId := (env.get? "COMET_NODE_ID").getD "1"
  let tcpBind ← env.address "COMET_TCP_BIND" "0.0.0.0:6969"
  let websocketBind ← env.address "COMET_WS_BIND" "0.0.0.0:6968"
  let adminBind ← env.address "COMET_ADMIN_BIND" "127.0.0.1:6970"
  let metricsBind ← env.address "COMET_METRICS_BIND" "0.0.0.0:6971"
  let channelKind ← env.kind "COMET_CHANNEL_KIND"
  let nodes := ((env.get? "COMET_NODES").map Environment.splitNodes).getD []
  pure
    { nodeId, tcpBind, websocketBind, adminBind, metricsBind, channelKind
      channelBuckets := env.nat "COMET_CHANNEL_BUCKETS" 16
      channelExpireSecs := env.nat "COMET_CHANNEL_EXPIRE_SECS" 3600
      maxConnsPerKey := env.nat "COMET_MAX_CONNS" 16
      maxMessagesPerKey := env.nat "COMET_MAX_MESSAGES" 64
      tokenAuth := env.flag "COMET_TOKEN_AUTH"
      maxTokens := env.nat "COMET_MAX_TOKENS" 16
      tokenExpireSecs := env.nat "COMET_TOKEN_EXPIRE_SECS" 86400
      defaultHeartbeatSecs := env.nat "COMET_HEARTBEAT_SECS" 30
      maxHeartbeatSecs := env.nat "COMET_MAX_HEARTBEAT_SECS" 600
      connQueueDepth := env.nat "COMET_CONN_QUEUE_DEPTH" 64
      maxArgBytes := env.nat "COMET_MAX_ARG_BYTES" Wire.defaultMaxArg
      vnodes := env.nat "COMET_VNODES" Ring.defaultVnodes
      workerId := env.int "COMET_WORKER_ID" 0
      messageStoreUrl := env.get? "COMET_MESSAGE_URL"
      membershipUrl := env.get? "COMET_MEMBERSHIP_URL"
      membershipPollMs := env.nat "COMET_MEMBERSHIP_POLL_MS" 2000
      nodes := if nodes.isEmpty then [nodeId] else nodes }

/-! ## Overrides -/

/-- What a file sets. -/
structure Overrides where
  nodeId : Option String
  tcpBind : Option String
  websocketBind : Option String
  adminBind : Option String
  metricsBind : Option String
  channelKind : Option String
  channelBuckets : Option Nat
  channelExpireSecs : Option Nat
  maxConnsPerKey : Option Nat
  maxMessagesPerKey : Option Nat
  tokenAuth : Option Bool
  maxTokens : Option Nat
  tokenExpireSecs : Option Nat
  defaultHeartbeatSecs : Option Nat
  maxHeartbeatSecs : Option Nat
  connQueueDepth : Option Nat
  maxArgBytes : Option Nat
  vnodes : Option Nat
  workerId : Option Int
  messageStoreUrl : Option String
  membershipUrl : Option String
  membershipPollMs : Option Nat
  nodes : Option (List String)
  deriving DecidableEq, Repr

namespace Overrides

/-- The value set for a name: `some none` if it is not set or left open, `none` if it is set twice or
to something that `f` does not read. -/
def field? {α : Type} (f : Yaml → Option α) (name : String) (entries : List (String × Yaml)) :
    Option (Option α) :=
  match entries.filter (·.1 == name) with
  | [] => some none
  | [(_, value)] =>
    match value.isUnset? with
    | none => none
    | some true => some none
    | some false => (f value).map some
  | _ => none

def word? : Yaml → Option Nat := Yaml.nat? Numeral.wordBound

def int64? : Yaml → Option Int := Yaml.int? Numeral.int64Min Numeral.int64Max

/-- The texts of a sequence. -/
def texts? (doc : YamlDocument) : Yaml → Option (List String)
  | .seq items => items.mapM fun item => (doc.deref item).text?
  | y => if y.isEmptyPlain then some [] else none

/-- The entries of the document, which is a mapping, by the text of their keys. -/
def named? (doc : YamlDocument) : Option (List (String × Yaml)) :=
  match doc.root with
  | .mapping entries => entries.mapM fun (key, value) =>
    (doc.deref key).text?.map fun key => (key, doc.deref value)
  | y => if y.isEmptyPlain then some [] else none

/-- What a document sets.  Names that mean nothing are ignored. -/
def ofYaml? (doc : YamlDocument) : Option Overrides := do
  let entries ← named? doc
  pure
    { nodeId := ← field? Yaml.text? "node_id" entries
      tcpBind := ← field? Yaml.text? "tcp_bind" entries
      websocketBind := ← field? Yaml.text? "websocket_bind" entries
      adminBind := ← field? Yaml.text? "admin_bind" entries
      metricsBind := ← field? Yaml.text? "metrics_bind" entries
      channelKind := ← field? Yaml.text? "channel_kind" entries
      channelBuckets := ← field? word? "channel_buckets" entries
      channelExpireSecs := ← field? word? "channel_expire_secs" entries
      maxConnsPerKey := ← field? word? "max_conns_per_key" entries
      maxMessagesPerKey := ← field? word? "max_messages_per_key" entries
      tokenAuth := ← field? Yaml.bool? "token_auth" entries
      maxTokens := ← field? word? "max_tokens" entries
      tokenExpireSecs := ← field? word? "token_expire_secs" entries
      defaultHeartbeatSecs := ← field? word? "default_heartbeat_secs" entries
      maxHeartbeatSecs := ← field? word? "max_heartbeat_secs" entries
      connQueueDepth := ← field? word? "conn_queue_depth" entries
      maxArgBytes := ← field? word? "max_arg_bytes" entries
      vnodes := ← field? word? "vnodes" entries
      workerId := ← field? int64? "worker_id" entries
      messageStoreUrl := ← field? Yaml.text? "message_store_url" entries
      membershipUrl := ← field? Yaml.text? "membership_url" entries
      membershipPollMs := ← field? word? "membership_poll_ms" entries
      nodes := ← field? (texts? doc) "nodes" entries }

/-- What a text in YAML sets.  A text without a document sets nothing. -/
def parse? (text : String) : Option Overrides :=
  match Yaml.parse? text.toList with
  | none => none
  | some doc => ofYaml? doc

end Overrides

/-- A set address, read under the name it is set with, or the one there was. -/
def pickAddress (name : String) (value : Option String) (default : SocketAddress) :
    Except ConfigError SocketAddress :=
  match value with
  | none => .ok default
  | some text => match SocketAddress.parse? text with
    | some a => .ok a
    | none => .error (.address name)

def pickKind (name : String) (value : Option String) (default : ChannelKind) :
    Except ConfigError ChannelKind :=
  match value with
  | none => .ok default
  | some text => (ChannelKind.parse text).mapError (.kind name)

/-- The configuration with what is set in place of what there was.  A poll interval of zero and an
empty list of nodes set nothing. -/
def override (c : Config) (o : Overrides) : Except ConfigError Config := do
  let tcpBind ← pickAddress "tcp_bind" o.tcpBind c.tcpBind
  let websocketBind ← pickAddress "websocket_bind" o.websocketBind c.websocketBind
  let adminBind ← pickAddress "admin_bind" o.adminBind c.adminBind
  let metricsBind ← pickAddress "metrics_bind" o.metricsBind c.metricsBind
  let channelKind ← pickKind "channel_kind" o.channelKind c.channelKind
  pure
    { nodeId := o.nodeId.getD c.nodeId
      tcpBind, websocketBind, adminBind, metricsBind, channelKind
      channelBuckets := o.channelBuckets.getD c.channelBuckets
      channelExpireSecs := o.channelExpireSecs.getD c.channelExpireSecs
      maxConnsPerKey := o.maxConnsPerKey.getD c.maxConnsPerKey
      maxMessagesPerKey := o.maxMessagesPerKey.getD c.maxMessagesPerKey
      tokenAuth := o.tokenAuth.getD c.tokenAuth
      maxTokens := o.maxTokens.getD c.maxTokens
      tokenExpireSecs := o.tokenExpireSecs.getD c.tokenExpireSecs
      defaultHeartbeatSecs := o.defaultHeartbeatSecs.getD c.defaultHeartbeatSecs
      maxHeartbeatSecs := o.maxHeartbeatSecs.getD c.maxHeartbeatSecs
      connQueueDepth := o.connQueueDepth.getD c.connQueueDepth
      maxArgBytes := o.maxArgBytes.getD c.maxArgBytes
      vnodes := o.vnodes.getD c.vnodes
      workerId := o.workerId.getD c.workerId
      messageStoreUrl := o.messageStoreUrl.or c.messageStoreUrl
      membershipUrl := o.membershipUrl.or c.membershipUrl
      membershipPollMs := (o.membershipPollMs.filter (0 < ·)).getD c.membershipPollMs
      nodes := (o.nodes.filter fun nodes => !nodes.isEmpty).getD c.nodes }

/-! ## Loading -/

/-- The configuration that the environment gives, with the file it names, validated. -/
def load (env : Environment) (readFile : String → Option String) : Except ConfigError Config := do
  let c ← ofEnvironment env
  let c ← match env.get? "COMET_CONFIG" with
    | none => pure c
    | some path =>
      match readFile path with
      | none => throw (.unreadable path)
      | some text =>
        match Overrides.parse? text with
        | none => throw .yaml
        | some overrides => c.override overrides
  c.validate
  pure c

end Config

end PushRelay
