import PushRelay.Config.Error
import PushRelay.Ids.Snowflake
import PushRelay.Message
import PushRelay.Net.SocketAddress
import PushRelay.Registry
import PushRelay.Ring
import PushRelay.Wire.Command

/-!
# Configuration

A `Config` is everything that can be set about a node.  `Config.validate` refuses settings that a node
cannot start with; the functions behind it say what the settings mean to the parts of a node.
-/

namespace PushRelay

structure Config where
  /-- The name of this node on the ring. -/
  nodeId : String
  tcpBind : SocketAddress
  websocketBind : SocketAddress
  adminBind : SocketAddress
  metricsBind : SocketAddress
  channelKind : ChannelKind
  channelBuckets : Nat
  channelExpireSecs : Nat
  maxConnsPerKey : Nat
  maxMessagesPerKey : Nat
  /-- Whether a subscriber needs a ticket. -/
  tokenAuth : Bool
  maxTokens : Nat
  tokenExpireSecs : Nat
  defaultHeartbeatSecs : Nat
  maxHeartbeatSecs : Nat
  connQueueDepth : Nat
  maxArgBytes : Nat
  vnodes : Nat
  workerId : Int
  messageStoreUrl : Option String
  membershipUrl : Option String
  membershipPollMs : Nat
  /-- The nodes of the ring at the start. -/
  nodes : List String
  deriving DecidableEq, Repr

namespace Config

/-- A single node on ephemeral local ports with small limits. -/
def loopback : Config :=
  let anyPort := SocketAddress.v4 [127, 0, 0, 1] 0
  { nodeId := "1"
    tcpBind := anyPort
    websocketBind := anyPort
    adminBind := anyPort
    metricsBind := anyPort
    channelKind := .inner
    channelBuckets := 8
    channelExpireSecs := 60
    maxConnsPerKey := 4
    maxMessagesPerKey := 8
    tokenAuth := false
    maxTokens := 4
    tokenExpireSecs := 60
    defaultHeartbeatSecs := 5
    maxHeartbeatSecs := 60
    connQueueDepth := 16
    maxArgBytes := 1024
    vnodes := Ring.defaultVnodes
    workerId := 1
    messageStoreUrl := none
    membershipUrl := none
    membershipPollMs := 50
    nodes := ["1"] }

/-! ## Validation -/

/-- The settings that have to be greater than zero, with their values. -/
def positives (c : Config) : List (PositiveSetting × Nat) :=
  [(.maxConnsPerKey, c.maxConnsPerKey), (.maxMessagesPerKey, c.maxMessagesPerKey),
    (.maxTokens, c.maxTokens), (.connQueueDepth, c.connQueueDepth), (.maxArgBytes, c.maxArgBytes),
    (.vnodes, c.vnodes)]

/-- Refuses a configuration that a node cannot start with, for the first reason in this order. -/
def validate (c : Config) : Except ConfigError Unit :=
  if c.nodeId.isEmpty then .error .emptyNodeId
  else if !Registry.isPowerOfTwo c.channelBuckets then .error (.buckets c.channelBuckets)
  else match c.positives.find? (·.2 == 0) with
    | some (setting, _) => .error (.zero setting)
    | none =>
      if c.defaultHeartbeatSecs = 0 ∨ c.maxHeartbeatSecs < c.defaultHeartbeatSecs then
        .error (.heartbeat c.maxHeartbeatSecs)
      else if c.workerId < 0 ∨ Snowflake.maxWorker < c.workerId then .error (.worker c.workerId)
      else if c.channelKind = .outer ∧ c.messageStoreUrl = none then .error .storeUrlMissing
      else if !c.nodes.contains c.nodeId then .error (.selfMissing c.nodeId c.nodes)
      else .ok ()

/-! ## What settings mean -/

def channelSettings (c : Config) : ChannelSettings where
  kind := c.channelKind
  maxConns := c.maxConnsPerKey
  maxMessages := c.maxMessagesPerKey
  tokens := if c.tokenAuth then some ⟨c.maxTokens, c.tokenExpireSecs * secondNanos⟩ else none
  lifetime := c.channelExpireSecs * secondNanos

/-- The seconds between heartbeats that a client gets who asks for so many.  Zero asks for the
default; more than the maximum is refused. -/
def heartbeat (c : Config) (requested : Nat) : Option Nat :=
  if requested = 0 then some c.defaultHeartbeatSecs
  else if requested ≤ c.maxHeartbeatSecs then some requested
  else none

/-- How many payloads may wait for a connection: a whole backlog on top of the live ones, as far as a
machine word goes. -/
def connectionQueueDepth (c : Config) : Nat :=
  min (c.connQueueDepth + c.maxMessagesPerKey) (Numeral.wordBound - 1)

end Config

end PushRelay
