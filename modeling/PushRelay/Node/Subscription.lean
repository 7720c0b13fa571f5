import PushRelay.Instant
import PushRelay.Node.Basic

/-!
# Subscriptions

A `Subscription` is a connection that is attached to the channel of its key.  `Node.subscribe` makes
one in four steps, between which other things may happen on the node: the heartbeat is granted
(`Node.grant`), the key gets its channel, the ticket is checked (`Node.authenticate`), and the
connection is attached and its backlog replayed (`Node.attach`, `Node.replay`).  `Node.unsubscribe`
ends it.
-/

namespace PushRelay

/-- Why a subscriber is turned away. -/
inductive Refusal where
  /-- No key, or a heartbeat that is too long. -/
  | param
  /-- The ticket is missing, or not accepted for the given cause. -/
  | auth (cause : Option ChannelError)
  /-- The channel does not take the connection. -/
  | channel (cause : ChannelError)
  /-- The key belongs to another node. -/
  | wrongNode
  /-- The configured queue is deeper than queues can be. -/
  | queueDepth
  deriving DecidableEq, Repr

structure Subscription where
  key : String
  /-- Seconds. -/
  heartbeat : Nat
  conn : ConnId
  channel : ChannelId
  deriving DecidableEq, Repr

namespace Subscription

/-- The seconds of silence that end a session: two missed heartbeats, as far as a machine word goes. -/
def idle (s : Subscription) : Nat := min (s.heartbeat * 2) (Numeral.wordBound - 1)

end Subscription

namespace Node

/-- The heartbeat a subscriber gets, if the node serves the key. -/
def grant (n : Node) (key : String) (heartbeat : Nat) : Except Refusal Nat :=
  if key.isEmpty then .error .param
  else match n.config.heartbeat heartbeat with
    | none => .error .param
    | some heartbeat => if n.owns key then .ok heartbeat else .error .wrongNode

/-- The channel of a key. -/
def channelOf (n : Node) (key : String) : ChannelId × Node :=
  let (id, hub) := n.hub.getOrCreate key
  (id, { n with hub })

/-- Checks a ticket, if the node wants one. -/
def authenticate (n : Node) (id : ChannelId) (token : Option String) : Except Refusal Unit × Node :=
  if n.config.tokenAuth then
    match token with
    | none => (.error (.auth none), n)
    | some ticket =>
      let (r, hub) := n.hub.authToken id ticket
      (r.mapError fun e => .auth (some e), { n with hub })
  else (.ok (), n)

/-- Attaches a new connection that has seen ids up to `lastId`. -/
def attach (n : Node) (id : ChannelId) (key : String) (heartbeat : Nat) (lastId : Int) :
    Except Refusal Subscription × Node :=
  if Connection.maxDepth < n.config.connectionQueueDepth then (.error .queueDepth, n)
  else
    let (c, host) := n.hub.host.connect n.config.connectionQueueDepth
    match { n.hub with host }.attach id key c lastId with
    | (.error e, hub) => (.error (.channel e), { n with hub })
    | (.ok (), hub) =>
      (.ok ⟨key, heartbeat, c, id⟩,
        { n with hub }.onHost fun h => h.count fun m => { m with connections := m.connections + 1 })

/-- Ends a subscription: its connection is let go and closed. -/
def unsubscribe (n : Node) (s : Subscription) : Node :=
  let n := { n with hub := n.hub.detach s.channel s.conn }
  n.onHost fun h => ((h.closeConn s.conn).updateConn s.conn Connection.dropReader).count fun m =>
    { m with connections := m.connections - 1 }

/-- The instant so many seconds from now. -/
def secondsAhead? (n : Node) (secs : Nat) : Option Int :=
  Instant.after? n.hub.host.now (secs * secondNanos)

theorem secondsAhead?_eq_some (n : Node) {secs : Nat}
    (fits : n.hub.host.now + secs * secondNanos < Instant.bound) :
    n.secondsAhead? secs = some (n.hub.host.now + secs * secondNanos) :=
  Instant.after?_eq_some (by rwa [Int.natCast_mul])

/-- Replays the backlog.  A subscription that cannot take it is ended. -/
def replay (n : Node) (s : Subscription) (lastId : Int) : Except Refusal Unit × Node :=
  match n.hub.replay s.channel s.conn lastId with
  | (.ok _, hub) => (.ok (), { n with hub })
  | (.error e, hub) => (.error (.channel e), { n with hub }.unsubscribe s)

/-- Checks a subscriber's request and attaches a connection with its backlog. -/
def subscribe (n : Node) (key : String) (heartbeat : Nat) (token : Option String) (lastId : Int) :
    Except Refusal Subscription × Node :=
  match n.grant key heartbeat with
  | .error e => (.error e, n)
  | .ok heartbeat =>
    let (id, n) := n.channelOf key
    match n.authenticate id token with
    | (.error e, n) => (.error e, n)
    | (.ok (), n) =>
      match n.attach id key heartbeat lastId with
      | (.error e, n) => (.error e, n)
      | (.ok s, n) =>
        match n.replay s lastId with
        | (.error e, n) => (.error e, n)
        | (.ok (), n) => (.ok s, n)

end Node

end PushRelay
