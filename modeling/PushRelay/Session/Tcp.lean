import PushRelay.Node.Subscription
import PushRelay.Wire.Command

/-!
# Sessions over TCP

A `TcpSession` starts by waiting for a subscribe request.  Once it is subscribed, every further octet
from the client is a heartbeat, which is acknowledged; anything else is refused.  Pushes are written
as they come.  A session ends when it refuses something, when the client or the channel closes the
connection, or when nothing has been heard for too long.  It cannot go on without a deadline either:
if the time that it allows leads past the last instant, it ends and writes nothing.

`TcpSession.step` takes one event: octets that have arrived, the end of them, the look at the
connection's queue, or the look at the clock.  It says what is written to the client and whether the
session shuts its side of the connection down.
-/

namespace PushRelay

inductive TcpSession where
  /-- Waiting for the rest of a request. -/
  | handshake (buf : Bytes) (deadline : Int)
  | live (sub : Subscription) (deadline : Int)
  | ended
  deriving DecidableEq, Repr

inductive TcpEvent where
  | received (octets : Bytes)
  /-- The client has shut its side down. -/
  | finished
  /-- The next payload is looked for. -/
  | pump
  /-- The deadline is looked at. -/
  | timer
  deriving DecidableEq, Repr

/-- What a step of a session comes to. -/
structure TcpStep where
  written : Bytes
  session : TcpSession
  node : Node

namespace TcpSession

/-- A session that has been accepted: it has one default heartbeat for its request. -/
def accept (n : Node) : TcpSession × Node :=
  (match n.secondsAhead? n.config.defaultHeartbeatSecs with
    | some deadline => .handshake [] deadline
    | none => .ended,
    n.onHost fun h => h.count fun m => { m with tcpAccepted := m.tcpAccepted + 1 })

/-- The reply to a subscriber who is turned away. -/
def refusalReply : Refusal → Bytes
  | .param => Wire.paramReply
  | .auth _ => Wire.authReply
  | .channel _ => Wire.channelReply
  | .wrongNode => Wire.nodeReply
  | .queueDepth => []

/-- Acknowledges heartbeats.  Any other octet ends the session. -/
def heartbeats (n : Node) (s : Subscription) (deadline : Int) (octets : Bytes) : TcpStep :=
  let beats := octets.takeWhile (· == Wire.heartbeat)
  let replies := beats.flatMap fun _ => Wire.heartbeatReply
  if beats.length = octets.length then ⟨replies, .live s deadline, n⟩
  else ⟨replies ++ Wire.paramReply, .ended, n.unsubscribe s⟩

/-- Ends a session that is subscribed. -/
def hangUp (n : Node) (s : Subscription) : TcpStep := ⟨[], .ended, n.unsubscribe s⟩

/-- Octets have come from a subscriber, who has so much time again for the next ones. -/
def heard (n : Node) (s : Subscription) (octets : Bytes) : TcpStep :=
  match n.secondsAhead? s.idle with
  | some deadline => heartbeats n s deadline octets
  | none => hangUp n s

/-- Subscribes as a request asks.  Octets behind the request are heartbeats already. -/
def start (n : Node) (request : Wire.Request) (rest : Bytes) : TcpStep :=
  match Wire.Subscribe.ofRequest request with
  | .error _ => ⟨Wire.paramReply, .ended, n⟩
  | .ok args =>
    match n.subscribe args.key args.heartbeat args.token 0 with
    | (.error refusal, n) => ⟨refusalReply refusal, .ended, n⟩
    | (.ok s, n) => heard n s rest

/-- Looks for a request in what has arrived. -/
def handshaking (n : Node) (buf : Bytes) (deadline : Int) : TcpStep :=
  match Wire.decodeRequest n.config.maxArgBytes buf with
  | .error _ => ⟨Wire.paramReply, .ended, n⟩
  | .ok none => ⟨[], .handshake buf deadline, n⟩
  | .ok (some (request, rest)) => start n request rest

def step (session : TcpSession) (n : Node) (e : TcpEvent) : TcpStep :=
  match session, e with
  | .handshake buf deadline, .received octets => handshaking n (buf ++ octets) deadline
  | .handshake .., .finished => ⟨[], .ended, n⟩
  | .handshake buf deadline, .timer =>
    if deadline ≤ n.hub.host.now then ⟨[], .ended, n⟩ else ⟨[], .handshake buf deadline, n⟩
  | .live s _, .received octets => heard n s octets
  | .live s _, .finished => hangUp n s
  | .live s deadline, .timer =>
    if deadline ≤ n.hub.host.now then hangUp n s else ⟨[], .live s deadline, n⟩
  | .live s deadline, .pump =>
    match n.hub.host.conns.get? s.conn with
    | none => hangUp n s
    | some conn =>
      match conn.next with
      | (.payload p, conn) =>
        ⟨Wire.encodePush p.print, .live s deadline, n.onHost fun h => h.updateConn s.conn fun _ => conn⟩
      | (.ended, _) => hangUp n s
      | (.pending, _) => ⟨[], .live s deadline, n⟩
  | session, _ => ⟨[], session, n⟩

/-- Takes events one after the other and joins what is written. -/
def run (session : TcpSession) (n : Node) : List TcpEvent → TcpStep
  | [] => ⟨[], session, n⟩
  | e :: es =>
    let first := session.step n e
    let rest := first.session.run first.node es
    { rest with written := first.written ++ rest.written }

end TcpSession

end PushRelay
