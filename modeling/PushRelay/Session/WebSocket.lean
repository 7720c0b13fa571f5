import PushRelay.Net.Form
import PushRelay.Node.Subscription
import PushRelay.Text.Numeral
import PushRelay.Wire.Command

/-!
# Sessions over WebSocket

A client subscribes by the query of its request, `key=K&heartbeat=H&token=T&mid=ID`, and then gets
every push as a text frame.  It keeps the session alive by frames that hold a single `h`, which are
answered in kind, and by pings and pongs; any other frame ends the session.  A session that has no
deadline, because the time that it allows leads past the last instant, ends and sends nothing.
-/

namespace PushRelay

/-- What a subscriber asks for. -/
structure SubscribeQuery where
  key : String
  heartbeat : Nat
  token : Option String
  /-- The greatest id the client has already. -/
  lastId : Int
  deriving DecidableEq, Repr

namespace SubscribeQuery

def ofPairs? (pairs : List (String × String)) : Option SubscribeQuery := do
  let key ← ← Form.only? "key" pairs
  let heartbeat ← match ← Form.only? "heartbeat" pairs with
    | none => some 0
    | some value => Numeral.natural? Numeral.wordBound (Utf8.ofString value)
  let token ← Form.only? "token" pairs
  let lastId ← match ← Form.only? "mid" pairs with
    | none => some 0
    | some value => Numeral.integer? Numeral.int64Min Numeral.int64Max (Utf8.ofString value)
  pure ⟨key, heartbeat, token, lastId⟩

def parse? (query : String) : Option SubscribeQuery := ofPairs? (Form.parse query)

end SubscribeQuery

inductive Frame where
  | text (s : Bytes)
  | binary (s : Bytes)
  | ping
  | pong
  | close
  deriving DecidableEq, Repr

/-- Whether a frame is a heartbeat. -/
def Frame.isHeartbeat : Frame → Bool
  | .text s | .binary s => s == [Wire.heartbeat]
  | _ => false

inductive WsSession where
  | live (sub : Subscription) (deadline : Int)
  | ended
  deriving DecidableEq, Repr

inductive WsEvent where
  | received (frame : Frame)
  /-- The client has gone. -/
  | finished
  /-- The next payload is looked for. -/
  | pump
  /-- The deadline is looked at. -/
  | timer
  deriving DecidableEq, Repr

/-- What a step of a session comes to. -/
structure WsStep where
  written : List Frame
  session : WsSession
  node : Node

namespace WsSession

/-- The status of a response that turns a subscriber away. -/
def refusalStatus : Refusal → Nat
  | .param => 400
  | .auth _ => 401
  | .channel _ => 503
  | .wrongNode => 421
  | .queueDepth => 500

/-- A frame has come from a subscriber, who has so much time again for the next one, and is answered. -/
def heard (n : Node) (s : Subscription) (answer : List Frame) : WsStep :=
  match n.secondsAhead? s.idle with
  | some deadline => ⟨answer, .live s deadline, n⟩
  | none => ⟨[], .ended, n.unsubscribe s⟩

/-- Opens a session, or gives the status of the refusal. -/
def accept (n : Node) (query : String) : Except Nat WsSession × Node :=
  match SubscribeQuery.parse? query with
  | none => (.error 400, n)
  | some q =>
    let n := n.onHost fun h => h.count fun m => { m with wsAccepted := m.wsAccepted + 1 }
    match n.subscribe q.key q.heartbeat q.token q.lastId with
    | (.error refusal, n) => (.error (refusalStatus refusal), n)
    | (.ok s, n) =>
      let started := heard n s []
      (.ok started.session, started.node)

/-- Ends a session with a close frame. -/
def hangUp (n : Node) (s : Subscription) : WsStep := ⟨[.close], .ended, n.unsubscribe s⟩

def step (session : WsSession) (n : Node) (e : WsEvent) : WsStep :=
  match session, e with
  | .ended, _ => ⟨[], .ended, n⟩
  | .live s _, .received frame =>
    if frame.isHeartbeat then heard n s [.text [Wire.heartbeat]]
    else match frame with
      | .ping | .pong => heard n s []
      | _ => hangUp n s
  | .live s _, .finished => hangUp n s
  | .live s deadline, .timer =>
    if deadline ≤ n.hub.host.now then hangUp n s else ⟨[], .live s deadline, n⟩
  | .live s deadline, .pump =>
    match n.hub.host.conns.get? s.conn with
    | none => hangUp n s
    | some conn =>
      match conn.next with
      | (.payload p, conn) =>
        ⟨[.text p.print], .live s deadline, n.onHost fun h => h.updateConn s.conn fun _ => conn⟩
      | (.ended, _) => hangUp n s
      | (.pending, _) => ⟨[], .live s deadline, n⟩

end WsSession

end PushRelay
