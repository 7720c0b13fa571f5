import PushRelay.Node.Subscription
import PushRelay.Proofs.Hub.Changes

/-!
# What a subscriber does to a node

Whether a step of a subscriber succeeds or fails, it takes the hub of the node through a few hub events and
touches nothing else.  Which ones they are is said once for each step.

    Asked n id (n.authenticate id token)                                             (authenticate_asked)
    Joining n id key heartbeat lastId (n.attach id key heartbeat lastId)                 (attach_joining)
    Resumed n s lastId (n.replay s lastId)                                               (replay_resumed)
    n.unsubscribe s = n.through (parting s)                                         (unsubscribe_through)
-/

namespace PushRelay.Node

/-- The node once its hub has gone through events. -/
def through (n : Node) (es : List HubEvent) : Node := { n with hub := n.hub.run es }

/-! ## Tickets -/

/-- The ticket is shown to the channel, if there is one to show and the node wants it. -/
inductive Asked (n : Node) (id : ChannelId) : Except Refusal Unit × Node → Prop
  | unasked (r : Except Refusal Unit) : Asked n id (r, n.through [])
  | asked (r : Except Refusal Unit) (ticket : String) :
      Asked n id (r, n.through [.call id (.authToken ticket)])

theorem authenticate_asked (n : Node) (id : ChannelId) (token : Option String) :
    Asked n id (n.authenticate id token) := by
  unfold authenticate
  split
  · cases token with
    | none => exact .unasked (.error (.auth none))
    | some ticket => exact .asked _ ticket
  · exact .unasked (.ok ())

/-! ## Connections -/

/-- A new connection is to be attached. -/
def joining (n : Node) (id : ChannelId) (key : String) (lastId : Int) : List HubEvent :=
  [.host (.connect n.config.connectionQueueDepth), .call id (.attach key n.hub.host.nextConn lastId)]

/-- A connection is counted. -/
def counted : HubEvent := .host (.count fun m => { m with connections := m.connections + 1 })

/-- A connection is let go, closed and counted out. -/
def parting (s : Subscription) : List HubEvent :=
  [.call s.channel (.detach s.conn), .host (.dismiss s.conn), .host (.hangUp s.conn),
    .host (.count fun m => { m with connections := m.connections - 1 })]

/-- What the channel says to a connection that has just been made. -/
def verdict (n : Node) (id : ChannelId) (key : String) (lastId : Int) : Except ChannelError Unit :=
  ((n.hub.step (.host (.connect n.config.connectionQueueDepth))).attach id key n.hub.host.nextConn
    lastId).1

/-- There is no connection, or one that is refused, or one that is attached and counted. -/
inductive Joining (n : Node) (id : ChannelId) (key : String) (heartbeat : Nat) (lastId : Int) :
    Except Refusal Subscription × Node → Prop
  | tooDeep (hd : Connection.maxDepth < n.config.connectionQueueDepth) :
      Joining n id key heartbeat lastId (.error .queueDepth, n.through [])
  | refused {e : ChannelError} (he : n.verdict id key lastId = .error e)
      (hd : n.config.connectionQueueDepth ≤ Connection.maxDepth) :
      Joining n id key heartbeat lastId (.error (.channel e), n.through (n.joining id key lastId))
  | joined (hok : n.verdict id key lastId = .ok ())
      (hd : n.config.connectionQueueDepth ≤ Connection.maxDepth) :
      Joining n id key heartbeat lastId (.ok ⟨key, heartbeat, n.hub.host.nextConn, id⟩,
        n.through (n.joining id key lastId ++ [counted]))

theorem attach_joining (n : Node) (id : ChannelId) (key : String) (heartbeat : Nat) (lastId : Int) :
    Joining n id key heartbeat lastId (n.attach id key heartbeat lastId) := by
  unfold attach
  split
  · next hd => exact .tooDeep hd
  · next hd =>
    simp only
    split
    · next hub he =>
      have hhub : hub = n.hub.run (n.joining id key lastId) := (congrArg Prod.snd he).symm
      rw [hhub]
      exact .refused (congrArg Prod.fst he) (Nat.not_lt.1 hd)
    · next hub hok =>
      have hhub : hub = n.hub.run (n.joining id key lastId) := (congrArg Prod.snd hok).symm
      rw [hhub]
      exact .joined (congrArg Prod.fst hok) (Nat.not_lt.1 hd)

theorem unsubscribe_through (n : Node) (s : Subscription) :
    n.unsubscribe s = n.through (parting s) := rfl

/-- The backlog is replayed, and the subscription ends if that fails. -/
inductive Resumed (n : Node) (s : Subscription) (lastId : Int) : Except Refusal Unit × Node → Prop
  | resumed : Resumed n s lastId (.ok (), n.through [.call s.channel (.replay s.conn lastId)])
  | ended (e : ChannelError) : Resumed n s lastId
      (.error (.channel e), (n.through [.call s.channel (.replay s.conn lastId)]).unsubscribe s)

theorem replay_resumed (n : Node) (s : Subscription) (lastId : Int) :
    Resumed n s lastId (n.replay s lastId) := by
  have hhub {hub : Hub} {r : Except ChannelError Nat}
      (hr : n.hub.replay s.channel s.conn lastId = (r, hub)) :
      hub = n.hub.run [.call s.channel (.replay s.conn lastId)] := (congrArg Prod.snd hr).symm
  unfold replay
  split
  · next hr =>
    rw [hhub hr]
    exact .resumed
  · next e hub hr =>
    rw [hhub hr]
    exact .ended e

end PushRelay.Node
