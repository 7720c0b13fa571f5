import PushRelay.Config.Basic
import PushRelay.Hub

/-!
# Nodes

A `Node` is a configuration at work: a hub of channels, and the ring that says which keys are the
node's own.  `Node.migrate` closes the channels of keys that another list of nodes gives away, and
then goes by the ring of that list.

A node is made only if there can be lists of its buckets and of the points of its ring (`Config.fits`).  How
much memory the machine has for them is not looked at.
-/

namespace PushRelay

/-- Why a configuration makes no node. -/
inductive NodeError where
  | store (cause : RemoteError)
  | ids (cause : IdError)
  | registry (cause : SettingsError)
  /-- More buckets or points than there can be a list of.  The process stops. -/
  | capacity
  deriving DecidableEq, Repr

def NodeError.message : NodeError → String
  | .store cause => "build message store client: " ++ cause.message
  | .ids cause => "build id generator: " ++ cause.message
  | .registry cause => "build channel registry: " ++ cause.message
  | .capacity => "capacity overflow"

/-- Whether there can be lists of the buckets and of the points of the ring. -/
def Config.fits (c : Config) : Bool :=
  decide (c.channelBuckets ≤ Registry.maxBuckets) && Ring.fits c.nodes c.vnodes

structure Node where
  config : Config
  hub : Hub
  ring : Ring

namespace Node

/-! ## Making nodes -/

/-- A node with a store, or without one, which only channels that retain their messages can do.  The
hash is the one of the ring. -/
def withStore (hash : String → UInt32) (config : Config) (store : Option Store) (now : Int) :
    Except NodeError Node :=
  match IdSource.snowflake? config.workerId .wall with
  | .error e => .error (.ids e)
  | .ok ids =>
    let host := Host.new now ids (store.getD (.ofMemory .new))
    match Hub.new Registry.spread config.channelBuckets config.channelSettings store.isSome host with
    | .error e => .error (.registry e)
    | .ok hub =>
      if config.fits then .ok ⟨config, hub, .ofNodes hash config.nodes config.vnodes⟩
      else .error .capacity

section WithStore

variable {hash : String → UInt32} {config : Config} {store : Option Store} {now : Int} {n : Node}

theorem withStore_of_fits {ids : IdSource} {hub : Hub}
    (hids : IdSource.snowflake? config.workerId .wall = .ok ids)
    (hhub : Hub.new Registry.spread config.channelBuckets config.channelSettings store.isSome
      (.new now ids (store.getD (.ofMemory .new))) = .ok hub) (hfits : config.fits = true) :
    withStore hash config store now = .ok ⟨config, hub, .ofNodes hash config.nodes config.vnodes⟩ := by
  simp only [withStore, hids, hhub, hfits, if_true]

theorem withStore_ok (made : withStore hash config store now = .ok n) :
    ∃ ids hub, IdSource.snowflake? config.workerId .wall = .ok ids ∧
      Hub.new Registry.spread config.channelBuckets config.channelSettings store.isSome
        (.new now ids (store.getD (.ofMemory .new))) = .ok hub ∧ config.fits = true ∧
      n = ⟨config, hub, .ofNodes hash config.nodes config.vnodes⟩ := by
  unfold withStore at made
  split at made
  · cases made
  · next ids hids =>
    simp only at made
    split at made
    · cases made
    · next hub hhub =>
      split at made
      · next hfits => exact ⟨ids, hub, hids, hhub, hfits, (Except.ok.inj made).symm⟩
      · cases made

end WithStore

/-- A node whose channels, if they persist their messages, do so in the service the configuration
names. -/
def ofConfig (hash : String → UInt32) (config : Config) (peer : Http.Peer) (now : Int) :
    Except NodeError Node :=
  match config.channelKind, config.messageStoreUrl with
  | .outer, some url =>
    match RemoteStore.new url with
    | .error e => .error (.store e)
    | .ok remote => withStore hash config (some (.ofRemote remote peer)) now
  | _, _ => withStore hash config none now

/-! ## Keys -/

/-- Whether a key is the node's own. -/
def owns (n : Node) (key : String) : Bool := n.ring.owns n.config.nodeId key

/-- Goes by the ring of another list of nodes.  Returns the keys whose channels were closed. -/
def migrate (n : Node) (nodes : List String) (vnodes : Nat) :
    Except ChannelError (List String) × Node :=
  match n.hub.migrate n.ring.hash n.config.nodeId nodes vnodes with
  | (.error e, hub) => (.error e, { n with hub })
  | (.ok m, hub) => (.ok m.closed, { n with hub, ring := m.ring })

/-! ## Messages -/

/-- An id for a message that comes without one. -/
def drawId (n : Node) : Except IdError Int × Node :=
  let (id, host) := n.hub.host.drawId
  (id, { n with hub := { n.hub with host } })

/-- The channel a message for a key goes to.  A channel behind its deadline makes way for a new
one. -/
def channelForPush (n : Node) (key : String) : ChannelId × Node :=
  match n.hub.lookup key with
  | (.ok id, hub) => (id, { n with hub })
  | (.error _, hub) =>
    let (id, hub) := hub.getOrCreate key
    (id, { n with hub })

def push (n : Node) (id : ChannelId) (key : String) (m : Message) :
    Except ChannelError Int × Node :=
  let (r, hub) := n.hub.push id key m
  (r, { n with hub })

/-- Changes the host. -/
def onHost (n : Node) (f : Host → Host) : Node :=
  { n with hub := { n.hub with host := f n.hub.host } }

end Node

end PushRelay
