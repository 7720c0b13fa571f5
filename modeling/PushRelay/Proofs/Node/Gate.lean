import PushRelay.Proofs.Node.Migration
import PushRelay.Proofs.Node.Subscriber

/-!
# Subscribers and migrations step by step

A subscriber's key is checked against the ring, and a step later it gets its channel.  A migration goes
through the buckets of the registry one at a time and takes the channels that its ring gives away from
their keys, then it closes these channels one at a time, and then it installs the ring.  A `Gate` is a node
with subscribers on it, each at its own `Entry`, and with at most one migration under way; their steps come
in between each other in any order.

    the steps of a subscriber in a row are `Node.subscribe`                             (subscribe_steps)
    the steps of a migration in a row are `Node.migrate`                                  (migrate_steps)
-/

namespace PushRelay

structure SubscribeRequest where
  key : String
  heartbeat : Nat
  token : Option String
  lastId : Int

/-- How far a subscriber has come. -/
inductive Entry where
  | waiting
  /-- The key was the node's own. -/
  | granted (heartbeat : Nat)
  /-- The key has its channel. -/
  | entered (heartbeat : Nat) (id : ChannelId)
  /-- The ticket was accepted. -/
  | admitted (heartbeat : Nat) (id : ChannelId)
  | attached (s : Subscription)
  | answered (r : Except Refusal Subscription)
  | left

namespace Entry

/-- The subscription of a connection that was attached. -/
def subscription? : Entry → Option Subscription
  | .attached s => some s
  | .answered (.ok s) => some s
  | _ => none

/-- The channel a subscriber has been led to. -/
def channel? : Entry → Option ChannelId
  | .entered _ id => some id
  | .admitted _ id => some id
  | entry => entry.subscription?.map (·.channel)

end Entry

structure Caller extends SubscribeRequest where
  entry : Entry
  /-- How many rings had been installed when the key was checked. -/
  checkedBy : Nat
  /-- How many migrations had been through the key's bucket when the key got its channel. -/
  enteredAfter : Nat

/-- A migration under way. -/
structure Migration where
  ring : Ring
  /-- How many buckets it has been through. -/
  scanned : Nat
  /-- The keys that have lost their channels to it. -/
  moved : List String
  /-- The channels of these keys that it has yet to close. -/
  pending : List ChannelId

structure Gate where
  node : Node
  /-- The subscribers by their numbers. -/
  callers : Nat → Caller
  migration : Option Migration
  /-- How many rings have been installed. -/
  installed : Nat

/-- What happens while subscribers come in. -/
inductive GateEvent where
  | check (i : Nat)
  | enter (i : Nat)
  | authenticate (i : Nat)
  | attach (i : Nat)
  | replay (i : Nat)
  | leave (i : Nat)
  /-- A migration begins and makes its ring.  There is one migration at a time. -/
  | prepare (nodes : List String) (vnodes : Nat)
  /-- The migration under way does what comes next: it goes through another bucket, or else closes another
  channel, or else installs its ring. -/
  | proceed
  /-- Anything else that happens to the channels. -/
  | hub (e : HubEvent)

namespace Gate

/-- A node on which none of the subscribers has begun. -/
def start (node : Node) (requests : Nat → SubscribeRequest) : Gate :=
  ⟨node, fun i => ⟨requests i, .waiting, 0, 0⟩, none, 0⟩

def setCaller (g : Gate) (i : Nat) (c : Caller) : Gate :=
  { g with callers := fun j => if j = i then c else g.callers j }

/-- The migration under way has left the hub like this, and has come to `m`. -/
def advance (g : Gate) (hub : Hub) (m : Migration) : Gate :=
  { g with node := { g.node with hub }, migration := some m }

/-- How many migrations have been through the bucket of a key. -/
def scans (g : Gate) (key : String) : Nat :=
  match g.migration with
  | none => g.installed
  | some m =>
    if g.node.hub.registry.bucketOf key < m.scanned then g.installed + 1 else g.installed

/-! ## Subscribers -/

/-- A step of a subscriber has left the node like this, and the subscriber there. -/
def move (g : Gate) (i : Nat) (node : Node) (entry : Entry) : Gate :=
  { g with node }.setCaller i { g.callers i with entry }

def check (g : Gate) (i : Nat) : Gate :=
  let c := g.callers i
  match c.entry with
  | .waiting =>
    match g.node.grant c.key c.heartbeat with
    | .ok heartbeat => g.setCaller i { c with entry := .granted heartbeat, checkedBy := g.installed }
    | .error e => g.move i g.node (.answered (.error e))
  | _ => g

def enter (g : Gate) (i : Nat) : Gate :=
  let c := g.callers i
  match c.entry with
  | .granted heartbeat =>
    let (id, node) := g.node.channelOf c.key
    { g with node }.setCaller i
      { c with entry := .entered heartbeat id, enteredAfter := g.scans c.key }
  | _ => g

def authenticate (g : Gate) (i : Nat) : Gate :=
  let c := g.callers i
  match c.entry with
  | .entered heartbeat id =>
    match g.node.authenticate id c.token with
    | (.ok (), node) => g.move i node (.admitted heartbeat id)
    | (.error e, node) => g.move i node (.answered (.error e))
  | _ => g

def attach (g : Gate) (i : Nat) : Gate :=
  let c := g.callers i
  match c.entry with
  | .admitted heartbeat id =>
    match g.node.attach id c.key heartbeat c.lastId with
    | (.ok s, node) => g.move i node (.attached s)
    | (.error e, node) => g.move i node (.answered (.error e))
  | _ => g

def replay (g : Gate) (i : Nat) : Gate :=
  let c := g.callers i
  match c.entry with
  | .attached s =>
    match g.node.replay s c.lastId with
    | (.ok (), node) => g.move i node (.answered (.ok s))
    | (.error e, node) => g.move i node (.answered (.error e))
  | _ => g

/-- A subscriber that got in ends its subscription. -/
def leave (g : Gate) (i : Nat) : Gate :=
  match (g.callers i).entry with
  | .answered (.ok s) => g.move i (g.node.unsubscribe s) .left
  | _ => g

/-! ## Migrations -/

/-- A migration to a list without the node is refused. -/
def prepare (g : Gate) (nodes : List String) (vnodes : Nat) : Gate :=
  match g.migration with
  | some _ => g
  | none =>
    if nodes.contains g.node.config.nodeId then
      { g with migration := some ⟨Ring.ofNodes g.node.ring.hash nodes vnodes, 0, [], []⟩ }
    else g

/-- The keys in a bucket that the ring gives away, with their channels. -/
def given (g : Gate) (m : Migration) (bucket : Table String ChannelId) : List (String × ChannelId) :=
  bucket.entries.filter fun e => !m.ring.owns g.node.config.nodeId e.1

/-- The registry without the keys in the next bucket that the ring gives away. -/
def pruned (g : Gate) (m : Migration) : Registry :=
  g.node.hub.registry.filterBucket m.scanned (m.ring.owns g.node.config.nodeId)

/-- The next bucket is scanned. -/
def scan (g : Gate) (m : Migration) (bucket : Table String ChannelId) : Gate :=
  g.advance { g.node.hub with registry := g.pruned m }
    { m with
      scanned := m.scanned + 1
      moved := m.moved ++ (g.given m bucket).map Prod.fst
      pending := m.pending ++ (g.given m bucket).map Prod.snd }

/-- The first of the channels that have lost their keys is closed. -/
def closeNext (g : Gate) (m : Migration) (id : ChannelId) (pending : List ChannelId) : Gate :=
  g.advance (g.node.hub.closeChannel id) { m with pending }

/-- The keys that have lost their channels are counted, and the ring is there. -/
def install (g : Gate) (m : Migration) : Gate :=
  let host := g.node.hub.host.count fun n =>
    { n with channelsMigrated := n.channelsMigrated + m.moved.length }
  { g with
    node := { g.node with hub := { g.node.hub with host }, ring := m.ring }
    migration := none
    installed := g.installed + 1 }

def proceed (g : Gate) : Gate :=
  match g.migration with
  | none => g
  | some m =>
    match g.node.hub.registry.buckets[m.scanned]? with
    | some bucket => g.scan m bucket
    | none =>
      match m.pending with
      | id :: pending => g.closeNext m id pending
      | [] => g.install m

/-! ## Events -/

def step (g : Gate) : GateEvent → Gate
  | .check i => g.check i
  | .enter i => g.enter i
  | .authenticate i => g.authenticate i
  | .attach i => g.attach i
  | .replay i => g.replay i
  | .leave i => g.leave i
  | .prepare nodes vnodes => g.prepare nodes vnodes
  | .proceed => g.proceed
  | .hub e => { g with node := { g.node with hub := g.node.hub.step e } }

def run (g : Gate) (es : List GateEvent) : Gate := es.foldl step g

variable {g : Gate} {m : Migration} {n : Node} {i : Nat}

theorem run_append (g : Gate) (es fs : List GateEvent) : g.run (es ++ fs) = (g.run es).run fs :=
  List.foldl_append

/-- A subscriber whose steps come next to each other is answered as a whole. -/
theorem subscribe_steps (hi : (g.callers i).entry = .waiting) :
    let c := g.callers i
    let g' := g.run [.check i, .enter i, .authenticate i, .attach i, .replay i]
    g'.node = (g.node.subscribe c.key c.heartbeat c.token c.lastId).2 ∧
      (g'.callers i).entry =
        .answered (g.node.subscribe c.key c.heartbeat c.token c.lastId).1 := by
  intro c g'
  show ((((((g.check i).enter i).authenticate i).attach i).replay i).node = _) ∧
    ((((((g.check i).enter i).authenticate i).attach i).replay i).callers i).entry = _
  unfold Node.subscribe
  cases hg : g.node.grant c.key c.heartbeat with
  | error e =>
    have hcheck : g.check i = g.move i g.node (.answered (.error e)) := by
      simp only [check, hi, hg, c]
    rw [hcheck]
    simp [enter, authenticate, attach, replay, move, setCaller]
  | ok heartbeat =>
    have hcheck : g.check i = g.setCaller i
        { c with entry := .granted heartbeat, checkedBy := g.installed } := by
      simp only [check, hi, hg, c]
    rw [hcheck]
    rcases hc : g.node.channelOf c.key with ⟨id, n₁⟩
    rcases ha : n₁.authenticate id c.token with ⟨_ | _, n₂⟩
    · simp [enter, authenticate, attach, replay, move, setCaller, hc, ha]
    · rcases hat : n₂.attach id c.key heartbeat c.lastId with ⟨_ | s, n₃⟩
      · simp [enter, authenticate, attach, replay, move, setCaller, hc, ha, hat]
      · rcases hr : n₃.replay s c.lastId with ⟨_ | _, n₄⟩
        · simp [enter, authenticate, attach, replay, move, setCaller, hc, ha, hat, hr]
        · simp [enter, authenticate, attach, replay, move, setCaller, hc, ha, hat, hr]

/-! ## Migrations as a whole -/

/-- What the migration under way does next, if there is one. -/
inductive Due (g : Gate) : Gate → Prop
  | nothing (hm : g.migration = none) : Due g g
  | scan {m : Migration} {bucket : Table String ChannelId} (hm : g.migration = some m)
      (hb : g.node.hub.registry.buckets[m.scanned]? = some bucket) : Due g (g.scan m bucket)
  | closeNext {m : Migration} {id : ChannelId} {pending : List ChannelId} (hm : g.migration = some m)
      (hp : m.pending = id :: pending) : Due g (g.closeNext m id pending)
  | install {m : Migration} (hm : g.migration = some m)
      (hb : g.node.hub.registry.buckets[m.scanned]? = none) (hp : m.pending = []) : Due g (g.install m)

theorem proceed_due (g : Gate) : Due g g.proceed := by
  unfold proceed
  split
  · next hm => exact .nothing hm
  · next m hm =>
    split
    · next bucket hb => exact .scan hm hb
    · next hb =>
      split
      · next id pending hp => exact .closeNext hm hp
      · next hp => exact .install hm hb hp

theorem proceed_scan {bucket : Table String ChannelId} (hm : g.migration = some m)
    (hb : g.node.hub.registry.buckets[m.scanned]? = some bucket) : g.proceed = g.scan m bucket := by
  simp only [proceed, hm, hb]

theorem proceed_closeNext {id : ChannelId} {pending : List ChannelId} (hm : g.migration = some m)
    (hb : g.node.hub.registry.buckets[m.scanned]? = none) (hp : m.pending = id :: pending) :
    g.proceed = g.closeNext m id pending := by
  simp only [proceed, hm, hb, hp]

theorem proceed_install (hm : g.migration = some m)
    (hb : g.node.hub.registry.buckets[m.scanned]? = none) (hp : m.pending = []) :
    g.proceed = g.install m := by
  simp only [proceed, hm, hb, hp]

theorem run_proceed_idle (hm : g.migration = none) (k : Nat) :
    g.run (List.replicate k .proceed) = g := by
  have hidle : g.proceed = g := by simp only [proceed, hm]
  induction k with
  | zero => rfl
  | succ k ih =>
    show g.proceed.run (List.replicate k .proceed) = g
    rw [hidle, ih]

theorem advance_self (hm : g.migration = some m) : g.advance g.node.hub m = g := by
  obtain ⟨node, callers, migration, installed⟩ := g
  cases hm
  rfl

/-- The buckets that are left are scanned one after the other. -/
theorem run_scan (done todo : List (Table String ChannelId)) (hm : g.migration = some m)
    (hb : g.node.hub.registry.buckets = done ++ todo) (hs : m.scanned = done.length) :
    let owns := m.ring.owns g.node.config.nodeId
    let given := (todo.flatMap (·.entries)).filter fun e => !owns e.1
    g.run (List.replicate todo.length .proceed) =
      g.advance { g.node.hub with registry := { g.node.hub.registry with
          buckets := done ++ todo.map fun bucket => bucket.filter fun key _ => owns key } }
        { m with
          scanned := done.length + todo.length
          moved := m.moved ++ given.map Prod.fst
          pending := m.pending ++ given.map Prod.snd } := by
  intro owns given
  induction todo generalizing g m done with
  | nil =>
    have hhub : { g.node.hub with registry := { g.node.hub.registry with buckets := done ++ [] } } =
        g.node.hub := by rw [← hb]
    have hmig : { m with scanned := done.length, moved := m.moved ++ [], pending := m.pending ++ [] } =
        m := by rw [← hs, List.append_nil, List.append_nil]
    exact (advance_self hm).symm.trans (congr (congrArg g.advance hhub.symm) hmig.symm)
  | cons bucket todo ih =>
    have hnext : g.node.hub.registry.buckets[m.scanned]? = some bucket := by
      rw [hb, hs]
      simp
    have hscan : (g.scan m bucket).node.hub.registry.buckets =
        (done ++ [bucket.filter fun key _ => owns key]) ++ todo := by
      show g.node.hub.registry.buckets.modify m.scanned _ = _
      rw [hb, hs, List.modify_eq_take_drop, List.take_left, List.drop_left, List.append_assoc]
      rfl
    rw [List.length_cons, List.replicate_succ]
    show g.proceed.run _ = _
    rw [proceed_scan hm hnext, ih _ rfl hscan (by simp [hs])]
    simp [scan, advance, pruned, Gate.given, Registry.filterBucket, owns, given, Nat.add_assoc,
      Nat.add_comm 1]

/-- The channels that have lost their keys are closed one after the other. -/
theorem run_closeNext {pending : List ChannelId} (hm : g.migration = some m)
    (hb : g.node.hub.registry.buckets[m.scanned]? = none) (hp : m.pending = pending) :
    g.run (List.replicate pending.length .proceed) =
      g.advance (g.node.hub.closeChannels pending) { m with pending := [] } := by
  induction pending generalizing g m with
  | nil =>
    have hmig : { m with pending := [] } = m := by rw [← hp]
    exact ((congrArg (g.advance g.node.hub) hmig).trans (advance_self hm)).symm
  | cons id pending ih =>
    rw [List.length_cons, List.replicate_succ]
    show g.proceed.run _ = _
    have hbuckets : (g.closeNext m id pending).node.hub.registry.buckets[m.scanned]? = none := by
      show (g.node.hub.closeChannel id).registry.buckets[m.scanned]? = none
      rw [(Hub.closeChannel_rest g.node.hub id).1, hb]
    rw [proceed_closeNext hm hb hp, ih (m := { m with pending }) rfl hbuckets rfl]
    rfl

/-- A migration goes through the buckets, then closes the channels, and then has its ring to install. -/
theorem run_proceed {ring : Ring} (hm : g.migration = some ⟨ring, 0, [], []⟩) :
    let hub := g.node.hub
    let moved := hub.moved ring g.node.config.nodeId
    let closed := { hub with registry := hub.registry.filter (ring.owns g.node.config.nodeId)
      }.closeChannels (moved.map Prod.snd)
    let m : Migration := ⟨ring, hub.registry.buckets.length, moved.map Prod.fst, []⟩
    g.run (List.replicate (hub.registry.buckets.length + moved.length) .proceed) = g.advance closed m ∧
      (g.advance closed m).proceed = (g.advance closed m).install m := by
  intro hub moved closed m
  let pruned := { hub with registry := hub.registry.filter (ring.owns g.node.config.nodeId) }
  let scanned := g.advance pruned { m with pending := moved.map Prod.snd }
  have hend : pruned.registry.buckets[m.scanned]? = none :=
    List.getElem?_eq_none_iff.2 (Nat.le_of_eq (List.length_map _))
  have hscan : g.run (List.replicate hub.registry.buckets.length .proceed) = scanned := by
    rw [run_scan [] hub.registry.buckets hm rfl rfl, List.length_nil, Nat.zero_add]
    rfl
  have hclose : scanned.run (List.replicate moved.length .proceed) = g.advance closed m := by
    rw [← List.length_map Prod.snd]
    exact run_closeNext (g := scanned) rfl hend rfl
  refine ⟨?_, proceed_install rfl ?_ rfl⟩
  · rw [← List.replicate_append_replicate, run_append, hscan, hclose]
  · show closed.registry.buckets[m.scanned]? = none
    rw [(Hub.closeChannels_rest pruned (moved.map Prod.snd)).1]
    exact hend

/-- A migration whose steps come next to each other happens as a whole, unless it is refused: it begins,
goes through the buckets, closes the channels and installs its ring. -/
theorem migrate_steps (hm : g.migration = none) (nodes : List String) (vnodes : Nat) :
    let ring := Ring.ofNodes g.node.ring.hash nodes vnodes
    let moved := g.node.hub.moved ring g.node.config.nodeId
    let g' := (g.prepare nodes vnodes).run
      (List.replicate (g.node.hub.registry.buckets.length + moved.length) .proceed)
    (g'.proceed.node = (g.node.migrate nodes vnodes).2 ∧ g'.proceed.migration = none ∧
        g'.proceed.callers = g.callers) ∧
      (g.node.config.nodeId ∈ nodes →
        ∃ m, g'.migration = some m ∧ (g.node.migrate nodes vnodes).1 = .ok m.moved) := by
  intro ring moved g'
  by_cases hs : g.node.config.nodeId ∈ nodes
  · let closed := { g.node.hub with
      registry := g.node.hub.registry.filter (ring.owns g.node.config.nodeId)
      }.closeChannels (moved.map Prod.snd)
    let m : Migration := ⟨ring, g.node.hub.registry.buckets.length, moved.map Prod.fst, []⟩
    have hprepare : g.prepare nodes vnodes = g.advance g.node.hub ⟨ring, 0, [], []⟩ := by
      simp only [prepare, hm, if_pos (List.contains_iff_mem.2 hs)]
      rfl
    obtain ⟨hrun, hlast⟩ := run_proceed (g := g.advance g.node.hub ⟨ring, 0, [], []⟩) rfl
    have hg' : g' = g.advance closed m := by
      show (g.prepare nodes vnodes).run _ = _
      rw [hprepare]
      exact hrun
    have hinstall : g'.proceed = (g.advance closed m).install m := hg' ▸ hlast
    rw [hinstall, hg', Node.migrate_ok hs vnodes]
    refine ⟨⟨?_, rfl, rfl⟩, fun _ => ⟨m, rfl, rfl⟩⟩
    unfold install Hub.migrate
    rw [if_pos (List.contains_iff_mem.2 hs), List.length_map]
    rfl
  · have hprepare : g.prepare nodes vnodes = g := by
      simp only [prepare, hm, if_neg fun hc => hs (List.contains_iff_mem.1 hc)]
    have hidle : g' = g := by
      show (g.prepare nodes vnodes).run _ = g
      rw [hprepare, run_proceed_idle hm]
    have hproceed : g.proceed = g := by simp only [proceed, hm]
    rw [hidle, hproceed, Node.migrate_refused hs]
    exact ⟨⟨rfl, hm, rfl⟩, fun hs' => absurd hs' hs⟩

end Gate

end PushRelay
