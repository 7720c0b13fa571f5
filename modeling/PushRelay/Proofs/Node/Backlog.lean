import PushRelay.Proofs.Hub.Attachments
import PushRelay.Proofs.Node.Reachable
import PushRelay.Proofs.Ring.Nearest
import PushRelay.Proofs.Store

/-!
# A backlog on a new connection

A channel that persists its messages writes what the store has for a subscriber to the new connection
before anybody can read from it.  So what is due has to fit into the queue, whose depth comes of two
settings that have nothing to do with how much the store has.

    due.length ≤ depth → the subscriber is admitted and everything that is due waits for it
    depth < due.length → the subscriber is turned away                        (admitted_iff_backlog_fits)

A subscriber who has more messages waiting than that cannot get at any of them (`backlog_locks_out`).
-/

namespace PushRelay

namespace Channel

variable {ch : Channel} {h : Host} {key : String} {c : ConnId} {lastId : Int} {ms : List Message}
  {conn : Connection Push}

/-- A new connection is attached with everything that is due, or, if that does not fit, not at all. -/
theorem attach_due (hr : ch.retention = .store) (ho : ch.closed = false) (hf : ch.isFull c = false)
    (hh : (h.history key lastId).1 = .ok ms) (hms : ms.Pairwise fun a b => a.id < b.id)
    (hc : h.conns.get? c = some conn) (hopen : conn.isClosed = false) (hempty : conn.waiting = []) :
    (ch.attach h key c lastId).result =
        (if (due h.now lastId ms).length ≤ conn.depth then .ok () else .error (.write .full)) ∧
      ((ch.attach h key c lastId).channel.attached.contains c =
        decide ((due h.now lastId ms).length ≤ conn.depth)) ∧
      (ch.attach h key c lastId).host.waiting c =
        ((due h.now lastId ms).take conn.depth).map Message.push := by
  have hroom : conn.waiting.length ≤ conn.depth := by
    rw [hempty]
    exact Nat.zero_le _
  obtain ⟨hconn, hfailure⟩ := writeBacklog_due h.now lastId hms hopen hroom
  rw [hempty, List.length_nil, Nat.sub_zero] at hconn hfailure
  rcases hhist : h.history key lastId with ⟨r, h'⟩
  have hconns : h'.conns = h.conns := congrArg (fun out => out.2.conns) hhist.symm
  have hnow : h'.now = h.now := congrArg (fun out => out.2.now) hhist.symm
  rw [hhist] at hh
  simp only at hh
  subst hh
  have hwaiting : (h'.updateConn c fun _ => (writeBacklog h.now ms conn lastId).conn).waiting c =
      ((due h.now lastId ms).take conn.depth).map Message.push := by
    rw [Host.waiting_updateConn, if_pos rfl, hconns, hc, Option.map_some, Option.getD_some, hconn]
    rfl
  by_cases hfit : (due h.now lastId ms).length ≤ conn.depth
  · rw [if_pos hfit] at hfailure
    simp only [attach, ho, hf, hr, hhist, hconns, hc, hnow, hfailure, Bool.false_eq_true, if_false,
      if_pos hfit, decide_eq_true hfit]
    refine ⟨trivial, ?_, hwaiting⟩
    rw [Table.contains, Table.get?_insert, if_pos rfl]
    rfl
  · rw [if_neg hfit] at hfailure
    simp only [attach, ho, hf, hr, hhist, hconns, hc, hnow, hfailure, Bool.false_eq_true, if_false,
      if_neg hfit, decide_eq_false hfit]
    refine ⟨trivial, ?_, hwaiting⟩
    rw [Table.contains, Table.get?_erase, if_pos rfl]
    rfl

end Channel

namespace Node

variable {n n' : Node} {key : String} {id : ChannelId} {lastId : Int} {ms : List Message}

/-- The channel of a key persists its messages and takes another connection. -/
structure Admitting (n : Node) (key : String) (id : ChannelId) : Prop where
  serving : n.hub.registry.find? key = some id
  channel : ∃ ch, n.hub.channels.get? id = some ch ∧ ch.retention = .store ∧ ch.closed = false ∧
    ch.attached.size < ch.maxConns

/-- A channel with room, on a node whose channels persist their messages. -/
theorem Reachable.admitting (hn : n.Reachable) (outer : n.config.channelKind = .outer)
    (serving : n.hub.registry.find? key = some id)
    (below : n.hub.connCount id < n.config.maxConnsPerKey) : Admitting n key id := by
  obtain ⟨ch, hch, ho⟩ := hn.hub.sound.serving key id serving
  have hg := hn.hub.regular.channels id ch hch
  have hbound := hg.bound?
  rw [hn.settings, ChannelSettings.bound?, show n.config.channelSettings.kind = .outer from outer]
    at hbound
  have hmax : ch.maxConns = n.config.maxConnsPerKey := by
    rw [hg.maxConns, hn.settings]
    rfl
  rw [Hub.connCount, hch, ← hmax] at below
  exact ⟨serving, ch, hch, Channel.bound?_eq_none_iff.1 hbound, ho, below⟩

/-- Finding the channel of a key lets nobody in; a new channel has nobody. -/
theorem connCount_channelOf (hpos : 0 < n.config.maxConnsPerKey)
    (below : ∀ id, n.hub.registry.find? key = some id →
      n.hub.connCount id < n.config.maxConnsPerKey) :
    (n.channelOf key).2.hub.connCount (n.channelOf key).1 < n.config.maxConnsPerKey := by
  unfold channelOf Hub.getOrCreate
  cases hk : n.hub.registry.find? key with
  | some id =>
    show (n.hub.call id (.setDeadline _)).connCount id < _
    rw [Hub.connCount_call fun _ _ => rfl]
    exact below id hk
  | none =>
    show Hub.connCount _ n.hub.nextChannel < _
    simp only [Hub.connCount, Hub.addChannel, Table.get?_insert, if_true]
    exact hpos

/-- A subscriber who has shown the ticket comes upon a channel that takes the connection. -/
theorem admitting_authenticate (hn : n.Reachable) (valid : n.config.validate = .ok ())
    (outer : n.config.channelKind = .outer)
    (below : ∀ id, n.hub.registry.find? key = some id →
      n.hub.connCount id < n.config.maxConnsPerKey) (token : Option String) :
    let asked := ((n.channelOf key).2.authenticate (n.channelOf key).1 token).2
    Admitting asked key (n.channelOf key).1 ∧ asked.config = n.config ∧
      asked.hub.host = n.hub.host := by
  intro asked
  have hpos : 0 < n.config.maxConnsPerKey :=
    Config.pos_of_validate valid (.maxConnsPerKey, n.config.maxConnsPerKey) List.mem_cons_self
  have hentered : (n.channelOf key).2.Reachable := hn.through [.getOrCreate key]
  have hserving := (hn.hub.sound.getOrCreate_isOpen key).1
  have hcount := connCount_channelOf hpos below
  have hhost : (n.channelOf key).2.hub.host = n.hub.host := Hub.getOrCreate_host n.hub key
  have ha : Asked (n.channelOf key).2 (n.channelOf key).1 (_, asked) :=
    authenticate_asked (n.channelOf key).2 (n.channelOf key).1 token
  generalize asked = n' at ha
  cases ha with
  | unasked r => exact ⟨hentered.admitting outer hserving hcount, rfl, hhost⟩
  | asked r ticket =>
    -- showing a ticket is noticed by the ticket registry only
    have hact : ∀ (ch : Channel) host, ((ChannelCall.authToken ticket).act ch host).1.attached =
        ch.attached ∧ ((ChannelCall.authToken ticket).act ch host).2 = host := by
      intro ch host
      obtain ⟨tokens, ht⟩ := ch.act_authToken host ticket
      rw [ht]
      exact ⟨rfl, rfl⟩
    have hcall : ((n.channelOf key).2.through [.call (n.channelOf key).1 (.authToken ticket)]).hub =
        (n.channelOf key).2.hub.call (n.channelOf key).1 (.authToken ticket) := rfl
    refine ⟨(hentered.through [.call _ (.authToken ticket)]).admitting outer ?_ ?_, rfl, ?_⟩
    · rw [hcall, (Hub.call_rest _ _ _).1]
      exact hserving
    · rw [hcall, Hub.connCount_call fun ch host => (hact ch host).1]
      exact hcount
    · rw [hcall, Hub.call_host, ← hhost]
      cases (n.channelOf key).2.hub.channels.get? (n.channelOf key).1 with
      | none => rfl
      | some ch => exact (hact ch _).2

/-- What the channel says to a new connection, and what waits on it then. -/
theorem Admitting.joined (ha : Admitting n key id) (hpos : 0 < n.config.connectionQueueDepth)
    (stored : (n.hub.host.store.get key lastId n.hub.host.now).1 = .ok ms)
    (ascending : ms.Pairwise fun a b => a.id < b.id) :
    let due := Channel.due n.hub.host.now lastId ms
    let fits := due.length ≤ n.config.connectionQueueDepth
    let c := n.hub.host.nextConn
    let h := n.hub.run (n.joining id key lastId)
    n.verdict id key lastId = (if fits then .ok () else .error (.write .full)) ∧
    h.registry.find? key = some id ∧ h.isAttached id c = decide fits ∧
    h.host.waiting c = (due.take n.config.connectionQueueDepth).map Message.push ∧
    ∃ ch, h.channels.get? id = some ch ∧ ch.retention = .store := by
  obtain ⟨serving, ch, hch, hr, ho, hlt⟩ := ha
  intro due fits c h
  let h₁ := n.hub.step (.host (.connect n.config.connectionQueueDepth))
  have hch₁ : h₁.channels.get? id = some ch := hch
  have hcall : h = h₁.call id (.attach key c lastId) := rfl
  have hconn : h₁.host.conns.get? c = some (.new n.config.connectionQueueDepth) :=
    (Table.get?_insert _ _ _ _).trans (if_pos rfl)
  have hstored : (h₁.host.history key lastId).1 = .ok ms := stored
  have hfull : ch.isFull c = false := by
    rw [Channel.isFull, decide_eq_false (Nat.not_le.2 hlt), Bool.and_false]
  have hdepth : (Connection.new n.config.connectionQueueDepth : Connection Push).depth =
      n.config.connectionQueueDepth := Nat.max_eq_left hpos
  obtain ⟨hresult, hattached, hwaiting⟩ :=
    Channel.attach_due hr ho hfull hstored ascending hconn rfl rfl
  rw [hdepth] at hresult hattached hwaiting
  refine ⟨?_, ?_, ?_, ?_, (ch.attach h₁.host key c lastId).channel, ?_, ?_⟩
  · refine Eq.trans ?_ hresult
    simp only [verdict, Hub.attach, Hub.onChannel]
    rw [show (n.hub.step (.host (.connect n.config.connectionQueueDepth))).channels.get? id = some ch
      from hch]
  · rw [hcall, (Hub.call_rest _ _ _).1]
    exact serving
  · rw [hcall, Hub.isAttached_call hch₁]
    exact hattached
  · rw [hcall, Hub.call_host, hch₁]
    exact hwaiting
  · rw [hcall, Hub.call_channels, if_pos rfl, hch₁]
    rfl
  · rw [Channel.attach_retention, hr]

/-- A channel that persists its messages has nothing to replay. -/
theorem replay_of_store {s : Subscription} {ch : Channel}
    (hch : n.hub.channels.get? s.channel = some ch) (hr : ch.retention = .store) (lastId : Int) :
    (n.replay s lastId).1 = .ok () ∧ (n.replay s lastId).2.hub.registry = n.hub.registry ∧
      (n.replay s lastId).2.hub.host = n.hub.host ∧
      ∀ id c, (n.replay s lastId).2.hub.isAttached id c = n.hub.isAttached id c := by
  have hreplay : n.hub.replay s.channel s.conn lastId =
      (.ok 0, n.hub.call s.channel (.replay s.conn lastId)) := by
    refine Prod.ext ?_ rfl
    simp only [Hub.replay, Hub.onChannel, hch, Channel.replay, hr]
  unfold replay
  rw [hreplay]
  refine ⟨rfl, (Hub.call_rest _ _ _).1, ?_, fun id c => Hub.isAttached_quiet rfl _ _ _ _⟩
  show (n.hub.call s.channel (.replay s.conn lastId)).host = n.hub.host
  rw [Hub.call_host, hch]
  simp only [Option.map_some, Option.getD_some, ChannelCall.act, Channel.replay, hr]

/-- What is left of a subscriber's request once the ticket has been found good. -/
def takeIn (n : Node) (id : ChannelId) (key : String) (heartbeat : Nat) (lastId : Int) :
    Except Refusal Subscription × Node :=
  match n.attach id key heartbeat lastId with
  | (.error e, n) => (.error e, n)
  | (.ok s, n) => match n.replay s lastId with
    | (.error e, n) => (.error e, n)
    | (.ok (), n) => (.ok s, n)

theorem subscribe_takeIn {heartbeat granted : Nat} {token : Option String}
    (hgrant : n.grant key heartbeat = .ok granted)
    (authed : ((n.channelOf key).2.authenticate (n.channelOf key).1 token).1 = .ok ()) (lastId : Int) :
    n.subscribe key heartbeat token lastId =
      ((n.channelOf key).2.authenticate (n.channelOf key).1 token).2.takeIn (n.channelOf key).1 key
        granted lastId := by
  rcases hasked : (n.channelOf key).2.authenticate (n.channelOf key).1 token with ⟨r, asked⟩
  rw [hasked] at authed
  cases authed
  simp only [subscribe, hgrant, hasked]
  rfl

section TakeIn

variable {heartbeat : Nat}

/-- There is no queue that deep. -/
theorem takeIn_tooDeep (hd : Connection.maxDepth < n.config.connectionQueueDepth) (id : ChannelId)
    (key : String) (heartbeat : Nat) (lastId : Int) :
    (n.takeIn id key heartbeat lastId).1 = .error .queueDepth := by
  unfold takeIn attach
  rw [if_pos hd]

variable (ha : Admitting n key id) (hpos : 0 < n.config.connectionQueueDepth)
  (deep : n.config.connectionQueueDepth ≤ Connection.maxDepth)
  (stored : (n.hub.host.store.get key lastId n.hub.host.now).1 = .ok ms)
  (ascending : ms.Pairwise fun a b => a.id < b.id)
include ha hpos deep stored ascending

/-- A backlog that does not fit is not taken in. -/
theorem Admitting.takeIn_over
    (hover : n.config.connectionQueueDepth < (Channel.due n.hub.host.now lastId ms).length) :
    let out := n.takeIn id key heartbeat lastId
    out.1 = .error (.channel (.write .full)) ∧ out.2.hub.registry.find? key = some id ∧
      out.2.hub.isAttached id n.hub.host.nextConn = false := by
  obtain ⟨hverdict, hserving, hattached, -⟩ := ha.joined hpos stored ascending
  rw [if_neg (Nat.not_le.2 hover)] at hverdict
  rw [decide_eq_false (Nat.not_le.2 hover)] at hattached
  have hj := attach_joining n id key heartbeat lastId
  unfold takeIn
  generalize n.attach id key heartbeat lastId = o at hj
  cases hj with
  | tooDeep hd => exact absurd deep (Nat.not_le.2 hd)
  | refused he =>
    cases he.symm.trans hverdict
    exact ⟨rfl, hserving, hattached⟩
  | joined hok => cases hok.symm.trans hverdict

/-- One that fits waits on the connection that is attached. -/
theorem Admitting.takeIn_fits
    (hfit : (Channel.due n.hub.host.now lastId ms).length ≤ n.config.connectionQueueDepth) :
    let s : Subscription := ⟨key, heartbeat, n.hub.host.nextConn, id⟩
    let out := n.takeIn id key heartbeat lastId
    out.1 = .ok s ∧ out.2.hub.registry.find? key = some id ∧
      out.2.hub.isAttached id s.conn = true ∧
      out.2.hub.host.waiting s.conn = (Channel.due n.hub.host.now lastId ms).map Message.push := by
  intro s
  obtain ⟨hverdict, hserving, hattached, hwaiting, ch, hch, hr⟩ := ha.joined hpos stored ascending
  rw [if_pos hfit] at hverdict
  rw [decide_eq_true hfit] at hattached
  rw [List.take_of_length_le hfit] at hwaiting
  have hj := attach_joining n id key heartbeat lastId
  unfold takeIn
  generalize n.attach id key heartbeat lastId = o at hj
  cases hj with
  | tooDeep hd => exact absurd deep (Nat.not_le.2 hd)
  | refused he => cases he.symm.trans hverdict
  | joined hok =>
    obtain ⟨hres, hregistry, hhost, hatt⟩ := replay_of_store
      (n := n.through (n.joining id key lastId ++ [counted])) (s := s) hch hr lastId
    dsimp only
    rcases hreplay : (n.through (n.joining id key lastId ++ [counted])).replay s lastId with ⟨r, n'⟩
    rw [hreplay] at hres hregistry hhost hatt
    cases hres
    refine ⟨rfl, ?_, ?_, ?_⟩
    · rw [hregistry]
      exact hserving
    · rw [hatt]
      exact hattached
    · rw [hhost]
      exact hwaiting

end TakeIn

/-- On a node whose channels persist their messages, let a subscriber come with a key that is the node's
own and with a ticket that is good, let the channel have room for one connection more, and let the store
answer in ascending order.  If there can be a queue of the configured depth at all, the subscriber is
admitted exactly if what is due fits into it.  Then all of it waits there, in order.  Otherwise the
subscriber is turned away and is not attached. -/
theorem admitted_iff_backlog_fits (hn : n.Reachable) (valid : n.config.validate = .ok ())
    (outer : n.config.channelKind = .outer) {heartbeat granted : Nat} {token : Option String}
    (named : key.isEmpty = false) (owned : n.owns key = true)
    (beats : n.config.heartbeat heartbeat = some granted)
    (authed : ((n.channelOf key).2.authenticate (n.channelOf key).1 token).1 = .ok ())
    (below : ∀ id, n.hub.registry.find? key = some id →
      n.hub.connCount id < n.config.maxConnsPerKey)
    (stored : (n.hub.host.store.get key lastId n.hub.host.now).1 = .ok ms)
    (ascending : ms.Pairwise fun a b => a.id < b.id) :
    let depth := n.config.connectionQueueDepth
    let due := Channel.due n.hub.host.now lastId ms
    let out := n.subscribe key heartbeat token lastId
    (Connection.maxDepth < depth → out.1 = .error .queueDepth) ∧
    (depth ≤ Connection.maxDepth → depth < due.length →
      out.1 = .error (.channel (.write .full)) ∧
      ∀ id, out.2.hub.registry.find? key = some id →
        out.2.hub.isAttached id n.hub.host.nextConn = false) ∧
    (depth ≤ Connection.maxDepth → due.length ≤ depth → ∃ s, out.1 = .ok s ∧
      (s.key = key ∧ s.heartbeat = granted ∧ s.conn = n.hub.host.nextConn) ∧
      out.2.hub.registry.find? key = some s.channel ∧
      out.2.hub.isAttached s.channel s.conn = true ∧
      out.2.hub.host.waiting s.conn = due.map Message.push) ∧
    due.Pairwise (fun a b => a.id < b.id) ∧
    (n.hub.host.store.InMemory → ∀ m, m ∈ due ↔
      m ∈ n.hub.host.store.stored key ∧ lastId < m.id ∧ m.isExpired n.hub.host.now = false) := by
  intro depth due out
  have hgrant : n.grant key heartbeat = .ok granted := by
    simp only [grant, named, beats, owned, Bool.false_eq_true, if_false, if_true]
  have hpos : 0 < n.config.connectionQueueDepth := by
    have hqueue := Config.pos_of_validate valid (.connQueueDepth, n.config.connQueueDepth)
      (by simp [Config.positives])
    simp only [Config.connectionQueueDepth, Numeral.wordBound]
    omega
  obtain ⟨hopen, hconfig, hhost⟩ := admitting_authenticate hn valid outer below token
  have hout := subscribe_takeIn hgrant authed lastId
  generalize ((n.channelOf key).2.authenticate (n.channelOf key).1 token).2 = asked
    at hopen hconfig hhost hout
  have stored' : (asked.hub.host.store.get key lastId asked.hub.host.now).1 = .ok ms := by
    rw [hhost, stored]
  rw [← hconfig] at hpos
  simp only [depth, due, out, hout, ← hhost, ← hconfig]
  refine ⟨fun hd => takeIn_tooDeep hd _ _ _ _, fun hd hover => ?_, fun hd hfit => ?_,
    ascending.sublist List.filter_sublist, fun hs m => ?_⟩
  · obtain ⟨hrefused, hserving, hattached⟩ := hopen.takeIn_over hpos hd stored' ascending hover
    refine ⟨hrefused, fun id hid => ?_⟩
    cases hserving.symm.trans hid
    exact hattached
  · obtain ⟨hok, hserving, hattached, hwaiting⟩ := hopen.takeIn_fits hpos hd stored' ascending hfit
    exact ⟨_, hok, ⟨rfl, rfl, rfl⟩, hserving, hattached, hwaiting⟩
  · rw [hhost] at hs ⊢
    obtain ⟨-, hmem⟩ := Store.mem_of_get hs stored
    simp only [Channel.due, List.mem_filter, hmem, Bool.and_eq_true, decide_eq_true_eq,
      Bool.not_eq_true']
    exact ⟨And.left, fun h => ⟨h, h.2⟩⟩

/-- So many messages with ids from 1 on, which do not expire any time soon. -/
def history (count : Nat) : List Message :=
  (List.range count).map fun i : Nat => ⟨(i : Int) + 1, [], .personal, Numeral.int64Max⟩

/-- A node just made, whose store has a history for "k".  Every queue has room for two payloads. -/
def outerNode (count : Nat) : Node :=
  let config := { Config.loopback with
    channelKind := .outer, connQueueDepth := 1, maxMessagesPerKey := 1, vnodes := 1
    messageStoreUrl := some "http://127.0.0.1:1/" }
  let memory := (history count).foldl (fun s m => (s.save "k" m).2) MemoryStore.new
  { config
    hub := ⟨config.channelSettings, ⟨Registry.spread, List.replicate 8 .empty⟩, .empty, 0,
      .new 1700000000000000000 Desk.emptyNode.hub.host.ids (.ofMemory memory)⟩
    ring := .ofNodes Ring.position config.nodes config.vnodes }

theorem reachable_outerNode (count : Nat) : (outerNode count).Reachable := by
  have made : withStore Ring.position (outerNode count).config (some (outerNode count).hub.host.store)
      1700000000000000000 = .ok (outerNode count) := by
    have hfits : (outerNode count).config.fits = true :=
      Config.fits_of_length (show 8 ≤ Registry.maxBuckets by decide) (show 1 ≤ Ring.maxPoints by decide)
    have hids : IdSource.snowflake? (outerNode count).config.workerId .wall =
        .ok (outerNode count).hub.host.ids := rfl
    have hhub : Hub.new Registry.spread (outerNode count).config.channelBuckets
        (outerNode count).config.channelSettings true
        (.new 1700000000000000000 (outerNode count).hub.host.ids (outerNode count).hub.host.store) =
        .ok (outerNode count).hub := by
      simp only [outerNode]
      rfl
    exact withStore_of_fits hids hhub hfits
  exact reachable_of_made made

theorem validate_outerNode (count : Nat) : (outerNode count).config.validate = .ok () := by
  simp only [outerNode]
  rfl

theorem find?_outerNode (count : Nat) (key : String) :
    (outerNode count).hub.registry.find? key = none := by
  have made : Registry.new Registry.spread 8 = .ok (outerNode count).hub.registry := rfl
  exact (Registry.placed_new made).2 key

/-- A node that is alone has all keys. -/
theorem owns_outerNode (count : Nat) (key : String) : (outerNode count).owns key = true := by
  obtain ⟨node, ⟨hnode, howns⟩, -⟩ := Ring.existsUnique_owns (List.cons_ne_nil "1" [])
    Ring.position 1 key
  cases List.mem_singleton.1 hnode
  exact howns

theorem grant_outerNode (count : Nat) : (outerNode count).grant "k" 0 = .ok 5 := by
  have named : "k".isEmpty = false := rfl
  simp only [grant, named, owns_outerNode count "k", Bool.false_eq_true, if_false, if_true]
  rfl

/-- Two messages fit, and so do the last two of three. -/
theorem admitted_iff_backlog_fits_two :
    (∃ s, ((outerNode 2).subscribe "k" 0 none 0).1 = .ok s ∧
      ((outerNode 2).subscribe "k" 0 none 0).2.hub.host.waiting s.conn =
        (history 2).map Message.push) ∧
    (∃ s, ((outerNode 3).subscribe "k" 0 none 1).1 = .ok s ∧
      ((outerNode 3).subscribe "k" 0 none 1).2.hub.host.waiting s.conn =
        ((history 3).drop 1).map Message.push) := by
  have below (count : Nat) (id : ChannelId) (hk : (outerNode count).hub.registry.find? "k" = some id) :
      (outerNode count).hub.connCount id < (outerNode count).config.maxConnsPerKey := by
    rw [find?_outerNode] at hk
    cases hk
  have beats (count : Nat) : (outerNode count).config.heartbeat 0 = some 5 := rfl
  have authed (count : Nat) : (((outerNode count).channelOf "k").2.authenticate
      ((outerNode count).channelOf "k").1 none).1 = .ok () := rfl
  have two : ((outerNode 2).hub.host.store.get "k" 0 (outerNode 2).hub.host.now).1 =
      .ok (history 2) := rfl
  have three : ((outerNode 3).hub.host.store.get "k" 1 (outerNode 3).hub.host.now).1 =
      .ok ((history 3).drop 1) := rfl
  obtain ⟨-, -, hfit, -⟩ := admitted_iff_backlog_fits (reachable_outerNode 2) (validate_outerNode 2) rfl
    rfl (owns_outerNode 2 "k") (beats 2) (authed 2) (below 2) two (by decide)
  obtain ⟨-, -, hlast, -⟩ := admitted_iff_backlog_fits (reachable_outerNode 3) (validate_outerNode 3)
    rfl rfl (owns_outerNode 3 "k") (beats 3) (authed 3) (below 3) three (by decide)
  obtain ⟨s, hs, -, -, -, hwaiting⟩ := hfit (by decide) (by decide)
  obtain ⟨s', hs', -, -, -, hwaiting'⟩ := hlast (by decide) (by decide)
  exact ⟨⟨s, hs, hwaiting⟩, s', hs', hwaiting'⟩

/-- The configuration is valid, the key is the node's own, nobody has to show a ticket, the channel is new
and the store answers in order.  Yet a subscriber who has three messages waiting is turned away. -/
theorem backlog_locks_out :
    let n := outerNode 3
    (n.Reachable ∧ n.config.validate = .ok () ∧ n.config.channelKind = .outer ∧
      n.config.connectionQueueDepth = 2 ∧ n.owns "k" = true ∧ n.config.heartbeat 0 = some 5 ∧
      n.config.tokenAuth = false ∧ n.hub.registry.find? "k" = none ∧
      (n.hub.host.store.get "k" 0 n.hub.host.now).1 = .ok (history 3) ∧
      (history 3).map Message.id = [1, 2, 3]) ∧
    (n.subscribe "k" 0 none 0).1 = .error (.channel (.write .full)) := by
  have hasked : ((outerNode 3).channelOf "k").2.authenticate ((outerNode 3).channelOf "k").1 none =
      (.ok (), ((outerNode 3).channelOf "k").2) := rfl
  have hattach : (((outerNode 3).channelOf "k").2.attach ((outerNode 3).channelOf "k").1 "k" 5 0).1 =
      .error (.channel (.write .full)) := rfl
  refine ⟨⟨reachable_outerNode 3, validate_outerNode 3, rfl, rfl, owns_outerNode 3 "k", rfl, rfl,
    find?_outerNode 3 "k", rfl, rfl⟩, ?_⟩
  simp only [subscribe, grant_outerNode 3, hasked]
  split
  · next he =>
    rw [he] at hattach
    exact hattach
  · next hok =>
    rw [hok] at hattach
    cases hattach

end Node

end PushRelay
