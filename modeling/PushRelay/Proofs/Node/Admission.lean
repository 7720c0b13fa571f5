import PushRelay.Proofs.Node.Backlog
import PushRelay.Proofs.Node.Occupancy
import PushRelay.Proofs.Node.Push

/-!
# Subscribers where channels retain messages

A subscriber is let in with all that is due, and then takes part in pushes (`Admitted`).  What can be due is
bounded by what a channel retains, and the queue of a connection is deeper than that: a backlog always fits.

    replay_served     : all that is due goes onto an empty queue that is deep enough
    Served.hears      : the next message goes onto the queue, behind what was due
    Entered.terms     : the channel that a subscriber comes upon is open, and retains no more than it may
    Entered.joined    : with room for one more connection, the channel takes one up

A node is `InService` if connections were attached by subscribers only: the connection that a subscriber
brings is attached nowhere yet.
-/

namespace PushRelay

namespace MessageLog

variable {log : MessageLog} {a m : Message}

/-- A log has one message of an id. -/
theorem eq_of_id (ha : a ∈ log.entries) (hm : m ∈ log.entries) (hid : a.id = m.id) : a = m := by
  have hnodup : (log.entries.map (·.id)).Nodup :=
    (List.pairwise_map.2 log.ascending).imp fun h => Int.ne_of_lt h
  exact List.inj_on_of_nodup_map hnodup ha hm hid

end MessageLog

namespace Channel

variable {ch : Channel} {h : Host} {c : ConnId} {lastId now last : Int} {m : Message}
  {conn : Connection Push} {messages : MessageLog} {bound : Nat} {ms : List Message}

/-- The messages that a backlog behind `last` leaves retained. -/
def spared (now last : Int) (ms : List Message) : List Message :=
  ms.filter fun m => !(decide (last < m.id) && m.isExpired now)

theorem mem_due : m ∈ due now last ms ↔ m ∈ ms ∧ last < m.id ∧ m.isExpired now = false := by
  simp [due]

/-- What is due is behind `last` anyway. -/
theorem due_after (now last : Int) (messages : MessageLog) :
    due now last (messages.after last) = due now last messages.entries := by
  simp only [due, MessageLog.after, List.filter_filter]
  refine List.filter_congr fun m _ => ?_
  cases decide (last < m.id) <;> simp

/-- Without the ids that a backlog has noted as expired. -/
theorem remove_expired (now last : Int) (messages : MessageLog) :
    (messages.remove fun m => (((messages.after last).filter fun m =>
      decide (last < m.id) && m.isExpired now).map (·.id)).contains m.id).entries =
      spared now last messages.entries := by
  refine List.filter_congr fun m hm => congrArg (!·) ?_
  rw [Bool.eq_iff_iff, List.contains_iff_mem, List.mem_map]
  constructor
  · rintro ⟨a, ha, hid⟩
    obtain ⟨ha, hx⟩ := List.mem_filter.1 ha
    rw [← MessageLog.eq_of_id (MessageLog.mem_after.1 ha).1 hm hid]
    exact hx
  · intro hx
    have hl : last < m.id := by
      rw [Bool.and_eq_true] at hx
      exact of_decide_eq_true hx.1
    exact ⟨m, List.mem_filter.2 ⟨MessageLog.mem_after.2 ⟨hm, hl⟩, hx⟩, rfl⟩

/-- A connection that is attached and was not written anything yet gets all that is due, if it fits.  The
channel lets go of the messages behind `lastId` that have expired, and the connection takes part in pushes
from then on, above what it has been written. -/
structure Served (ch : Channel) (h : Host) (c : ConnId) (lastId : Int) (conn : Connection Push)
    (out : Outcome Nat) : Prop where
  result : out.result = .ok (due h.now lastId ch.retained).length
  retained : out.channel.retained = spared h.now lastId ch.retained
  attached : ∃ seen, out.channel.attached.get? c = some ⟨seen, false⟩ ∧ lastId ≤ seen ∧
    (∀ m ∈ due h.now lastId ch.retained, m.id ≤ seen) ∧
    (seen = lastId ∨ ∃ m ∈ due h.now lastId ch.retained, m.id = seen)
  conns : out.host.conns.get? c =
    some { conn with waiting := (due h.now lastId ch.retained).map Message.push }
  now : out.host.now = h.now

theorem replay_served (hr : ch.retention = .log messages bound) (ho : ch.closed = false)
    (ha : ch.attached.get? c = some ⟨lastId, true⟩) (hc : h.conns.get? c = some conn)
    (hopen : conn.isClosed = false) (hempty : conn.waiting = [])
    (hfit : (due h.now lastId ch.retained).length ≤ conn.depth) :
    Served ch h c lastId conn (ch.replay h c lastId) := by
  have hstart : ch.replayStart c lastId = lastId := by
    rw [replayStart, ha]
    exact Int.max_self lastId
  have hms := messages.after_ascending lastId
  rw [retained_log hr, ← due_after] at hfit
  obtain ⟨hconn, hfailure⟩ := writeBacklog_due h.now lastId hms hopen
    (by rw [hempty]; exact Nat.zero_le _)
  rw [hempty, List.length_nil, Nat.sub_zero] at hconn hfailure
  rw [if_pos hfit] at hfailure
  rw [List.take_of_length_le hfit, List.nil_append, due_after] at hconn
  have hexpired := writeBacklog_expired h.now lastId hms hfailure
  obtain ⟨ws, hw⟩ := writeBacklog_wrote h.now (messages.after lastId) conn lastId
  have hmem : ∀ m, m ∈ ws ↔ m ∈ due h.now lastId messages.entries := by
    intro m
    rw [← due_after, mem_due]
    constructor
    · intro hm
      exact ⟨hw.sublist.subset hm, hw.above m hm, hw.live m hm⟩
    · rintro ⟨hm, hl, hx⟩
      exact hw.complete hms m hm hl hx (Or.inr hfailure)
  have hsent : ws.length = (due h.now lastId messages.entries).length := by
    have hwaiting := hw.waiting
    rw [hconn, hempty, List.nil_append] at hwaiting
    have hlen := congrArg List.length hwaiting
    rw [List.length_map, List.length_map] at hlen
    exact hlen.symm
  have hseat : lastId ≤ (writeBacklog h.now (messages.after lastId) conn lastId).last := hw.le_last
  have hupto := hw.upto
  have hlast := hw.last_eq
  simp only [replay, hr, ho, hc, hstart, hfailure, Bool.false_eq_true, if_false]
  rw [hexpired]
  refine ⟨?_, ?_, ⟨_, ?_, hseat, ?_, ?_⟩, ?_, rfl⟩
  · rw [hw.sent, hsent, retained_log hr]
  · rw [retained_log hr, ← remove_expired]
    rfl
  · simp only [finishReplay, advance, Table.get?_modify, if_true, ha, Option.map_some,
      Int.max_eq_right hseat]
  · rw [retained_log hr]
    exact fun m hm => hupto m ((hmem m).2 hm)
  · rw [retained_log hr]
    rcases hlast with hlast | ⟨m, hm, he⟩
    · exact .inl hlast
    · exact .inr ⟨m, (hmem m).1 hm, he⟩
  · rw [retained_log hr, ← hconn]
    exact (Table.get?_modify _ _ _ _).trans (by rw [if_pos rfl, hc]; rfl)

/-- Another message then, behind all that were due, is taken and written to the connection as well. -/
theorem Served.hears {out : Outcome Nat} (hs : Served ch h c lastId conn out)
    (hb : out.channel.bound? = some bound) (hpos : 0 < bound) (ho : out.channel.closed = false)
    (hopen : conn.isClosed = false)
    (hroom : (due h.now lastId ch.retained).length < conn.depth) (key : String)
    (hx : m.isExpired h.now = false) (hl : lastId < m.id)
    (hlast : ∀ a ∈ due h.now lastId ch.retained, a.id < m.id) :
    (out.channel.push out.host key m).result = .ok m.id ∧
      (out.channel.push out.host key m).host.waiting c =
        (due h.now lastId ch.retained).map Message.push ++ [m.push] := by
  have hnew : ∀ a ∈ out.channel.retained, a.id ≠ m.id := by
    intro a ha hid
    rw [hs.retained, spared, List.mem_filter, Bool.not_eq_true', ← Bool.not_eq_true, Bool.and_eq_true,
      decide_eq_true_eq, hid, not_and, Bool.not_eq_true] at ha
    have hdue : a ∈ due h.now lastId ch.retained := mem_due.2 ⟨ha.1, hid ▸ hl, ha.2 hl⟩
    exact absurd (hlast a hdue) (Int.not_lt.2 (Int.le_of_eq hid.symm))
  obtain ⟨hok, -⟩ := push_new hb hpos ho (hs.now.symm ▸ hx) hnew key
  obtain ⟨seen, hseen, -, -, hlimit⟩ := hs.attached
  have hlt : seen < m.id := by
    rcases hlimit with rfl | ⟨a, ha, rfl⟩
    · exact hl
    · exact hlast a ha
  have hreach : out.channel.reaches out.host m.id c = true := by
    refine reaches_iff_hears.2 ⟨_, _, ⟨hseen, rfl, hlt⟩, hs.conns, hopen, ?_⟩
    rw [List.length_map]
    exact hroom
  refine ⟨hok, ?_⟩
  rw [push_waiting hok, if_pos hreach, Host.waiting_of_get? hs.conns]
  rfl

/-- A channel that retains messages takes a connection up without them. -/
theorem attach_log (hr : ch.retention = .log messages bound) (ho : ch.closed = false)
    (hf : ch.isFull c = false) (h : Host) (key : String) (lastId : Int) : ch.attach h key c lastId =
      ⟨.ok (), { ch with attached := ch.attached.insert c ⟨lastId, true⟩ }, h⟩ := by
  rw [attach, if_neg (Bool.eq_false_iff.1 ho), if_neg (Bool.eq_false_iff.1 hf)]
  split
  · rfl
  · next hr' => cases hr.symm.trans hr'

end Channel

namespace Hub

variable {h : Hub} {key : String}

/-- The channel that a key has. -/
def channelFor? (h : Hub) (key : String) : Option Channel :=
  (h.registry.find? key).bind h.channels.get?

/-- What is retained for a key. -/
def retainedFor (h : Hub) (key : String) : List Message :=
  ((h.channelFor? key).map Channel.retained).getD []

/-- How many connections a key has. -/
def countFor (h : Hub) (key : String) : Nat := ((h.channelFor? key).map Channel.connCount).getD 0

theorem Serves.channelFor? {id : ChannelId} {ch : Channel} (hk : h.Serves key id ch) :
    h.channelFor? key = some ch := by
  rw [Hub.channelFor?, hk.1]
  exact hk.2

theorem Serves.retainedFor {id : ChannelId} {ch : Channel} (hk : h.Serves key id ch) :
    h.retainedFor key = ch.retained := by
  rw [Hub.retainedFor, hk.channelFor?]
  rfl

end Hub

namespace Gate

theorem config_step (g : Gate) (e : GateEvent) : (g.step e).node.config = g.node.config := by
  have hw := step_works g e
  generalize (g.step e).node = n at hw
  cases hw with
  | enter => exact (hubOnly_channelOf g.node _).config
  | authenticate => exact (hubOnly_authenticate g.node _ _).config
  | attach => exact (hubOnly_attach g.node _ _ _ _).config
  | replay => exact (hubOnly_replay g.node _ _).config
  | leave => exact (hubOnly_unsubscribe g.node _).config
  | _ => rfl

theorem config_run (g : Gate) (es : List GateEvent) : (g.run es).node.config = g.node.config := by
  induction es generalizing g with
  | nil => rfl
  | cons e es ih => exact (ih (g.step e)).trans (config_step g e)

end Gate

namespace Node

variable {n n' asked : Node} {key : String} {id : ChannelId} {ch : Channel} {lastId : Int}

/-! ## Nodes in service -/

/-- The node was made from its configuration, and since then subscribers, migrations and other events on
its channels have come in between each other.  Nobody but a subscriber has attached a connection. -/
def InService (n : Node) : Prop :=
  ∃ hash config store now made requests es, withStore hash config store now = .ok made ∧
    (∀ e ∈ es, e.Orderly) ∧ ((Gate.start made requests).run es).node = n

namespace InService

variable (hn : n.InService)
include hn

theorem regular : n.Regular := by
  obtain ⟨hash, config, store, now, made, requests, es, hmade, -, rfl⟩ := hn
  obtain ⟨hregular, hsettings⟩ := Gate.regular_start hmade requests es
  refine ⟨hregular, hsettings.trans (congrArg Config.channelSettings ?_)⟩
  rw [Gate.config_run]
  exact (made_config hmade).1.symm

/-- A connection that has not been made yet is attached nowhere. -/
theorem unattached (id : ChannelId) : n.hub.isAttached id n.hub.host.nextConn = false := by
  obtain ⟨hash, config, store, now, made, requests, es, hmade, horderly, rfl⟩ := hn
  have hguarded := Gate.guarded_start (reachable_withStore hmade).sound requests
  obtain ⟨live, hlive⟩ := (Gate.occupied_start hmade requests).run hguarded horderly
  exact hlive.1.isAttached_of_le (Nat.le_refl _) id

end InService

/-! ## The way to the channel -/

/-- A subscriber to a key has shown the ticket and come upon the key's channel, which keeps what it
retained and its connections, or upon a new one. -/
structure Entered (n : Node) (key : String) (id : ChannelId) (ch : Channel) (asked : Node) : Prop where
  regular : asked.Regular
  config : asked.config = n.config
  host : asked.hub.host = n.hub.host
  serves : asked.hub.Serves key id ch
  retained : ch.retained = n.hub.retainedFor key
  attached : ch.attached = ((n.hub.channelFor? key).map (·.attached)).getD .empty

theorem entered_channelOf (hn : n.Regular) (key : String) :
    ∃ ch, Entered n key (n.channelOf key).1 ch (n.channelOf key).2 := by
  have hregular : (n.channelOf key).2.Regular := hn.through [.getOrCreate key]
  have hhost : (n.channelOf key).2.hub.host = n.hub.host := Hub.getOrCreate_host n.hub key
  have hs := hn.hub.steady
  cases hk : n.hub.registry.find? key with
  | some id =>
    obtain ⟨old, hold, -⟩ := hs.serving key id hk
    have hserves : n.hub.Serves key id old := ⟨hk, hold⟩
    have heq : n.channelOf key = (id, { n with hub := n.hub.refresh id }) := by
      simp only [channelOf, Hub.getOrCreate, hk]
    refine ⟨old.setDeadline n.hub.freshDeadline, hregular, rfl, hhost, ?_, ?_, ?_⟩
    · rw [heq]
      exact (hs.handed_refresh hserves).serves
    · exact hserves.retainedFor.symm
    · rw [hserves.channelFor?]
      rfl
  | none =>
    have hnone : n.hub.channelFor? key = none := by rw [Hub.channelFor?, hk]; rfl
    refine ⟨.new n.hub.settings n.hub.freshDeadline, hregular, rfl, hhost, ?_, ?_, ?_⟩
    · have hserves := (hs.handed_getOrCreate hk).serves
      rw [← Hub.getOrCreate_fst hk] at hserves
      exact hserves
    · rw [Channel.new_retained, Hub.retainedFor, hnone]
      rfl
    · rw [hnone]
      rfl

theorem Entered.authenticate (he : Entered n key id ch n') (token : Option String) :
    ∃ ch', Entered n key id ch' (n'.authenticate id token).2 := by
  have ha := n'.authenticate_asked id token
  generalize n'.authenticate id token = out at ha
  cases ha with
  | unasked r => exact ⟨ch, he⟩
  | asked r ticket =>
    obtain ⟨tokens, ht⟩ := ch.act_authToken n'.hub.host ticket
    have hserves := he.serves.call (.authToken ticket)
    have hhost := he.serves.call_host (.authToken ticket)
    rw [ht] at hserves hhost
    exact ⟨_, he.regular.through _, he.config, hhost.trans he.host, hserves, he.retained, he.attached⟩

/-- What holds of the channel where channels retain messages. -/
structure Entered.Terms (n : Node) (key : String) (ch : Channel) : Prop where
  bound : ch.bound? = some n.config.maxMessagesPerKey
  opened : ch.closed = false
  few : ch.retained.length ≤ n.config.maxMessagesPerKey
  maxConns : ch.maxConns = n.config.maxConnsPerKey
  size : ch.attached.size = n.hub.countFor key
  bounded : n.hub.countFor key ≤ n.config.maxConnsPerKey

theorem Entered.terms (he : Entered n key id ch asked) (inner : n.config.channelKind = .inner) :
    Entered.Terms n key ch := by
  have hg := he.regular.hub.channels id ch he.serves.2
  have hsettings : asked.hub.settings = n.config.channelSettings := by
    rw [he.regular.settings, he.config]
  rw [hsettings] at hg
  have hbound : ch.bound? = some n.config.maxMessagesPerKey := by
    rw [hg.bound?, ChannelSettings.bound?, show n.config.channelSettings.kind = .inner from inner]
    rfl
  have hsize : ch.attached.size = n.hub.countFor key := by
    rw [he.attached, Hub.countFor]
    cases n.hub.channelFor? key <;> rfl
  refine ⟨hbound, (he.regular.hub.steady.serving key id he.serves.1).get? he.serves.2,
    hg.moderate _ hbound, hg.maxConns, hsize, ?_⟩
  rw [← hsize]
  exact Nat.le_trans hg.bounded (Nat.le_of_eq hg.maxConns)

/-- The connection that is made next is not attached to the channel. -/
theorem Entered.unattached (he : Entered n key id ch asked) (hn : n.InService) :
    ch.attached.contains asked.hub.host.nextConn = false := by
  rw [he.host, he.attached, Hub.channelFor?]
  cases hk : n.hub.registry.find? key with
  | none => rfl
  | some id' =>
    have hnone := hn.unattached id'
    rw [Hub.isAttached] at hnone
    rw [Option.bind_some]
    cases hch : n.hub.channels.get? id' with
    | none => rfl
    | some old =>
      rw [hch] at hnone
      exact hnone

/-! ## Taking a connection up -/

/-- What a channel answers to the connection that is made next. -/
theorem verdict_eq (hch : n.hub.channels.get? id = some ch) (key : String) (lastId : Int) :
    n.verdict id key lastId =
      (ch.attach (n.hub.host.connect n.config.connectionQueueDepth).2 key n.hub.host.nextConn
        lastId).result := by
  have hget : (n.hub.step (.host (.connect n.config.connectionQueueDepth))).channels.get? id = some ch :=
    hch
  simp only [verdict, Hub.attach, Hub.onChannel, hget]
  rfl

section TakeIn

variable {heartbeat : Nat} (he : Entered n key id ch asked) (hn : n.InService)
  (inner : n.config.channelKind = .inner)
include he hn inner

/-- A channel that has as many connections as it takes refuses another. -/
theorem Entered.takeIn_full (deep : n.config.connectionQueueDepth ≤ Connection.maxDepth)
    (full : n.hub.countFor key = n.config.maxConnsPerKey) :
    (asked.takeIn id key heartbeat lastId).1 =
      .error (.channel (.maxConn n.config.maxConnsPerKey)) := by
  have ht := he.terms inner
  have hfull : ch.isFull asked.hub.host.nextConn = true := by
    rw [Channel.isFull, he.unattached hn, ht.maxConns, ht.size, full]
    simp
  have hverdict : asked.verdict id key lastId = .error (.maxConn n.config.maxConnsPerKey) := by
    rw [verdict_eq he.serves.2, ← ht.maxConns]
    simp only [Channel.attach, ht.opened, hfull, Bool.false_eq_true, if_false, if_true]
  have hj := attach_joining asked id key heartbeat lastId
  unfold takeIn
  generalize asked.attach id key heartbeat lastId = o at hj
  cases hj with
  | tooDeep hd =>
    rw [he.config] at hd
    exact absurd deep (Nat.not_le.2 hd)
  | refused hrefused =>
    cases hrefused.symm.trans hverdict
    rfl
  | joined hok => cases hok.symm.trans hverdict

/-- One that has room attaches it, and has nothing written to it yet. -/
theorem Entered.joined (room : n.hub.countFor key ≠ n.config.maxConnsPerKey) (lastId : Int) :
    let c := asked.hub.host.nextConn
    let h := asked.hub.run (asked.joining id key lastId ++ [counted])
    asked.verdict id key lastId = .ok () ∧
      h.Serves key id { ch with attached := ch.attached.insert c ⟨lastId, true⟩ } ∧
      h.host.conns.get? c = some (.new n.config.connectionQueueDepth) ∧
      h.host.now = n.hub.host.now := by
  intro c h
  have ht := he.terms inner
  obtain ⟨messages, hr⟩ := Channel.bound?_eq_some_iff.1 ht.bound
  have hfree : ch.isFull c = false := by
    have hlt := Nat.lt_of_le_of_ne ht.bounded room
    rw [Channel.isFull, he.unattached hn, ht.maxConns, ht.size, decide_eq_false (Nat.not_le.2 hlt)]
    rfl
  let made := asked.hub.step (.host (.connect asked.config.connectionQueueDepth))
  let call := ChannelCall.attach key c lastId
  have hattach : call.act ch made.host =
      ({ ch with attached := ch.attached.insert c ⟨lastId, true⟩ }, made.host) :=
    congrArg (fun out => (out.channel, out.host))
      (Channel.attach_log hr ht.opened hfree made.host key lastId)
  have hmade : made.Serves key id ch := he.serves
  have hserves := hmade.call call
  have hhost := hmade.call_host call
  rw [hattach] at hserves hhost
  have hcall : h.host.conns = (made.call id call).host.conns ∧
      h.host.now = (made.call id call).host.now := ⟨rfl, rfl⟩
  rw [hhost] at hcall
  refine ⟨?_, hserves, ?_, ?_⟩
  · rw [verdict_eq he.serves.2, Channel.attach_log hr ht.opened hfree]
  · rw [hcall.1, ← he.config]
    exact (Table.get?_insert _ _ _ _).trans (if_pos rfl)
  · rw [hcall.2, ← he.host]
    rfl

end TakeIn

/-- A replay that gets through leaves the key its channel. -/
theorem replay_serves {s : Subscription} {k : Nat} (hk : n.hub.Serves key s.channel ch)
    (hok : (ch.replay n.hub.host s.conn lastId).result = .ok k) :
    (n.replay s lastId).1 = .ok () ∧
      (n.replay s lastId).2.hub.Serves key s.channel (ch.replay n.hub.host s.conn lastId).channel ∧
      (n.replay s lastId).2.hub.host = (ch.replay n.hub.host s.conn lastId).host := by
  have hreplay : n.hub.replay s.channel s.conn lastId =
      (.ok k, n.hub.call s.channel (.replay s.conn lastId)) := by
    refine Prod.ext ?_ rfl
    simp only [Hub.replay, Hub.onChannel, hk.2, hok]
  unfold replay
  rw [hreplay]
  exact ⟨rfl, hk.call (.replay s.conn lastId), hk.call_host (.replay s.conn lastId)⟩

/-- A connection that the channel takes, and whose replay gets through, is taken in. -/
theorem takeIn_of_replay {heartbeat : Nat} (deep : n.config.connectionQueueDepth ≤ Connection.maxDepth)
    (hverdict : n.verdict id key lastId = .ok ()) :
    let s : Subscription := ⟨key, heartbeat, n.hub.host.nextConn, id⟩
    let joined := n.through (n.joining id key lastId ++ [counted])
    (joined.replay s lastId).1 = .ok () →
      n.takeIn id key heartbeat lastId = (.ok s, (joined.replay s lastId).2) := by
  intro s joined hok
  have hj := attach_joining n id key heartbeat lastId
  unfold takeIn
  generalize n.attach id key heartbeat lastId = o at hj
  cases hj with
  | tooDeep hd => exact absurd deep (Nat.not_le.2 hd)
  | refused hrefused => cases hrefused.symm.trans hverdict
  | joined =>
    dsimp only
    rcases hreplay : joined.replay s lastId with ⟨r, n'⟩
    rw [hreplay] at hok
    cases hok
    rfl

/-- From `n` to `n'` a subscriber to a key has been admitted who has seen ids up to `lastId`.  All that is
due waits on the new connection.  Of what was retained for the key the messages behind `lastId` that had
expired are gone.  The connection takes part in pushes: the next message is written to it, too. -/
structure Admitted (n : Node) (key : String) (lastId : Int) (s : Subscription) (n' : Node) : Prop where
  conn : s.conn = n.hub.host.nextConn
  serving : n'.hub.registry.find? key = some s.channel
  waiting : n'.hub.host.waiting s.conn =
    (Channel.due n.hub.host.now lastId (n.hub.retainedFor key)).map Message.push
  retained : n'.hub.retainedFor key =
    Channel.spared n.hub.host.now lastId (n.hub.retainedFor key)
  attachment : ∃ seen, n'.hub.attachment? s.channel s.conn = some ⟨seen, false⟩ ∧
    (seen = lastId ∨ ∃ m ∈ Channel.due n.hub.host.now lastId (n.hub.retainedFor key), m.id = seen)
  live : ∀ m : Message, m.isExpired n.hub.host.now = false → lastId < m.id →
    (∀ a ∈ Channel.due n.hub.host.now lastId (n.hub.retainedFor key), a.id < m.id) →
    (n'.push s.channel key m).1 = .ok m.id ∧
      (n'.push s.channel key m).2.hub.host.waiting s.conn =
        (Channel.due n.hub.host.now lastId (n.hub.retainedFor key)).map Message.push ++ [m.push]

section Served

variable {s : Subscription} {before : Channel} {h : Host} {conn : Connection Push} {out : Outcome Nat}
  {bound : Nat}

theorem admitted_of_served (hs : Channel.Served before h s.conn lastId conn out)
    (hretained : before.retained = n.hub.retainedFor key) (hnow : h.now = n.hub.host.now)
    (hconn : s.conn = n.hub.host.nextConn) (hk : n'.hub.Serves key s.channel out.channel)
    (hhost : n'.hub.host = out.host) (hb : out.channel.bound? = some bound) (hpos : 0 < bound)
    (ho : out.channel.closed = false) (hopen : conn.isClosed = false)
    (hroom : (Channel.due h.now lastId before.retained).length < conn.depth) :
    Admitted n key lastId s n' := by
  obtain ⟨seen, hseen, -, -, hlimit⟩ := hs.attached
  have hheard := fun m => hs.hears (m := m) hb hpos ho hopen hroom key
  have hwaiting := Host.waiting_of_get? hs.conns
  have hspared := hs.retained
  rw [hretained, hnow] at hlimit hwaiting hspared
  simp only [hretained, hnow] at hheard
  refine ⟨hconn, hk.1, ?_, hk.retainedFor.trans hspared, ⟨seen, ?_, hlimit⟩, fun m hx hl hlast => ?_⟩
  · rw [hhost]
    exact hwaiting
  · rw [Hub.attachment?, hk.2]
    exact hseen
  · obtain ⟨hok, hheard⟩ := hheard m hx hl hlast
    rw [← hhost] at hok hheard
    have hcalled := hk.call_host (.push key m)
    exact ⟨(Hub.push_result hk.2).trans hok, (congrArg (·.waiting s.conn) hcalled).trans hheard⟩

end Served

/-- A channel that has room admits the subscriber. -/
theorem Entered.admitted (he : Entered n key id ch asked) (hn : n.InService)
    (inner : n.config.channelKind = .inner) (valid : n.config.validate = .ok ())
    (deep : n.config.connectionQueueDepth ≤ Connection.maxDepth)
    (room : n.hub.countFor key ≠ n.config.maxConnsPerKey) (heartbeat : Nat) (lastId : Int) :
    ∃ s n', asked.takeIn id key heartbeat lastId = (.ok s, n') ∧ s.key = key ∧
      s.heartbeat = heartbeat ∧ Admitted n key lastId s n' := by
  have ht := he.terms inner
  obtain ⟨hverdict, hserves, hconn, hnow⟩ := he.joined hn inner room lastId
  obtain ⟨messages, hr⟩ := Channel.bound?_eq_some_iff.1 ht.bound
  let c := asked.hub.host.nextConn
  let h := asked.hub.run (asked.joining id key lastId ++ [counted])
  let before : Channel := { ch with attached := ch.attached.insert c ⟨lastId, true⟩ }
  -- the queue has room for all that the channel may retain, and for one message more
  have hroom : (Channel.due h.host.now lastId before.retained).length <
      (Connection.new n.config.connectionQueueDepth : Connection Push).depth := by
    have hdue : (Channel.due h.host.now lastId before.retained).length ≤
        n.config.maxMessagesPerKey := Nat.le_trans (List.length_filter_le _ _) ht.few
    have hqueue : 0 < n.config.connQueueDepth :=
      Config.pos_of_validate valid (.connQueueDepth, n.config.connQueueDepth)
        (by simp [Config.positives])
    simp only [Config.connectionQueueDepth, Numeral.wordBound, Connection.maxDepth] at deep
    simp only [Connection.new, Config.connectionQueueDepth, Numeral.wordBound]
    omega
  have hserved : Channel.Served before h.host c lastId _ (before.replay h.host c lastId) :=
    Channel.replay_served hr ht.opened ((Table.get?_insert _ _ _ _).trans (if_pos rfl)) hconn rfl rfl
      (Nat.le_of_lt hroom)
  have hpos : 0 < n.config.maxMessagesPerKey :=
    Config.pos_of_validate valid (.maxMessagesPerKey, n.config.maxMessagesPerKey)
      (by simp [Config.positives])
  let s : Subscription := ⟨key, heartbeat, c, id⟩
  obtain ⟨hok, hkeeps, hhost⟩ := replay_serves (n := asked.through _) (s := s) hserves hserved.result
  refine ⟨s, _, takeIn_of_replay (he.config ▸ deep) hverdict hok, rfl, rfl, ?_⟩
  exact admitted_of_served hserved he.retained hnow (congrArg Host.nextConn he.host) hkeeps hhost
    ((Channel.replay_bound? before h.host c lastId).trans ht.bound) hpos
    ((Channel.replay_closed before h.host c lastId).trans ht.opened) rfl hroom

/-- On a node in service whose channels retain messages, let a subscriber come with a key that is the
node's own and with a ticket that is good, and let there be queues of the configured depth.  The subscriber
is refused exactly if the key has as many connections as it may.  Otherwise the subscriber is admitted,
whatever is retained for the key: all that is due fits into the queue, and it waits there in order. -/
theorem admitted_unless_full (hn : n.InService) (valid : n.config.validate = .ok ())
    (inner : n.config.channelKind = .inner)
    (deep : n.config.connectionQueueDepth ≤ Connection.maxDepth) {heartbeat granted : Nat}
    {token : Option String} (named : key.isEmpty = false) (owned : n.owns key = true)
    (beats : n.config.heartbeat heartbeat = some granted)
    (authed : ((n.channelOf key).2.authenticate (n.channelOf key).1 token).1 = .ok ())
    (lastId : Int) :
    let due := Channel.due n.hub.host.now lastId (n.hub.retainedFor key)
    let out := n.subscribe key heartbeat token lastId
    (out.1 = .error (.channel (.maxConn n.config.maxConnsPerKey)) ↔
      n.hub.countFor key = n.config.maxConnsPerKey) ∧
    (n.hub.countFor key ≠ n.config.maxConnsPerKey → ∃ s, out.1 = .ok s ∧ s.key = key ∧
      s.heartbeat = granted ∧ Admitted n key lastId s out.2) ∧
    due.Pairwise (fun a b => a.id < b.id) ∧
    ∀ m, m ∈ due ↔ m ∈ n.hub.retainedFor key ∧ lastId < m.id ∧ m.isExpired n.hub.host.now = false := by
  intro due out
  have hgrant : n.grant key heartbeat = .ok granted := by
    simp only [grant, named, beats, owned, Bool.false_eq_true, if_false, if_true]
  obtain ⟨ch, hch⟩ := entered_channelOf hn.regular key
  obtain ⟨ch', he⟩ := hch.authenticate token
  have hout : out = _ := subscribe_takeIn hgrant authed lastId
  have hroom (room : n.hub.countFor key ≠ n.config.maxConnsPerKey) : ∃ s, out.1 = .ok s ∧ s.key = key ∧
      s.heartbeat = granted ∧ Admitted n key lastId s out.2 := by
    obtain ⟨s, n', htaken, hkey, hbeat, hadmitted⟩ := he.admitted hn inner valid deep room granted lastId
    rw [hout, htaken]
    exact ⟨s, rfl, hkey, hbeat, hadmitted⟩
  refine ⟨⟨fun hfull => ?_, fun full => ?_⟩, hroom, ?_, fun m => Channel.mem_due⟩
  · by_contra room
    obtain ⟨s, hok, -⟩ := hroom room
    cases hok.symm.trans hfull
  · rw [hout]
    exact he.takeIn_full hn inner deep full
  · obtain ⟨messages, hr⟩ := Channel.bound?_eq_some_iff.1 (he.terms inner).bound
    have hretained := he.retained
    rw [Channel.retained_log hr] at hretained
    exact (hretained ▸ messages.ascending).sublist List.filter_sublist

/-- What happens around a node that has just been made, to subscribers to "k". -/
def peerAfter (es : List GateEvent) : Node := ((Gate.start Gate.peer fun _ => ⟨"k", 0, none, 0⟩).run es).node

/-- Three messages have come for "k", and the first of them has expired. -/
def stockedNode : Node := peerAfter
  [.hub (.getOrCreate "k"), .hub (.call 0 (.push "k" ⟨1, [], .personal, 1700000000000000001⟩)),
    .hub (.call 0 (.push "k" ⟨2, [], .personal, Numeral.int64Max⟩)),
    .hub (.call 0 (.push "k" ⟨3, [], .personal, Numeral.int64Max⟩)),
    .hub (.host (.clock 1700000000000000001))]

/-- A subscriber comes in one go. -/
def visit (i : Nat) : List GateEvent := [.check i, .enter i, .authenticate i, .attach i, .replay i]

/-- Four subscribers to "k" have come. -/
def crowdedNode : Node := peerAfter (visit 0 ++ visit 1 ++ visit 2 ++ visit 3)

theorem config_peerAfter (es : List GateEvent) : (peerAfter es).config = Gate.peer.config :=
  Gate.config_run _ es

theorem inService_peerAfter {es : List GateEvent} (h : ∀ e ∈ es, e.Orderly) :
    (peerAfter es).InService :=
  ⟨_, _, _, _, _, _, es, Gate.made_peer, h, rfl⟩

theorem authenticate_peerAfter (es : List GateEvent) (id : ChannelId) :
    (((peerAfter es).channelOf "k").2.authenticate id none).1 = .ok () := by
  have hauth : ((peerAfter es).channelOf "k").2.config.tokenAuth = false := by
    show (peerAfter es).config.tokenAuth = false
    rw [config_peerAfter]
    rfl
  rw [authenticate, if_neg (Bool.eq_false_iff.1 hauth)]

/-- A subscriber is admitted with the two messages that have not expired.  A fifth one is refused. -/
theorem admitted_unless_full_fifth :
    (∃ s, (stockedNode.subscribe "k" 0 none 0).1 = .ok s ∧
      (stockedNode.subscribe "k" 0 none 0).2.hub.host.waiting s.conn = [⟨[], 2, 0⟩, ⟨[], 3, 0⟩] ∧
      ((stockedNode.subscribe "k" 0 none 0).2.hub.retainedFor "k").map Message.id = [2, 3]) ∧
    (crowdedNode.subscribe "k" 0 none 0).1 = .error (.channel (.maxConn 4)) := by
  have hstocked : stockedNode.InService := inService_peerAfter
    (by simp [GateEvent.Orderly, HubEvent.Orderly, ChannelCall.isQuiet])
  have hcrowded : crowdedNode.InService := inService_peerAfter (by simp [visit, GateEvent.Orderly])
  have hconfig : stockedNode.config = Gate.peer.config := config_peerAfter _
  have hconfig' : crowdedNode.config = Gate.peer.config := config_peerAfter _
  have hbeats : stockedNode.config.heartbeat 0 = some 5 := by rw [hconfig]; rfl
  have hbeats' : crowdedNode.config.heartbeat 0 = some 5 := by rw [hconfig']; rfl
  obtain ⟨howned, howned', hcount, hcount', hdue, hspared⟩ :
      stockedNode.owns "k" = true ∧ crowdedNode.owns "k" = true ∧ stockedNode.hub.countFor "k" = 0 ∧
      crowdedNode.hub.countFor "k" = 4 ∧
      (Channel.due stockedNode.hub.host.now 0 (stockedNode.hub.retainedFor "k")).map Message.push =
        [⟨[], 2, 0⟩, ⟨[], 3, 0⟩] ∧
      (Channel.spared stockedNode.hub.host.now 0 (stockedNode.hub.retainedFor "k")).map Message.id =
        [2, 3] := by decide +kernel
  obtain ⟨-, hroom, -⟩ := admitted_unless_full hstocked (by rw [hconfig]; rfl) (by rw [hconfig]; rfl)
    (by rw [hconfig]; decide) rfl howned hbeats (authenticate_peerAfter _ _) 0
  obtain ⟨hfull, -⟩ := admitted_unless_full hcrowded (by rw [hconfig']; rfl) (by rw [hconfig']; rfl)
    (by rw [hconfig']; decide) rfl howned' hbeats' (authenticate_peerAfter _ _) 0
  obtain ⟨s, hok, -, -, hadmitted⟩ := hroom (by rw [hcount, hconfig]; decide)
  refine ⟨⟨s, hok, hadmitted.waiting.trans hdue, ?_⟩, ?_⟩
  · rw [hadmitted.retained, hspared]
  · rw [hconfig'] at hfull
    exact hfull.2 hcount'

end Node

end PushRelay
