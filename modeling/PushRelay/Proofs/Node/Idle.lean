import PushRelay.Proofs.Node.Admission

/-!
# Subscriptions for which nothing waits

A subscriber who is let in while no message is due finds an empty queue (`Idle`), and it stays empty as long
as nothing happens to the connection.  The clock does not move on the way.

    (n.subscribe …).2.hub.host.now = n.hub.host.now                                      (now_subscribe)
    n.backlog key lastId = [] → n.subscribe … = (.ok s, n') → n'.Idle s                (idle_subscribe)
    Hub.Spares s.conn n.hub n'.hub → n.Idle s → n'.Idle s                             (Idle.spared)
-/

namespace PushRelay

theorem Host.get?_replaceConn {h : Host} {c : ConnId} {conn : Connection Push}
    (hc : h.conns.get? c = some conn) (conn' : Connection Push) :
    (h.updateConn c fun _ => conn').conns.get? c = some conn' := by
  refine (Table.get?_modify _ _ _ _).trans ?_
  rw [if_pos rfl, hc]
  rfl

namespace Channel

variable {ch : Channel} {h : Host} {key : String} {c : ConnId} {lastId now last : Int}
  {ms : List Message} {conn : Connection Push}

/-- The messages that a subscriber is to be written who has seen ids up to `lastId`. -/
def backlog (ch : Channel) (h : Host) (key : String) (lastId : Int) : List Message :=
  due h.now lastId <| match ch.retention with
    | .log messages _ => messages.entries
    | .store => ((h.history key lastId).1.toOption).getD []

theorem writeBacklog_none_due (hn : due now last ms = []) (conn : Connection Push) :
    (writeBacklog now ms conn last).conn = conn := by
  induction ms with
  | nil => rfl
  | cons m ms ih =>
    simp only [writeBacklog]
    split
    · next hle =>
      rw [due_cons_of_passed (Or.inl hle)] at hn
      exact ih hn
    · next hl =>
      split
      · next hx =>
        rw [due_cons_of_passed (Or.inr hx)] at hn
        exact ih hn
      · next hx =>
        have hm : m ∈ due now last (m :: ms) :=
          mem_due.2 ⟨List.mem_cons_self, Int.not_le.1 hl, Bool.eq_false_iff.2 hx⟩
        rw [hn] at hm
        cases hm

theorem room_of_attach (hok : (ch.attach h key c lastId).result = .ok ()) :
    ch.closed = false ∧ ch.isFull c = false := by
  unfold attach at hok
  split at hok
  · cases hok
  · split at hok
    · cases hok
    · exact ⟨Bool.eq_false_iff.2 ‹_›, Bool.eq_false_iff.2 ‹_›⟩

/-- Attaching a connection for which nothing is due leaves its queue as it is. -/
theorem attach_of_none_due (hok : (ch.attach h key c lastId).result = .ok ())
    (hn : ch.backlog h key lastId = []) (hc : h.conns.get? c = some conn) :
    (ch.attach h key c lastId).host.conns.get? c = some conn ∧
      (ch.attach h key c lastId).host.now = h.now := by
  obtain ⟨ho, hf⟩ := room_of_attach hok
  unfold backlog at hn
  cases hr : ch.retention with
  | log messages max =>
    rw [attach_log hr ho hf]
    exact ⟨hc, rfl⟩
  | store =>
    rw [attach_store_eq ho hf hr] at hok ⊢
    cases hh : (h.history key lastId).1 with
    | error e =>
      rw [hh] at hok
      cases hok
    | ok ms =>
      rw [hr, hh] at hn
      have hsame : (writeBacklog h.now ms conn lastId).conn = conn := writeBacklog_none_due hn conn
      have hkept := Host.get?_replaceConn (h := (h.history key lastId).2) hc
        (writeBacklog h.now ms conn lastId).conn
      rw [hsame] at hkept
      simp only [hc, hsame]
      split
      · exact ⟨hkept, rfl⟩
      · exact ⟨hkept, rfl⟩

theorem now_attach (ch : Channel) (h : Host) (key : String) (c : ConnId) (lastId : Int) :
    (ch.attach h key c lastId).host.now = h.now := by
  have ht := attach_taken ch h key c lastId
  generalize ch.attach h key c lastId = out at ht
  cases ht with
  | refused hh => rcases hh with rfl | rfl <;> rfl
  | joined => rfl
  | fed hf => exact hf.now

theorem now_replay (ch : Channel) (h : Host) (c : ConnId) (since : Int) :
    (ch.replay h c since).host.now = h.now := by
  have hr := replay_replayed ch h c since
  generalize ch.replay h c since = out at hr
  cases hr with
  | quiet => rfl
  | tried ht => exact ht.now

theorem due_retained_of_backlog (hn : ch.backlog h key lastId = []) :
    due h.now lastId ch.retained = [] := by
  unfold backlog at hn
  unfold retained
  split
  · next hr => rwa [hr] at hn
  · rfl

/-- A replay leaves the queue as it is, too. -/
theorem replay_of_none_due (hn : due h.now lastId ch.retained = []) (hc : h.conns.get? c = some conn) :
    (ch.replay h c lastId).host.conns.get? c = some conn := by
  unfold replay
  split
  · exact hc
  · next messages max hr =>
    rw [retained_log hr] at hn
    split
    · exact hc
    · simp only [hc]
      -- a replay starts no earlier than behind the ids that the subscriber has seen
      have hstart : lastId ≤ ch.replayStart c lastId := by
        unfold replayStart
        split
        · exact Int.le_max_right _ _
        · exact Int.le_refl _
      have hnone : due h.now (ch.replayStart c lastId) (messages.after (ch.replayStart c lastId)) =
          [] := by
        rw [due_after]
        refine List.eq_nil_iff_forall_not_mem.2 fun m hm => ?_
        obtain ⟨hmem, hlt, hx⟩ := mem_due.1 hm
        have hdue : m ∈ due h.now lastId messages.entries :=
          mem_due.2 ⟨hmem, Int.lt_of_le_of_lt hstart hlt, hx⟩
        rw [hn] at hdue
        cases hdue
      have hkept := Host.get?_replaceConn hc conn
      rw [writeBacklog_none_due hnone]
      split
      · exact hkept
      · exact hkept

end Channel

theorem Hub.now_call (h : Hub) (id : ChannelId) (call : ChannelCall)
    (hcall : ∀ ch, (call.act ch h.host).2.now = h.host.now) :
    (h.call id call).host.now = h.host.now := by
  rw [Hub.call_host]
  cases h.channels.get? id with
  | none => rfl
  | some ch => exact hcall ch

namespace Node

variable {n n' : Node} {key : String} {lastId : Int} {s : Subscription}

/-! ## The clock -/

theorem now_authenticate (n : Node) (id : ChannelId) (token : Option String) :
    (n.authenticate id token).2.hub.host.now = n.hub.host.now := by
  have ha := authenticate_asked n id token
  generalize n.authenticate id token = out at ha
  cases ha with
  | unasked => rfl
  | asked r ticket => exact n.hub.now_call id (.authToken ticket) fun _ => rfl

theorem now_attach (n : Node) (id : ChannelId) (key : String) (heartbeat : Nat) (lastId : Int) :
    (n.attach id key heartbeat lastId).2.hub.host.now = n.hub.host.now := by
  have hcall : (n.hub.run (n.joining id key lastId)).host.now = n.hub.host.now :=
    Hub.now_call _ id (.attach key n.hub.host.nextConn lastId)
      fun ch => ch.now_attach _ key _ lastId
  have hj := attach_joining n id key heartbeat lastId
  generalize n.attach id key heartbeat lastId = out at hj
  cases hj with
  | tooDeep => rfl
  | refused => exact hcall
  | joined =>
    refine Eq.trans ?_ hcall
    rw [through, Hub.run_append]
    rfl

theorem now_unsubscribe (n : Node) (s : Subscription) :
    (n.unsubscribe s).hub.host.now = n.hub.host.now :=
  n.hub.now_call s.channel (.detach s.conn) fun _ => rfl

theorem now_replay (n : Node) (s : Subscription) (lastId : Int) :
    (n.replay s lastId).2.hub.host.now = n.hub.host.now := by
  have hcall : (n.through [.call s.channel (.replay s.conn lastId)]).hub.host.now = n.hub.host.now :=
    n.hub.now_call s.channel (.replay s.conn lastId) fun ch => ch.now_replay _ s.conn lastId
  have hr := replay_resumed n s lastId
  generalize n.replay s lastId = out at hr
  cases hr with
  | resumed => exact hcall
  | ended => exact (now_unsubscribe _ s).trans hcall

/-- The clock does not move while a subscriber is let in or turned away. -/
theorem now_subscribe (n : Node) (key : String) (heartbeat : Nat) (token : Option String)
    (lastId : Int) : (n.subscribe key heartbeat token lastId).2.hub.host.now = n.hub.host.now := by
  unfold subscribe
  split
  · rfl
  · next granted _ =>
    let entered := n.channelOf key
    have hauth : (entered.2.authenticate entered.1 token).2.hub.host.now = n.hub.host.now :=
      (now_authenticate _ _ _).trans (congrArg Host.now (n.hub.getOrCreate_host key))
    simp only
    split
    · next ha => rwa [ha] at hauth
    · next n₂ ha =>
      rw [ha] at hauth
      have hattach := (now_attach n₂ entered.1 key granted lastId).trans hauth
      split
      · next hat => rwa [hat] at hattach
      · next s n₃ hat =>
        rw [hat] at hattach
        have hreplay := (now_replay n₃ s lastId).trans hattach
        split
        · next hr => rwa [hr] at hreplay
        · next hr => rwa [hr] at hreplay

/-! ## Nothing to wait for -/

/-- The messages that a subscriber to a key is to be written who has seen ids up to `lastId`. -/
def backlog (n : Node) (key : String) (lastId : Int) : List Message :=
  Channel.due n.hub.host.now lastId <| match n.config.channelKind with
    | .inner => n.hub.retainedFor key
    | .outer => ((n.hub.host.history key lastId).1.toOption).getD []

/-- The channel that a subscriber comes upon has the backlog of the key. -/
theorem Entered.backlog {id : ChannelId} {ch : Channel} {asked : Node} {h : Host}
    (he : Entered n key id ch asked) (now : h.now = n.hub.host.now)
    (store : h.store = n.hub.host.store) (lastId : Int) :
    ch.backlog h key lastId = n.backlog key lastId := by
  have hhistory : (h.history key lastId).1 = (n.hub.host.history key lastId).1 := by
    unfold Host.history
    rw [now, store]
  unfold Channel.backlog Node.backlog
  rw [now, hhistory]
  cases hkind : n.config.channelKind with
  | inner =>
    obtain ⟨messages, hr⟩ := Channel.bound?_eq_some_iff.1 (he.terms hkind).bound
    rw [← he.retained, Channel.retained_log hr, hr]
  | outer =>
    have hbound : ch.bound? = none := by
      rw [he.regular.hub.uniform id ch he.serves.2, he.regular.settings, he.config,
        ChannelSettings.bound?, show n.config.channelSettings.kind = .outer from hkind]
    rw [Channel.bound?_eq_none_iff.1 hbound]

/-- A subscription is attached, and the next payload has to be waited for. -/
structure Idle (n : Node) (s : Subscription) : Prop where
  attached : n.hub.isAttached s.channel s.conn = true
  pending : ∃ conn, n.hub.host.conns.get? s.conn = some conn ∧ conn.next.1 = .pending

theorem isAttached_of_spares {c : ConnId} (hs : Hub.Spares c n.hub n'.hub) (id : ChannelId) :
    n'.hub.isAttached id c = n.hub.isAttached id c := by
  have hattachment (h : Hub) : h.isAttached id c = (h.attachment? id c).isSome := by
    unfold Hub.isAttached Hub.attachment?
    cases h.channels.get? id <;> rfl
  rw [hattachment, hattachment, hs.attachment]

/-- As long as nothing happens to the connection, nothing waits on it. -/
theorem Idle.spared (hi : n.Idle s) (hs : Hub.Spares s.conn n.hub n'.hub) : n'.Idle s := by
  refine ⟨(isAttached_of_spares hs s.channel).trans hi.attached, ?_⟩
  rw [hs.conn]
  exact hi.pending

/-- A connection that is taken up while nothing is due. -/
theorem Entered.idle {id : ChannelId} {ch : Channel} {asked : Node} {heartbeat : Nat}
    (he : Entered n key id ch asked) (hn : n.backlog key lastId = [])
    (hok : asked.takeIn id key heartbeat lastId = (.ok s, n')) : n'.Idle s := by
  let c := asked.hub.host.nextConn
  let made := asked.hub.step (.host (.connect asked.config.connectionQueueDepth))
  let attach := ChannelCall.attach key c lastId
  let joined := made.call id attach
  have hj := attach_joining asked id key heartbeat lastId
  unfold takeIn at hok
  generalize asked.attach id key heartbeat lastId = o at hj hok
  cases hj with
  | tooDeep hd => cases hok
  | refused he => cases hok
  | joined hverdict =>
    have hr := (asked.through (asked.joining id key lastId ++ [counted])).replay_resumed
      ⟨key, heartbeat, c, id⟩ lastId
    dsimp only at hok
    generalize Node.replay _ _ _ = o at hr hok
    cases hr with
    | ended e => cases hok
    | resumed =>
      cases hok
      have hmade : made.Serves key id ch := he.serves
      have hget : made.host.conns.get? c = some (.new asked.config.connectionQueueDepth) :=
        (Table.get?_insert _ _ _ _).trans (if_pos rfl)
      rw [verdict_eq he.serves.2] at hverdict
      have hnone : ch.backlog made.host key lastId = [] :=
        (he.backlog (congrArg Host.now he.host) (congrArg Host.store he.host) lastId).trans hn
      obtain ⟨hconn, hnow⟩ := Channel.attach_of_none_due hverdict hnone hget
      -- the channel and the host when the connection is attached and counted
      let h := asked.hub.run (asked.joining id key lastId ++ [counted])
      have hserves : h.Serves key id (attach.act ch made.host).1 := hmade.call attach
      have hhost : h.host.conns = (attach.act ch made.host).2.conns ∧
          h.host.now = (attach.act ch made.host).2.now := by
        rw [← hmade.call_host attach]
        exact ⟨rfl, rfl⟩
      have hdue : Channel.due h.host.now lastId (attach.act ch made.host).1.retained = [] := by
        have hretained : (attach.act ch made.host).1.retained = ch.retained :=
          Channel.retained_congr (ch.attach_retention made.host key c lastId)
        rw [hretained, hhost.2]
        exact hnow ▸ Channel.due_retained_of_backlog hnone
      have hreplay := hserves.call_host (.replay c lastId)
      refine ⟨?_, .new asked.config.connectionQueueDepth, ?_, rfl⟩
      · have hquiet : (ChannelCall.replay c lastId).isQuiet = true := rfl
        refine (Hub.isAttached_quiet hquiet h id id c).trans ?_
        rw [Hub.isAttached, hserves.2]
        exact (Channel.attach_contains_ok hverdict c).2 (Or.inl rfl)
      · refine (congrArg (fun host : Host => host.conns.get? c) hreplay).trans ?_
        refine Channel.replay_of_none_due hdue ?_
        rw [hhost.1]
        exact hconn

/-- A subscriber who is let in while no message is due finds nothing waiting. -/
theorem idle_subscribe (hn : n.Reachable) {heartbeat : Nat} {token : Option String}
    (hok : n.subscribe key heartbeat token lastId = (.ok s, n'))
    (nothing : n.backlog key lastId = []) :
    n'.Idle s := by
  cases hgrant : n.grant key heartbeat with
  | error e =>
    simp only [subscribe, hgrant] at hok
    cases hok
  | ok granted =>
    cases hauth : ((n.channelOf key).2.authenticate (n.channelOf key).1 token).1 with
    | error e =>
      rcases hasked : (n.channelOf key).2.authenticate (n.channelOf key).1 token with ⟨r, asked⟩
      rw [hasked] at hauth
      cases hauth
      simp only [subscribe, hgrant, hasked] at hok
      cases hok
    | ok =>
      obtain ⟨ch, hch⟩ := entered_channelOf hn.regular key
      obtain ⟨ch', he⟩ := hch.authenticate token
      rw [subscribe_takeIn hgrant hauth lastId] at hok
      exact he.idle nothing hok

/-- A subscription that has ended is not attached. -/
theorem isAttached_unsubscribe (n : Node) (s : Subscription) :
    (n.unsubscribe s).hub.isAttached s.channel s.conn = false :=
  Bool.eq_false_iff.2 fun ha =>
    ((Hub.isAttached_detach n.hub s.channel s.conn s.channel s.conn).1 ha).1 ⟨rfl, rfl⟩

end Node

end PushRelay
