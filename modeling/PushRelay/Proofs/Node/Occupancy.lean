import Mathlib.Data.List.Nodup
import PushRelay.Proofs.Hub.Attachments
import PushRelay.Proofs.Node.Run
import PushRelay.Proofs.Node.Stranding

/-!
# Subscriptions and connections

A subscription is live from the moment its connection is attached until it is dropped, be it by the
subscriber or by a replay that fails.  `Seated h live` says that the connections of a hub are those of the
live subscriptions: each is attached as long as its channel is open, nobody else is, and the gauge counts
them.

    Seated h live → Quiet h h' → Seated h' live                                        (Seated.quiet)
    Seated n.hub live → (i, s) ∈ live → Seated (n.unsubscribe s).hub (live.erase (i, s))  (Seated.leave)
-/

namespace PushRelay

/-- The live subscriptions with the numbers of their subscribers, and what they come to in a hub. -/
structure Seated (h : Hub) (live : List (Nat × Subscription)) : Prop where
  steady : h.Steady
  conns : (live.map (·.2.conn)).Nodup
  known : ∀ x ∈ live, x.2.conn < h.host.nextConn ∧ x.2.channel < h.nextChannel
  attached : ∀ id c, h.isAttached id c = true ↔
    h.IsOpen id ∧ ∃ x ∈ live, x.2.channel = id ∧ x.2.conn = c
  gauge : h.host.metrics.connections = live.length

namespace Seated

variable {h h' : Hub} {n : Node} {live : List (Nat × Subscription)} {i : Nat} {s : Subscription}

/-- No two live subscriptions share a connection. -/
theorem eq_of_conn (hs : Seated h live) {x y : Nat × Subscription} (hx : x ∈ live) (hy : y ∈ live)
    (hc : x.2.conn = y.2.conn) : x = y := List.inj_on_of_nodup_map hs.conns hx hy hc

theorem nodup (hs : Seated h live) : live.Nodup := .of_map _ hs.conns

/-- A connection that has not been made yet is attached nowhere. -/
theorem isAttached_of_le (hs : Seated h live) {c : ConnId} (hc : h.host.nextConn ≤ c)
    (id : ChannelId) : h.isAttached id c = false := by
  rw [Bool.eq_false_iff]
  intro ha
  obtain ⟨-, x, hx, -, rfl⟩ := (hs.attached id c).1 ha
  exact absurd (hs.known x hx).1 (Nat.not_lt_of_le hc)

theorem quiet (hs : Seated h live) (hq : Hub.Quiet h h') (hs' : h'.Steady) : Seated h' live where
  steady := hs'
  conns := hs.conns
  known := by
    intro x hx
    obtain ⟨hconn, hchannel⟩ := hs.known x hx
    exact ⟨Nat.lt_of_lt_of_le hconn hq.nextConn, Nat.lt_of_lt_of_le hchannel hq.later.next⟩
  attached := by
    intro id c
    rw [hq.attached, hs.attached]
    constructor
    · rintro ⟨⟨-, hx⟩, ho⟩
      exact ⟨ho, hx⟩
    · rintro ⟨ho, x, hx, rfl, hc⟩
      -- a channel that is open and was there before has been open before
      have hold := (hq.later.kept x.2.channel (hs.known x hx).2 ho).1
      exact ⟨⟨hold, x, hx, rfl, hc⟩, ho⟩
  gauge := hq.connections.trans hs.gauge

theorem event (hs : Seated h live) {e : HubEvent} (ho : e.Orderly) : Seated (h.step e) live :=
  hs.quiet (hs.steady.quiet_step ho) (hs.steady.step e)

/-- A connection made last is attached, and counted. -/
theorem join (hs : Seated h live) (i : Nat) {lastId : Int}
    (hok : (h.attach s.channel s.key s.conn lastId).1 = .ok ()) (hlt : s.conn < h.host.nextConn)
    (hnew : ∀ x ∈ live, x.2.conn ≠ s.conn) :
    Seated ((h.call s.channel (.attach s.key s.conn lastId)).step Node.counted) ((i, s) :: live) := by
  have hsteady := hs.steady.step (.call s.channel (.attach s.key s.conn lastId))
  have hnext := (Hub.call_rest h s.channel (.attach s.key s.conn lastId)).2
  obtain ⟨ch, hch, -⟩ := Hub.attach_ok_get? hok
  refine ⟨hsteady.step Node.counted, ?_, fun x hx => ?_, fun id c => ?_, ?_⟩
  · refine List.nodup_cons.2 ⟨fun hmem => ?_, hs.conns⟩
    obtain ⟨x, hx, hc⟩ := List.mem_map.1 hmem
    exact hnew x hx hc
  · have honward := (Hub.call_onward h s.channel (.attach s.key s.conn lastId)).next
    show x.2.conn < (h.call s.channel _).host.nextConn ∧ x.2.channel < (h.call s.channel _).nextChannel
    rw [hnext]
    rcases List.mem_cons.1 hx with rfl | hx
    · exact ⟨Nat.lt_of_lt_of_le hlt honward, hs.steady.lt_of_get? hch⟩
    · exact ⟨Nat.lt_of_lt_of_le (hs.known x hx).1 honward, (hs.known x hx).2⟩
  · show (h.call s.channel (.attach s.key s.conn lastId)).isAttached id c = true ↔
      (h.call s.channel (.attach s.key s.conn lastId)).IsOpen id ∧ _
    have hopen : h.IsOpen s.channel := (Hub.isOpen_call h s.channel _ s.channel).1
      (hsteady.isOpen_of_isAttached ((Hub.isAttached_attach_ok hok _ _).2 (Or.inl ⟨rfl, rfl⟩)))
    rw [Hub.isAttached_attach_ok hok, hs.attached, Hub.isOpen_call]
    constructor
    · rintro (⟨rfl, rfl⟩ | ⟨ho, x, hx, hid, hc⟩)
      · exact ⟨hopen, (i, s), List.mem_cons_self, rfl, rfl⟩
      · exact ⟨ho, x, List.mem_cons_of_mem _ hx, hid, hc⟩
    · rintro ⟨ho, x, hx, hid, hc⟩
      rcases List.mem_cons.1 hx with rfl | hx
      · exact Or.inl ⟨hid.symm, hc.symm⟩
      · exact Or.inr ⟨ho, x, hx, hid, hc⟩
  · show (h.call s.channel _).host.metrics.connections + 1 = _
    rw [Hub.call_connections, hs.gauge]
    rfl

/-- A subscription is dropped. -/
theorem leave (hs : Seated n.hub live) (hx : (i, s) ∈ live) :
    Seated (n.unsubscribe s).hub (live.erase (i, s)) := by
  let detached := n.hub.call s.channel (.detach s.conn)
  have hchannels : (n.unsubscribe s).hub.channels = detached.channels := rfl
  have hopen (id : ChannelId) : (n.unsubscribe s).hub.IsOpen id ↔ n.hub.IsOpen id := by
    rw [← Hub.isOpen_call n.hub s.channel (.detach s.conn)]
    rfl
  have herase (x : Nat × Subscription) : x ∈ live.erase (i, s) ↔ x ≠ (i, s) ∧ x ∈ live :=
    hs.nodup.mem_erase_iff
  refine ⟨hs.steady.run (Node.parting s), hs.conns.sublist (List.erase_sublist.map _), fun x hx' => ?_,
    fun id c => ?_, ?_⟩
  · have honward := (Hub.call_onward n.hub s.channel (.detach s.conn)).next
    obtain ⟨hconn, hchannel⟩ := hs.known x ((herase x).1 hx').2
    exact ⟨Nat.lt_of_lt_of_le hconn honward, hchannel⟩
  · have ha : (n.unsubscribe s).hub.isAttached id c = detached.isAttached id c :=
      Hub.isAttached_congr (congrArg (·.get? id) hchannels) c
    rw [ha, Hub.isAttached_detach, hs.attached, hopen]
    constructor
    · rintro ⟨hne, ho, x, hx', rfl, rfl⟩
      refine ⟨ho, x, (herase x).2 ⟨?_, hx'⟩, rfl, rfl⟩
      rintro rfl
      exact hne ⟨rfl, rfl⟩
    · rintro ⟨ho, x, hx', rfl, rfl⟩
      obtain ⟨hne, hmem⟩ := (herase x).1 hx'
      exact ⟨fun heq => hne (hs.eq_of_conn hmem hx heq.2), ho, x, hmem, rfl, rfl⟩
  · have hgauge : (n.unsubscribe s).hub.host.metrics.connections =
        detached.host.metrics.connections - 1 := rfl
    have hpos := List.length_pos_of_mem hx
    rw [hgauge, Hub.call_connections, hs.gauge, List.length_erase_of_mem hx]
    omega

/-- A connection that has just been made. -/
theorem connected (hs : Seated n.hub live) :
    Seated (n.hub.step (.host (.connect n.config.connectionQueueDepth))) live :=
  hs.event trivial

theorem attach_ok (hs : Seated n.hub live) (i : Nat) {id : ChannelId} {key : String} {heartbeat : Nat}
    {lastId : Int} {n' : Node} (ha : n.attach id key heartbeat lastId = (.ok s, n')) :
    Seated n'.hub ((i, s) :: live) := by
  have hj := n.attach_joining id key heartbeat lastId
  rw [ha] at hj
  cases hj with
  | joined hok =>
    exact hs.connected.join (s := ⟨key, heartbeat, n.hub.host.nextConn, id⟩) i hok (Nat.lt_succ_self _)
      (fun x hx hc => absurd (hs.known x hx).1 (Nat.not_lt_of_le (Nat.le_of_eq hc.symm)))

theorem attach_error (hs : Seated n.hub live) {id : ChannelId} {key : String} {heartbeat : Nat}
    {lastId : Int} {e : Refusal} {n' : Node} (ha : n.attach id key heartbeat lastId = (.error e, n')) :
    Seated n'.hub live := by
  have hj := n.attach_joining id key heartbeat lastId
  rw [ha] at hj
  cases hj with
  | tooDeep => exact hs
  | refused he =>
    have hnone := hs.isAttached_of_le (Nat.le_refl n.hub.host.nextConn) id
    have hsteady := hs.connected.steady
    exact hs.connected.quiet (hsteady.quiet_attach_error he hnone)
      (hsteady.step (.call id (.attach key _ lastId)))

theorem replay_ok (hs : Seated n.hub live) {lastId : Int} {n' : Node}
    (hr : n.replay s lastId = (.ok (), n')) : Seated n'.hub live := by
  have hresumed := n.replay_resumed s lastId
  rw [hr] at hresumed
  cases hresumed with
  | resumed => exact hs.event (e := .call s.channel (.replay s.conn lastId)) rfl

/-- A replay that fails drops the subscription. -/
theorem replay_error (hs : Seated n.hub live) (hx : (i, s) ∈ live) {lastId : Int} {e : Refusal}
    {n' : Node} (hr : n.replay s lastId = (.error e, n')) : Seated n'.hub (live.erase (i, s)) := by
  have hresumed := n.replay_resumed s lastId
  rw [hr] at hresumed
  cases hresumed with
  | ended e =>
    have hcall : Seated (n.through [.call s.channel (.replay s.conn lastId)]).hub live :=
      hs.event (e := .call s.channel (.replay s.conn lastId)) rfl
    exact hcall.leave hx

theorem authenticate (hs : Seated n.hub live) (id : ChannelId) (token : Option String) :
    Seated (n.authenticate id token).2.hub live := by
  have ha := n.authenticate_asked id token
  generalize n.authenticate id token = out at ha
  cases ha with
  | unasked r => exact hs
  | asked r ticket => exact hs.event (e := .call id (.authToken ticket)) rfl

/-- A channel's key loses it and the channel stays open for the time being. -/
theorem unkeyed (hs : Seated h live) {r : Registry} (hs' : ({ h with registry := r } : Hub).Steady) :
    Seated { h with registry := r } live :=
  ⟨hs', hs.conns, hs.known, hs.attached, hs.gauge⟩

/-- A channel that has lost its key is closed. -/
theorem closeChannel (hs : Seated h live) {id : ChannelId}
    (hid : ∀ key, h.registry.find? key ≠ some id) : Seated (h.closeChannel id) live :=
  have hd := Hub.dropped_unkeyed hs.steady.placed hid
  hs.quiet (hs.steady.quiet_dropped hd (congrArg Metrics.connections (Hub.closeChannel_metrics h id)))
    (hs.steady.dropped hd)

/-! ## Counting -/

/-- The connections of a hub are those of the live subscriptions whose channels have keys. -/
theorem connectionCount (hs : Seated h live) :
    h.connectionCount = live.countP fun x => x.2.channel ∈ h.registry.entries.map Prod.snd := by
  have hcount := hs.steady.connectionCount_eq_countP
    (live.map fun x => (x.2.channel, x.2.conn)) (by rw [List.map_map]; exact hs.conns)
    fun id c => by
      rw [hs.attached]
      simp [Prod.ext_iff]
  rw [hcount, List.countP_map]
  rfl

end Seated

/-! ## One step -/

/-- Only subscribers attach connections and let them go, and nobody else counts them. -/
def GateEvent.Orderly : GateEvent → Prop
  | .hub e => e.Orderly
  | _ => True

namespace Gate

variable {g g' : Gate} {n : Node} {i j : Nat} {live : List (Nat × Subscription)} {s : Subscription}

/-- The connections of the gate's node are those of the live subscriptions of its subscribers. -/
def Occupied (g : Gate) (live : List (Nat × Subscription)) : Prop :=
  Seated g.node.hub live ∧ ∀ i s, (i, s) ∈ live ↔ (g.callers i).entry.subscription? = some s

variable (h : Occupied g live)
include h

/-- A step that takes a subscriber neither in nor out. -/
theorem Occupied.pass (hs : Seated n.hub live) {c : Caller}
    (hsub : c.entry.subscription? = (g.callers i).entry.subscription?) :
    Occupied ({ g with node := n }.setCaller i c) live := by
  refine ⟨hs, fun j t => ?_⟩
  rw [h.2]
  show _ ↔ (if j = i then c else g.callers j).entry.subscription? = some t
  split
  · next hj => rw [hj, hsub]
  · rfl

theorem Occupied.join (hs : Seated n.hub ((i, s) :: live)) {entry : Entry}
    (hold : (g.callers i).entry.subscription? = none) (hnew : entry.subscription? = some s) :
    Occupied (g.move i n entry) ((i, s) :: live) := by
  refine ⟨hs, fun j t => ?_⟩
  rw [List.mem_cons, h.2]
  show _ ↔ (if j = i then _ else g.callers j).entry.subscription? = some t
  split
  · next hj =>
    rw [hj, hold, hnew]
    simp [eq_comm]
  · next hj => simp [hj]

theorem Occupied.leave (hs : Seated n.hub (live.erase (i, s))) {entry : Entry}
    (hold : (g.callers i).entry.subscription? = some s) (hnew : entry.subscription? = none) :
    Occupied (g.move i n entry) (live.erase (i, s)) := by
  refine ⟨hs, fun j t => ?_⟩
  rw [h.1.nodup.mem_erase_iff, h.2]
  show _ ↔ (if j = i then _ else g.callers j).entry.subscription? = some t
  split
  · next hj =>
    rw [hj, hold, hnew]
    simp [eq_comm]
  · next hj => simp [hj]

theorem Occupied.check (i : Nat) : Occupied (g.check i) live := by
  unfold Gate.check
  simp only
  split
  · next he =>
    have hsub : none = (g.callers i).entry.subscription? := (congrArg Entry.subscription? he).symm
    split
    · exact h.pass h.1 hsub
    · exact h.pass h.1 hsub
  · exact h

theorem Occupied.enter (i : Nat) : Occupied (g.enter i) live := by
  unfold Gate.enter
  simp only
  split
  · next he =>
    exact h.pass (h.1.event (e := .getOrCreate (g.callers i).key) trivial)
      (congrArg Entry.subscription? he).symm
  · exact h

theorem Occupied.authenticate (i : Nat) : Occupied (g.authenticate i) live := by
  unfold Gate.authenticate
  simp only
  split
  · next heartbeat id he =>
    have hsub : none = (g.callers i).entry.subscription? := (congrArg Entry.subscription? he).symm
    have hs := h.1.authenticate id (g.callers i).token
    split
    · next ha =>
      rw [ha] at hs
      exact h.pass hs hsub
    · next ha =>
      rw [ha] at hs
      exact h.pass hs hsub
  · exact h

/-- A subscriber is attached, and is one more that is live, or is turned away. -/
theorem Occupied.attach (i : Nat) : ∃ live', Occupied (g.attach i) live' := by
  unfold Gate.attach
  simp only
  split
  · next heartbeat id he =>
    have hsub : (g.callers i).entry.subscription? = none := congrArg Entry.subscription? he
    split
    · next s node ha => exact ⟨_, h.join (h.1.attach_ok i ha) hsub rfl⟩
    · next ha => exact ⟨live, h.pass (h.1.attach_error ha) hsub.symm⟩
  · exact ⟨live, h⟩

/-- A subscriber gets its backlog, or is dropped. -/
theorem Occupied.replay (i : Nat) : ∃ live', Occupied (g.replay i) live' := by
  unfold Gate.replay
  simp only
  split
  · next s he =>
    have hsub : (g.callers i).entry.subscription? = some s := congrArg Entry.subscription? he
    split
    · next hr => exact ⟨live, h.pass (h.1.replay_ok hr) hsub.symm⟩
    · next hr => exact ⟨_, h.leave (h.1.replay_error ((h.2 i s).2 hsub) hr) hsub rfl⟩
  · exact ⟨live, h⟩

theorem Occupied.unsubscribe (i : Nat) : ∃ live', Occupied (g.leave i) live' := by
  unfold Gate.leave
  split
  · next s he =>
    have hsub : (g.callers i).entry.subscription? = some s := congrArg Entry.subscription? he
    exact ⟨_, h.leave (h.1.leave ((h.2 i s).2 hsub)) hsub rfl⟩
  · exact ⟨live, h⟩

theorem Occupied.prepare (nodes : List String) (vnodes : Nat) :
    Occupied (g.prepare nodes vnodes) live := by
  unfold Gate.prepare
  split
  · exact h
  · split
    · exact h
    · exact h

/-- Nobody comes or goes with the steps of a migration. -/
theorem Occupied.proceed (hg : Guarded g) : Occupied g.proceed live := by
  have hd := g.proceed_due
  generalize g.proceed = g' at hd
  cases hd with
  | nothing _ => exact h
  | scan hm hb => exact ⟨h.1.unkeyed (hg.scan hm hb).steady, h.2⟩
  | closeNext hm hp => exact ⟨h.1.closeChannel (hg.pending _ (mem_pending hm hp)).2, h.2⟩
  | @install m hm hb hp =>
    let counted (n : Metrics) : Metrics :=
      { n with channelsMigrated := n.channelsMigrated + m.moved.length }
    exact ⟨h.1.event (e := .host (.count counted)) fun _ => rfl, h.2⟩

theorem Occupied.step (hg : Guarded g) {e : GateEvent} (ho : e.Orderly) :
    ∃ live', Occupied (g.step e) live' := by
  cases e with
  | check i => exact ⟨live, h.check i⟩
  | enter i => exact ⟨live, h.enter i⟩
  | authenticate i => exact ⟨live, h.authenticate i⟩
  | attach i => exact h.attach i
  | replay i => exact h.replay i
  | leave i => exact h.unsubscribe i
  | prepare nodes vnodes => exact ⟨live, h.prepare nodes vnodes⟩
  | proceed => exact ⟨live, h.proceed hg⟩
  | hub e => exact ⟨live, h.1.event ho, h.2⟩

theorem Occupied.run (hg : Guarded g) {es : List GateEvent} (ho : ∀ e ∈ es, e.Orderly) :
    ∃ live', Occupied (g.run es) live' := by
  induction es generalizing g live with
  | nil => exact ⟨live, h⟩
  | cons e es ih =>
    obtain ⟨live', h'⟩ := h.step hg (ho e List.mem_cons_self)
    exact ih h' (hg.step e) fun e' he' => ho e' (List.mem_cons_of_mem e he')

end Gate

/-! ## Steps of other subscribers -/

/-- The subscriber whose step it is. -/
def GateEvent.caller? : GateEvent → Option Nat
  | .check i | .enter i | .authenticate i | .attach i | .replay i | .leave i => some i
  | .prepare .. | .proceed | .hub _ => none

namespace Gate

variable {g : Gate} {n : Node} {c : ConnId}

/-- What a step does to the node.  A step that is not due does nothing. -/
inductive Works (g : Gate) : GateEvent → Node → Prop
  | idle (e : GateEvent) : Works g e g.node
  | enter (i : Nat) : Works g (.enter i) (g.node.channelOf (g.callers i).key).2
  | authenticate (i : Nat) (id : ChannelId) :
      Works g (.authenticate i) (g.node.authenticate id (g.callers i).token).2
  | attach (i : Nat) (id : ChannelId) (heartbeat : Nat) : Works g (.attach i)
      (g.node.attach id (g.callers i).key heartbeat (g.callers i).lastId).2
  | replay {i : Nat} {s : Subscription} (hi : (g.callers i).entry.subscription? = some s) :
      Works g (.replay i) (g.node.replay s (g.callers i).lastId).2
  | leave {i : Nat} {s : Subscription} (hi : (g.callers i).entry.subscription? = some s) :
      Works g (.leave i) (g.node.unsubscribe s)
  | scan (registry : Registry) :
      Works g .proceed { g.node with hub := { g.node.hub with registry } }
  | closeNext {id : ChannelId} (hid : id ∈ g.pending) :
      Works g .proceed { g.node with hub := g.node.hub.closeChannel id }
  | install (ring : Ring) (f : Metrics → Metrics) : Works g .proceed
      { g.node with hub := { g.node.hub with host := g.node.hub.host.count f }, ring }
  | hub (e : HubEvent) : Works g (.hub e) (g.node.through [e])

theorem step_works (g : Gate) (e : GateEvent) : Works g e (g.step e).node := by
  cases e with
  | check i =>
    simp only [step, check]
    split
    · split
      · exact .idle _
      · exact .idle _
    · exact .idle _
  | enter i =>
    simp only [step, enter]
    split
    · exact .enter i
    · exact .idle _
  | authenticate i =>
    simp only [step, authenticate]
    split
    · next heartbeat id _ =>
      have hw := Works.authenticate (g := g) i id
      split
      · next ha => rwa [ha] at hw
      · next ha => rwa [ha] at hw
    · exact .idle _
  | attach i =>
    simp only [step, attach]
    split
    · next heartbeat id _ =>
      have hw := Works.attach (g := g) i id heartbeat
      split
      · next ha => rwa [ha] at hw
      · next ha => rwa [ha] at hw
    · exact .idle _
  | replay i =>
    simp only [step, replay]
    split
    · next s he =>
      have hw := Works.replay (congrArg Entry.subscription? he)
      split
      · next hr => rwa [hr] at hw
      · next hr => rwa [hr] at hw
    · exact .idle _
  | leave i =>
    simp only [step, leave]
    split
    · next s he => exact .leave (congrArg Entry.subscription? he)
    · exact .idle _
  | prepare nodes vnodes =>
    simp only [step, prepare]
    split
    · exact .idle _
    · split
      · exact .idle _
      · exact .idle _
  | proceed =>
    have hd := g.proceed_due
    show Works g .proceed g.proceed.node
    generalize g.proceed = g' at hd
    cases hd with
    | nothing _ => exact .idle _
    | scan _ _ => exact .scan _
    | closeNext hm hp => exact .closeNext (mem_pending hm hp)
    | install _ _ _ => exact .install _ _
  | hub e => exact .hub e

theorem spares_authenticate (n : Node) (id : ChannelId) (token : Option String) :
    Hub.Spares c n.hub (n.authenticate id token).2.hub := by
  have ha := n.authenticate_asked id token
  generalize n.authenticate id token = out at ha
  cases ha with
  | unasked r => exact .refl c n.hub
  | asked r ticket => exact Hub.spares_call (.authToken ticket) rfl n.hub id

/-- A connection that was there before notices nothing when another is made and attached. -/
theorem spares_attach (hc : c < n.hub.host.nextConn) (id : ChannelId) (key : String) (heartbeat : Nat)
    (lastId : Int) : Hub.Spares c n.hub (n.attach id key heartbeat lastId).2.hub := by
  have hne : c ≠ n.hub.host.nextConn := Nat.ne_of_lt hc
  let connected := n.hub.step (.host (.connect n.config.connectionQueueDepth))
  have hconnect : Hub.Spares c n.hub connected :=
    ⟨fun _ => rfl, (Table.get?_insert _ _ _ _).trans (if_neg hne)⟩
  have hcall : Hub.Spares c n.hub (n.hub.run (n.joining id key lastId)) :=
    hconnect.trans (Hub.spares_call (.attach key _ lastId) (decide_eq_false hne) connected id)
  have hj := n.attach_joining id key heartbeat lastId
  generalize n.attach id key heartbeat lastId = out at hj
  cases hj with
  | tooDeep => exact .refl c n.hub
  | refused he => exact hcall
  | joined hok => exact ⟨hcall.attachment, hcall.conn⟩

theorem spares_unsubscribe {s : Subscription} (hc : c ≠ s.conn) (n : Node) :
    Hub.Spares c n.hub (n.unsubscribe s).hub := by
  have hcall : Hub.Spares c n.hub (n.hub.call s.channel (.detach s.conn)) :=
    Hub.spares_call (.detach s.conn) (decide_eq_false hc) n.hub s.channel
  refine ⟨hcall.attachment, ?_⟩
  show (((n.hub.call s.channel (.detach s.conn)).host.closeConn s.conn).updateConn s.conn
    Connection.dropReader).conns.get? c = _
  rw [Host.get?_updateConn_of_ne _ hc, Host.closeConn, Host.get?_updateConn_of_ne _ hc]
  exact hcall.conn

theorem spares_replay {s : Subscription} (hc : c ≠ s.conn) (n : Node) (lastId : Int) :
    Hub.Spares c n.hub (n.replay s lastId).2.hub := by
  have hcall : Hub.Spares c n.hub (n.through [.call s.channel (.replay s.conn lastId)]).hub :=
    Hub.spares_call (.replay s.conn lastId) (decide_eq_false hc) n.hub s.channel
  have hr := n.replay_resumed s lastId
  generalize n.replay s lastId = out at hr
  cases hr with
  | resumed => exact hcall
  | ended e => exact hcall.trans (spares_unsubscribe hc _)

/-- No step of a subscriber is noticed by the connection of another. -/
theorem Occupied.spares {live : List (Nat × Subscription)} (h : Occupied g live) {e : GateEvent}
    {i j : Nat} {t : Subscription} (hi : e.caller? = some i) (hne : i ≠ j)
    (hj : (g.callers j).entry.subscription? = some t) :
    Hub.Spares t.conn g.node.hub (g.step e).node.hub := by
  have ht : (j, t) ∈ live := (h.2 j t).2 hj
  -- the subscriber whose step it is has a connection of its own, if any
  have hother {s : Subscription} (hs : (g.callers i).entry.subscription? = some s) :
      t.conn ≠ s.conn := by
    intro hc
    have heq := h.1.eq_of_conn ht ((h.2 i s).2 hs) hc
    exact hne (Prod.mk.inj heq).1.symm
  have hw := step_works g e
  generalize (g.step e).node = n at hw
  cases hw with
  | idle => exact .refl _ _
  | enter => exact h.1.steady.spares_getOrCreate t.conn _
  | authenticate => exact spares_authenticate g.node _ _
  | attach => exact spares_attach (h.1.known (j, t) ht).1 _ _ _ _
  | replay hs =>
    cases hi
    exact spares_replay (hother hs) g.node _
  | leave hs =>
    cases hi
    exact spares_unsubscribe (hother hs) g.node
  | scan => cases hi
  | closeNext => cases hi
  | install => cases hi
  | hub => cases hi

/-! ## Whole runs -/

theorem HubOnly.regular {n n' : Node} (hn : HubOnly n n') (hr : n.hub.Regular) :
    n'.hub.Regular ∧ n'.hub.settings = n.hub.settings := by
  obtain ⟨es, hes⟩ := hn.hub
  rw [hes]
  exact ⟨hr.run es, Hub.run_settings n.hub es⟩

/-- A hub that loses keys or gets another host, and stays steady, stays regular. -/
theorem regular_of_channels {h h' : Hub} (hr : h.Regular) (hs : h'.Steady)
    (hc : h'.channels = h.channels) (hsettings : h'.settings = h.settings) : h'.Regular :=
  ⟨hs, by rw [hc, hsettings]; exact hr.channels⟩

/-- Whatever happens at a gate, the channels go by the settings. -/
theorem Guarded.regular_step (h : Guarded g) (hr : g.node.hub.Regular) (e : GateEvent) :
    (g.step e).node.hub.Regular ∧ (g.step e).node.hub.settings = g.node.hub.settings := by
  have hsteady := (h.step e).steady
  have hw := step_works g e
  generalize (g.step e).node = n at hw hsteady
  cases hw with
  | idle => exact ⟨hr, rfl⟩
  | enter => exact (hubOnly_channelOf g.node _).regular hr
  | authenticate => exact (hubOnly_authenticate g.node _ _).regular hr
  | attach => exact (hubOnly_attach g.node _ _ _ _).regular hr
  | replay => exact (hubOnly_replay g.node _ _).regular hr
  | leave => exact (hubOnly_unsubscribe g.node _).regular hr
  | scan => exact ⟨regular_of_channels hr hsteady rfl rfl, rfl⟩
  | @closeNext id hid =>
    have hd := Hub.dropped_unkeyed hr.steady.placed (h.pending id hid).2
    have hs := Hub.closeChannels_settings g.node.hub [id]
    exact ⟨hr.change (.dropped _ _ hd) hs, hs⟩
  | install => exact ⟨regular_of_channels hr hsteady rfl rfl, rfl⟩
  | hub e => exact (hubOnly_through g.node [e]).regular hr

theorem Guarded.regular_run (h : Guarded g) (hr : g.node.hub.Regular) (es : List GateEvent) :
    (g.run es).node.hub.Regular ∧ (g.run es).node.hub.settings = g.node.hub.settings := by
  induction es generalizing g with
  | nil => exact ⟨hr, rfl⟩
  | cons e es ih =>
    obtain ⟨hr', hs⟩ := h.regular_step hr e
    obtain ⟨hrun, hsettings⟩ := ih (h.step e) hr'
    exact ⟨hrun, hsettings.trans hs⟩

/-- On a node that has just been made, the channels are always what its configuration makes of them. -/
theorem regular_start {hash : String → UInt32} {config : Config} {store : Option Store} {now : Int}
    (made : Node.withStore hash config store now = .ok n) (requests : Nat → SubscribeRequest)
    (es : List GateEvent) : ((start n requests).run es).node.hub.Regular ∧
      ((start n requests).run es).node.hub.settings = config.channelSettings := by
  obtain ⟨ids, hmade⟩ := Node.made_hub made
  obtain ⟨registry, -, hempty⟩ := Hub.new_ok hmade
  have hstart : Guarded (start n requests) := guarded_start (Hub.sound_new hmade) requests
  obtain ⟨hregular, hsettings⟩ := hstart.regular_run (Hub.regular_new hmade) es
  exact ⟨hregular, hsettings.trans (congrArg Hub.settings hempty)⟩

theorem occupied_start {hash : String → UInt32} {config : Config} {store : Option Store} {now : Int}
    (made : Node.withStore hash config store now = .ok n) (requests : Nat → SubscribeRequest) :
    Occupied (start n requests) [] := by
  obtain ⟨ids, hmade⟩ := Node.made_hub made
  have hsteady := Hub.sound_new hmade
  obtain ⟨registry, -, hhub⟩ := Hub.new_ok hmade
  refine ⟨⟨hsteady.toSteady, List.nodup_nil, nofun, fun id c => ?_, ?_⟩, fun _ _ => ⟨nofun, nofun⟩⟩
  · show n.hub.isAttached id c = true ↔ n.hub.IsOpen id ∧ _
    rw [hhub]
    exact ⟨nofun, fun h => by obtain ⟨-, x, hx, -⟩ := h; cases hx⟩
  · show n.hub.host.metrics.connections = 0
    rw [hhub]
    rfl

/-- A live subscription's channel is open only as long as the key has it, or while a migration is yet to
close it. -/
theorem Guarded.pending_or_keyed (h : Guarded g) {i : Nat} {s : Subscription}
    (hi : (g.callers i).entry.subscription? = some s) (ho : g.node.hub.IsOpen s.channel) :
    s.channel ∈ g.pending ∨ g.node.hub.registry.find? s.key = some s.channel := by
  have ht := h.callers i
  have hchannel : (g.callers i).entry.channel? = some s.channel := by
    cases he : (g.callers i).entry with
    | attached s' => rw [he] at hi; cases hi; rfl
    | answered r =>
      rw [he] at hi
      cases r with
      | ok s' => cases hi; rfl
      | error e => cases hi
    | _ => rw [he] at hi; cases hi
  rw [ht.key s hi]
  exact ((ht.channel s.channel hchannel).2 ho).imp_right And.left

/-- A live subscription's channel has a key only as long as its own key has it. -/
theorem Guarded.mem_channels_iff (h : Guarded g) {i : Nat} {s : Subscription}
    (hi : (g.callers i).entry.subscription? = some s) :
    s.channel ∈ g.node.hub.registry.entries.map Prod.snd ↔
      g.node.hub.registry.find? s.key = some s.channel := by
  constructor
  · intro hmem
    refine (h.pending_or_keyed hi (h.steady.isOpen_of_mem_channels hmem)).resolve_left fun hid => ?_
    obtain ⟨e, he, hch⟩ := List.mem_map.1 hmem
    have hfind := (Registry.mem_entries h.steady.placed).1 he
    exact (h.pending s.channel hid).2 e.1 (hch ▸ hfind)
  · intro hfind
    exact List.mem_map.2 ⟨(s.key, s.channel), (Registry.mem_entries h.steady.placed).2 hfind, rfl⟩

/-- On a node that has just been made, whatever subscribers, migrations and other events on its channels
come in between each other step by step: the gauge is the number of live subscriptions, the connections of
the registry are those of the live subscriptions whose channels it still has, and no channel has more than
the configuration allows.  A live subscription is attached as long as its channel is open, which unless a
migration is under way is as long as its key has the channel, and no step of another subscriber is noticed
by its connection. -/
theorem connections_accounted {hash : String → UInt32} {config : Config} {store : Option Store}
    {now : Int} (made : Node.withStore hash config store now = .ok n)
    (requests : Nat → SubscribeRequest) {es : List GateEvent} (orderly : ∀ e ∈ es, e.Orderly) :
    let g := (start n requests).run es
    let hub := g.node.hub
    (∃ live : List (Nat × Subscription), live.Nodup ∧
      (∀ i s, (i, s) ∈ live ↔ (g.callers i).entry.subscription? = some s) ∧
      hub.host.metrics.connections = live.length ∧
      hub.connectionCount =
        live.countP fun x => hub.registry.find? x.2.key = some x.2.channel) ∧
    (∀ id, hub.connCount id ≤ config.maxConnsPerKey) ∧
    ∀ j t, (g.callers j).entry.subscription? = some t →
      (hub.isAttached t.channel t.conn = true ↔ hub.IsOpen t.channel) ∧
      (g.migration = none → (hub.isAttached t.channel t.conn = true ↔
        hub.registry.find? t.key = some t.channel)) ∧
      ∀ e i, e.caller? = some i → i ≠ j → Hub.Spares t.conn hub (g.step e).node.hub := by
  intro g hub
  have hstart : Guarded (start n requests) := guarded_start (Node.reachable_withStore made).sound requests
  have hguarded : Guarded g := hstart.run es
  obtain ⟨live, hlive⟩ := (occupied_start made requests).run hstart orderly
  refine ⟨⟨live, hlive.1.nodup, hlive.2, hlive.1.gauge, ?_⟩, fun id => ?_, fun j t hj => ?_⟩
  · rw [hlive.1.connectionCount]
    refine List.countP_congr fun x hx => ?_
    simpa only [decide_eq_true_eq] using hguarded.mem_channels_iff ((hlive.2 x.1 x.2).1 hx)
  · obtain ⟨hregular, hsettings⟩ := regular_start made requests es
    have hmax : hub.settings.maxConns = config.maxConnsPerKey :=
      congrArg ChannelSettings.maxConns hsettings
    exact hmax ▸ hregular.connCount_le id
  · have hattached : hub.isAttached t.channel t.conn = true ↔ hub.IsOpen t.channel :=
      (hlive.1.attached t.channel t.conn).trans (and_iff_left ⟨(j, t), (hlive.2 j t).2 hj, rfl, rfl⟩)
    refine ⟨hattached, fun hm => hattached.trans ⟨fun ho => ?_, hguarded.steady.serving t.key t.channel⟩,
      fun e i hi hne => hlive.spares hi hne hj⟩
    exact (hguarded.pending_or_keyed hj ho).resolve_left (by simp [pending, hm])

/-- One of two nodes, just made. -/
def peer : Node := { Node.newNode with ring := ⟨Ring.position, ["1", "3"], 1,
  [(2381540564, "1"), (4159028806, "3")]⟩ }

theorem made_peer :
    Node.withStore Ring.position peer.config none 1700000000000000000 = .ok peer := by
  have hring : Node.newNode = peer := by
    show { Node.newNode with ring := Ring.ofNodes Ring.position ["3", "1", "3"] 1 } = peer
    rw [Node.ring_of_two]
    rfl
  rw [← hring]
  exact Node.made_newNode

/-- A key's channel is closed, and the key gets another one with another subscriber.  When the first
subscriber leaves, the second one stays attached. -/
theorem connections_accounted_on_a_new_channel :
    let subscribe (i : Nat) : List GateEvent :=
      [.check i, .enter i, .authenticate i, .attach i, .replay i]
    let es := subscribe 0 ++ .hub (.close "k") :: subscribe 1
    let g := (start peer fun _ => ⟨"k", 0, none, 0⟩).run es
    (∃ live : List (Nat × Subscription), live.Nodup ∧ g.node.hub.host.metrics.connections = live.length) ∧
      g.node.hub.host.metrics.connections = 2 ∧ g.node.hub.connectionCount = 1 ∧
      g.node.hub.isAttached 0 1 = false ∧ g.node.hub.isAttached 1 2 = true ∧
      (g.step (.leave 0)).node.hub.attachment? 1 2 = some ⟨0, false⟩ ∧
      (g.step (.leave 0)).node.hub.host.metrics.connections = 1 := by
  intro subscribe es g
  have horderly : ∀ e ∈ es, e.Orderly := by
    simp [es, subscribe, GateEvent.Orderly, HubEvent.Orderly]
  obtain ⟨hm, hfirst, hsecond, hk, hseen, hgauge, hcount, hleft⟩ :
      g.migration.isNone = true ∧
      (g.callers 0).entry.subscription? = some ⟨"k", 5, 1, 0⟩ ∧
      (g.callers 1).entry.subscription? = some ⟨"k", 5, 2, 1⟩ ∧
      g.node.hub.registry.find? "k" = some 1 ∧ g.node.hub.attachment? 1 2 = some ⟨0, false⟩ ∧
      g.node.hub.host.metrics.connections = 2 ∧ g.node.hub.connectionCount = 1 ∧
      (g.step (.leave 0)).node.hub.host.metrics.connections = 1 := by decide +kernel
  obtain ⟨⟨live, hnodup, -, hlive, -⟩, -, hsub⟩ :=
    connections_accounted made_peer (fun _ => ⟨"k", 0, none, 0⟩) horderly
  obtain ⟨-, hattached, -⟩ := hsub 0 _ hfirst
  obtain ⟨-, hattached', hspares⟩ := hsub 1 _ hsecond
  have hidle : g.migration = none := Option.isNone_iff_eq_none.1 hm
  refine ⟨⟨live, hnodup, hlive⟩, hgauge, hcount, ?_, (hattached' hidle).2 hk, ?_, hleft⟩
  · rw [Bool.eq_false_iff]
    intro ha
    have hother := hk.symm.trans ((hattached hidle).1 ha)
    cases hother
  · rw [(hspares (.leave 0) 0 rfl (by decide)).attachment]
    exact hseen

end Gate

end PushRelay
