import Mathlib.Algebra.GroupWithZero.Nat
import PushRelay.Proofs.Hub.Retention

/-!
# Connections of a hub

Most of what happens to a hub attaches nobody: a connection stays attached until its channel is closed
(`Quiet`).  No channel ever has more connections than the settings allow.  How many there are in all is
known from a list of who is attached where.

    h.Steady → e.Orderly → Quiet h (h.step e)                                      (Steady.quiet_step)
    h.Regular → h.connCount id ≤ h.settings.maxConns                           (Regular.connCount_le)
    (∀ id c, h.isAttached id c = true ↔ h.IsOpen id ∧ (id, c) ∈ seats) →
      h.connectionCount = seats.countP fun seat => seat.1 ∈ h.registry.entries.map Prod.snd
                                                                       (Steady.connectionCount_eq_countP)
-/

namespace PushRelay

/-- The event lets no connection in or out of a channel, unless it closes the channel, and does not count
connections. -/
def HubEvent.Orderly : HubEvent → Prop
  | .call _ c => c.isQuiet = true
  | .host (.count f) => ∀ m, (f m).connections = m.connections
  | _ => True

namespace Hub

variable {h h' h'' : Hub} {id : ChannelId} {ids : List ChannelId} {p : String → Bool} {key : String}
  {c : ConnId}

/-! ## Attached connections -/

theorem isAttached_iff : h.isAttached id c = true ↔
    ∃ ch, h.channels.get? id = some ch ∧ ch.attached.contains c = true := by
  unfold isAttached
  cases h.channels.get? id <;> simp

theorem isAttached_congr (hc : h'.channels.get? id = h.channels.get? id) (c : ConnId) :
    h'.isAttached id c = h.isAttached id c := by
  unfold isAttached
  rw [hc]

/-- A closed channel has let go of its connections. -/
theorem Steady.isOpen_of_isAttached (hs : h.Steady) (ha : h.isAttached id c = true) : h.IsOpen id := by
  obtain ⟨ch, hch, hc⟩ := isAttached_iff.1 ha
  refine ⟨ch, hch, Bool.eq_false_iff.2 fun hclosed => ?_⟩
  rw [(hs.emptied id ch hch hclosed).attached] at hc
  cases hc

/-- From `h` to `h'` connections stay attached until their channels close, nobody else is attached, and
connections are not counted. -/
structure Quiet (h h' : Hub) : Prop where
  attached : ∀ id c, h'.isAttached id c = true ↔ h.isAttached id c = true ∧ h'.IsOpen id
  later : Later h h'
  nextConn : h.host.nextConn ≤ h'.host.nextConn
  connections : h'.host.metrics.connections = h.host.metrics.connections

/-- Nothing happens to the channels. -/
theorem Steady.quiet_around (hs : h.Steady) (hr : h'.registry = h.registry)
    (hc : h'.channels = h.channels) (hn : h'.nextChannel = h.nextChannel)
    (ho : h.host.Onward h'.host)
    (hm : h'.host.metrics.connections = h.host.metrics.connections) : Quiet h h' where
  attached := by
    intro id c
    have hopen : h'.IsOpen id ↔ h.IsOpen id := by
      unfold IsOpen
      rw [hc]
    rw [isAttached_congr (congrArg (·.get? id) hc), hopen]
    exact ⟨fun ha => ⟨ha, hs.isOpen_of_isAttached ha⟩, And.left⟩
  later := hs.later_change (.around hr hc hn ho)
  nextConn := ho.next
  connections := hm

theorem Steady.quiet_refl (hs : h.Steady) : Quiet h h := hs.quiet_around rfl rfl rfl (.refl _) rfl

theorem call_connections (h : Hub) (id : ChannelId) (call : ChannelCall) :
    (h.call id call).host.metrics.connections = h.host.metrics.connections := by
  rw [call_host]
  cases h.channels.get? id with
  | none => rfl
  | some ch => exact (ch.act_rest h.host call).2

theorem isAttached_call_of_ne (h : Hub) {id' : ChannelId} (hne : id' ≠ id) (call : ChannelCall)
    (c : ConnId) : (h.call id call).isAttached id' c = h.isAttached id' c :=
  isAttached_congr (by rw [call_channels, if_neg hne]) c

theorem isAttached_call {ch : Channel} (hch : h.channels.get? id = some ch) (call : ChannelCall)
    (c : ConnId) :
    (h.call id call).isAttached id c = (call.act ch h.host).1.attached.contains c := by
  unfold isAttached
  rw [call_channels, if_pos rfl, hch]
  rfl

theorem isAttached_quiet {call : ChannelCall} (hq : call.isQuiet = true) (h : Hub)
    (id id' : ChannelId) (c : ConnId) : (h.call id call).isAttached id' c = h.isAttached id' c := by
  by_cases hid : id' = id
  · subst hid
    cases hch : h.channels.get? id' with
    | none => exact isAttached_congr (by rw [call_channels, if_pos rfl, hch]; rfl) c
    | some ch =>
      rw [isAttached_call hch, Channel.act_contains hq, isAttached, hch]
      rfl
  · exact isAttached_call_of_ne h hid call c

theorem Steady.quiet_call (hs : h.Steady) (call : ChannelCall) (hq : call.isQuiet = true)
    (id : ChannelId) : Quiet h (h.call id call) where
  attached := by
    intro id' c
    rw [isAttached_quiet hq, isOpen_call]
    exact ⟨fun ha => ⟨ha, hs.isOpen_of_isAttached ha⟩, And.left⟩
  later := hs.later_change (.called id call rfl)
  nextConn := (call_onward h id call).next
  connections := call_connections h id call

theorem Steady.quiet_born (hs : h.Steady) (hb : Born key h h') : Quiet h h' where
  attached := by
    intro id c
    obtain ⟨deadline, hget⟩ := hb.channels_get? id
    rw [hb.isOpen]
    by_cases hid : id = h.nextChannel
    · -- the new channel has no connections, and before it there was none of that number
      have hnew : h'.isAttached id c = false := by
        unfold isAttached
        rw [hget, if_pos hid]
        rfl
      have hold : h.isAttached id c = false := by
        unfold isAttached
        rw [hid, hs.unbuilt]
        rfl
      simp [hnew, hold]
    · rw [if_neg hid] at hget
      rw [isAttached_congr hget]
      exact ⟨fun ha => ⟨ha, Or.inr (hs.isOpen_of_isAttached ha)⟩, And.left⟩
  later := hs.later_change (.born key hb)
  nextConn := Nat.le_of_eq (by rw [hb.host])
  connections := by rw [hb.host]

theorem Steady.quiet_dropped (hs : h.Steady) (hd : Dropped p ids h h')
    (hm : h'.host.metrics.connections = h.host.metrics.connections) : Quiet h h' where
  attached := by
    intro id c
    have hget := hd.channels id
    rw [hd.isOpen]
    by_cases hid : id ∈ ids
    · have hnone : h'.isAttached id c = false := by
        unfold isAttached
        rw [hget, if_pos hid]
        cases h.channels.get? id <;> rfl
      simp [hnone, hid]
    · rw [if_neg hid] at hget
      rw [isAttached_congr hget]
      exact ⟨fun ha => ⟨ha, hid, hs.isOpen_of_isAttached ha⟩, And.left⟩
  later := hs.later_change (.dropped p ids hd)
  nextConn := hd.onward.next
  connections := hm

theorem closeChannel_metrics (h : Hub) (id : ChannelId) :
    (h.closeChannel id).host.metrics = h.host.metrics := by
  unfold closeChannel
  split <;> rfl

theorem closeChannels_metrics (h : Hub) (ids : List ChannelId) :
    (h.closeChannels ids).host.metrics = h.host.metrics := by
  induction ids generalizing h with
  | nil => rfl
  | cons a ids ih => exact (ih (h.closeChannel a)).trans (closeChannel_metrics h a)

theorem Steady.quiet_getOrCreate (hs : h.Steady) (key : String) : Quiet h (h.getOrCreate key).2 := by
  cases hk : h.registry.find? key with
  | none => exact hs.quiet_born (born_getOrCreate hk)
  | some id =>
    unfold getOrCreate
    rw [hk]
    exact hs.quiet_call (.setDeadline _) rfl id

theorem Steady.quiet_lookup (hs : h.Steady) (key : String) : Quiet h (h.lookup key).2 := by
  unfold lookup
  split
  · exact hs.quiet_refl
  · next id hk =>
    split
    · exact hs.quiet_refl
    · split
      · have hm := closeChannel_metrics { h with registry := h.registry.erase key } id
        have hconns := congrArg Metrics.connections hm
        exact hs.quiet_dropped { dropped_erase hs.placed hk with } hconns
      · exact hs.quiet_call (.setDeadline _) rfl id

theorem Steady.quiet_close (hs : h.Steady) (key : String) : Quiet h (h.close key).2 := by
  unfold close
  split
  · exact hs.quiet_refl
  · next id hk =>
    refine hs.quiet_dropped (dropped_erase hs.placed hk) ?_
    exact congrArg Metrics.connections (closeChannel_metrics _ id)

theorem Steady.quiet_migrate (hs : h.Steady) (hash : String → UInt32) (self : String)
    (nodes : List String) (vnodes : Nat) : Quiet h (h.migrate hash self nodes vnodes).2 := by
  by_cases hself : self ∈ nodes
  · refine hs.quiet_dropped (dropped_migrate hs.placed hself hash vnodes) ?_
    let ring := Ring.ofNodes hash nodes vnodes
    have hm := closeChannels_metrics { h with registry := h.registry.filter (ring.owns self) }
      ((h.moved ring self).map Prod.snd)
    have hconns := congrArg Metrics.connections hm
    unfold migrate
    rw [if_pos (List.contains_iff_mem.2 hself)]
    exact hconns
  · rw [migrate_refused hself]
    exact hs.quiet_refl

theorem Steady.quiet_step (hs : h.Steady) {e : HubEvent} (ho : e.Orderly) : Quiet h (h.step e) := by
  cases e with
  | getOrCreate key => exact hs.quiet_getOrCreate key
  | lookup key => exact hs.quiet_lookup key
  | close key => exact hs.quiet_close key
  | closeAll =>
    refine hs.quiet_dropped (dropped_closeAll hs.placed) ?_
    exact congrArg Metrics.connections (closeChannels_metrics _ _)
  | migrate hash self nodes vnodes => exact hs.quiet_migrate hash self nodes vnodes
  | call id call => exact hs.quiet_call call ho id
  | host e =>
    refine hs.quiet_around rfl rfl rfl (hostStep_onward hs.numbered e) ?_
    cases e with
    | count f => exact ho _
    | _ => rfl

/-! ## Attaching and letting go -/

theorem attach_ok_get? {lastId : Int} (hok : (h.attach id key c lastId).1 = .ok ()) :
    ∃ ch, h.channels.get? id = some ch ∧ (ch.attach h.host key c lastId).result = .ok () := by
  unfold attach onChannel at hok
  split at hok
  · cases hok
  · next ch hch => exact ⟨ch, hch, hok⟩

theorem isAttached_attach_ok {lastId : Int} (hok : (h.attach id key c lastId).1 = .ok ())
    (id' : ChannelId) (c' : ConnId) :
    (h.call id (.attach key c lastId)).isAttached id' c' = true ↔
      (id' = id ∧ c' = c) ∨ h.isAttached id' c' = true := by
  obtain ⟨ch, hch, hres⟩ := attach_ok_get? hok
  by_cases hid : id' = id
  · subst hid
    rw [isAttached_call hch, isAttached, hch]
    exact (Channel.attach_contains_ok hres c').trans (by simp)
  · rw [isAttached_call_of_ne h hid]
    simp [hid]

/-- A connection that is refused is not attached. -/
theorem isAttached_attach_error {lastId : Int} {e : ChannelError}
    (he : (h.attach id key c lastId).1 = .error e) (hc : h.isAttached id c = false)
    (id' : ChannelId) (c' : ConnId) :
    (h.call id (.attach key c lastId)).isAttached id' c' = h.isAttached id' c' := by
  by_cases hid : id' = id
  · subst hid
    cases hch : h.channels.get? id' with
    | none => exact isAttached_congr (by rw [call_channels, if_pos rfl, hch]; rfl) c'
    | some ch =>
      have hres : (ch.attach h.host key c lastId).result = .error e := by
        simpa only [attach, onChannel, hch] using he
      rw [isAttached, hch] at hc
      rw [isAttached_call hch, isAttached, hch]
      exact Channel.attach_contains_error hres hc c'
  · exact isAttached_call_of_ne h hid _ c'

theorem Steady.quiet_attach_error (hs : h.Steady) {lastId : Int} {e : ChannelError}
    (he : (h.attach id key c lastId).1 = .error e) (hc : h.isAttached id c = false) :
    Quiet h (h.call id (.attach key c lastId)) where
  attached := by
    intro id' c'
    rw [isAttached_attach_error he hc, isOpen_call]
    exact ⟨fun ha => ⟨ha, hs.isOpen_of_isAttached ha⟩, And.left⟩
  later := hs.later_change (.called id _ rfl)
  nextConn := (call_onward h id _).next
  connections := call_connections h id _

theorem isAttached_detach (h : Hub) (id : ChannelId) (c : ConnId) (id' : ChannelId) (c' : ConnId) :
    (h.call id (.detach c)).isAttached id' c' = true ↔
      ¬ (id' = id ∧ c' = c) ∧ h.isAttached id' c' = true := by
  by_cases hid : id' = id
  · subst hid
    cases hch : h.channels.get? id' with
    | none =>
      have hget : (h.call id' (.detach c)).channels.get? id' = h.channels.get? id' := by
        rw [call_channels, if_pos rfl, hch]
        rfl
      rw [isAttached_congr hget, isAttached, hch]
      simp
    | some ch =>
      rw [isAttached_call hch, isAttached, hch]
      exact (ch.detach_contains c c').trans (by simp)
  · rw [isAttached_call_of_ne h hid]
    simp [hid]

/-! ## Connections that notice nothing -/

/-- What a channel knows of a connection. -/
def attachment? (h : Hub) (id : ChannelId) (c : ConnId) : Option Attachment :=
  (h.channels.get? id).bind fun ch => ch.attached.get? c

/-- From `h` to `h'` nothing happens to a connection, or to what any channel knows of it. -/
structure Spares (c : ConnId) (h h' : Hub) : Prop where
  attachment : ∀ id, h'.attachment? id c = h.attachment? id c
  conn : h'.host.conns.get? c = h.host.conns.get? c

theorem Spares.refl (c : ConnId) (h : Hub) : Spares c h h := ⟨fun _ => rfl, rfl⟩

theorem Spares.trans (hs : Spares c h h') (hs' : Spares c h' h'') : Spares c h h'' :=
  ⟨fun id => (hs'.attachment id).trans (hs.attachment id), hs'.conn.trans hs.conn⟩

theorem spares_call (call : ChannelCall) (hn : call.concerns c = false) (h : Hub) (id : ChannelId) :
    Spares c h (h.call id call) := by
  constructor
  · intro id'
    unfold attachment?
    rw [call_channels]
    split
    · next hid =>
      rw [hid]
      cases h.channels.get? id with
      | none => rfl
      | some ch => exact (ch.act_unconcerned hn h.host).1
    · rfl
  · rw [call_host]
    cases h.channels.get? id with
    | none => rfl
    | some ch => exact (ch.act_unconcerned hn h.host).2

theorem Steady.spares_getOrCreate (hs : h.Steady) (c : ConnId) (key : String) :
    Spares c h (h.getOrCreate key).2 := by
  cases hk : h.registry.find? key with
  | none =>
    have hb := born_getOrCreate hk
    refine ⟨fun id => ?_, by rw [hb.host]⟩
    obtain ⟨deadline, hget⟩ := hb.channels_get? id
    unfold attachment?
    rw [hget]
    split
    · next hid =>
      rw [hid, hs.unbuilt]
      rfl
    · rfl
  | some id =>
    unfold getOrCreate
    rw [hk]
    exact spares_call (.setDeadline _) rfl h id

/-! ## The limit -/

/-- No channel has more connections than the settings allow. -/
theorem Regular.connCount_le (hr : h.Regular) (id : ChannelId) :
    h.connCount id ≤ h.settings.maxConns := by
  unfold connCount
  cases hch : h.channels.get? id with
  | none => exact Nat.zero_le _
  | some ch =>
    have hg := hr.channels id ch hch
    exact hg.maxConns ▸ hg.bounded

/-! ## Counting -/

/-- A call that lets nobody in or out of its channel. -/
theorem connCount_call {call : ChannelCall}
    (ha : ∀ (ch : Channel) host, (call.act ch host).1.attached = ch.attached) (h : Hub)
    (id id' : ChannelId) : (h.call id call).connCount id' = h.connCount id' := by
  unfold connCount
  rw [call_channels]
  split
  · next hid =>
    rw [hid, Option.map_map]
    congr 2
    funext ch
    exact congrArg Table.size (ha ch h.host)
  · rfl

theorem countP_mem_cons {α : Type} (f : α → ChannelId) (l : List α) (hid : id ∉ ids) :
    l.countP (fun a => f a ∈ id :: ids) =
      l.countP (fun a => f a = id) + l.countP (fun a => f a ∈ ids) := by
  induction l with
  | nil => rfl
  | cons a l ih =>
    simp only [List.countP_cons, ih]
    by_cases ha : f a = id
    · simp [ha, hid]
      omega
    · simp [ha]
      omega

/-- Places counted channel by channel. -/
theorem sum_countP {α : Type} (f : α → ChannelId) (l : List α) (hids : ids.Nodup) :
    (ids.map fun id => l.countP fun a => f a = id).sum = l.countP fun a => f a ∈ ids := by
  induction ids with
  | nil => simp
  | cons id ids ih =>
    obtain ⟨hid, hids⟩ := List.nodup_cons.1 hids
    rw [List.map_cons, List.sum_cons, ih hids, countP_mem_cons f l hid]

theorem connectionCount_eq_sum (h : Hub) :
    h.connectionCount = ((h.registry.entries.map Prod.snd).map h.connCount).sum := by
  unfold connectionCount
  rw [List.map_map, List.sum_eq_foldl, List.foldl_map]
  rfl

theorem Steady.isOpen_of_mem_channels (hs : h.Steady)
    (hid : id ∈ h.registry.entries.map Prod.snd) : h.IsOpen id := by
  obtain ⟨e, he, rfl⟩ := List.mem_map.1 hid
  exact hs.serving e.1 e.2 ((Registry.mem_entries hs.placed).1 he)

theorem Steady.nodup_channels (hs : h.Steady) : (h.registry.entries.map Prod.snd).Nodup := by
  have hkeys := List.pairwise_map.1 (Registry.nodup_entries hs.placed)
  refine List.pairwise_map.2 (hkeys.imp_of_mem fun {e e'} he he' hne hid => hne ?_)
  have hk := (Registry.mem_entries hs.placed).1 he
  have hk' := (Registry.mem_entries hs.placed).1 he'
  exact hs.single e.1 e'.1 e'.2 (hid ▸ hk) hk'

/-- A channel has as many connections as it has places taken. -/
theorem connCount_eq_countP {seats : List (ChannelId × ConnId)} (hn : (seats.map Prod.snd).Nodup)
    (ha : ∀ c, h.isAttached id c = true ↔ (id, c) ∈ seats) :
    h.connCount id = seats.countP fun seat => seat.1 = id := by
  let taken := (seats.filter fun seat => seat.1 = id).map Prod.snd
  have hmem : ∀ c, c ∈ taken ↔ h.isAttached id c = true := by
    intro c
    rw [ha]
    simp [taken]
  have hcount : taken.length = seats.countP fun seat => seat.1 = id := by
    rw [List.countP_eq_length_filter]
    exact List.length_map _
  rw [← hcount]
  unfold connCount
  cases hch : h.channels.get? id with
  | none =>
    have hnil : taken = [] := List.eq_nil_iff_forall_not_mem.2 fun c hc => by
      obtain ⟨ch, hch', -⟩ := isAttached_iff.1 ((hmem c).1 hc)
      rw [hch] at hch'
      cases hch'
    rw [hnil]
    rfl
  | some ch =>
    have hnodup : taken.Nodup := hn.sublist (List.filter_sublist.map _)
    have hperm : ch.attached.keys.Perm taken := by
      refine (List.perm_ext_iff_of_nodup ch.attached.distinct hnodup).2 fun c => ?_
      rw [hmem, isAttached_iff, ← Table.keys, Table.mem_keys]
      simp [hch]
    exact (Table.length_keys ch.attached).symm.trans hperm.length_eq

/-- With a list of the places that are taken, each by another connection, the connections of a hub are
counted by those in channels that have a key. -/
theorem Steady.connectionCount_eq_countP (hs : h.Steady) (seats : List (ChannelId × ConnId))
    (hn : (seats.map Prod.snd).Nodup)
    (ha : ∀ id c, h.isAttached id c = true ↔ h.IsOpen id ∧ (id, c) ∈ seats) :
    h.connectionCount = seats.countP fun seat => seat.1 ∈ h.registry.entries.map Prod.snd := by
  have hcounts : ∀ id ∈ h.registry.entries.map Prod.snd,
      h.connCount id = seats.countP fun seat => seat.1 = id := by
    intro id hid
    have ho := hs.isOpen_of_mem_channels hid
    exact connCount_eq_countP hn fun c => (ha id c).trans (and_iff_right ho)
  rw [connectionCount_eq_sum, List.map_congr_left hcounts, sum_countP Prod.fst seats hs.nodup_channels]

end Hub

end PushRelay
