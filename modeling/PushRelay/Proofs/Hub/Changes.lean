import PushRelay.Hub
import PushRelay.Proofs.Channel.Calls
import PushRelay.Proofs.Registry

/-!
# What changes in a hub

A `HubEvent` is an operation on the keys of a hub, a call on any channel that was ever made, or
something that happens around the hub.  Whatever the event, the hub changes in one of four ways
(`Change`): a channel is called, a key gets its first channel, some keys lose their channels, which are
closed, or nothing happens to keys and channels.

    h.registry.Placed → h.host.Numbered → Change h (h.step e)                      (step_change)

`Dropped p ids h h'` says what it means for the keys that satisfy `p` to lose their channels, and for
`ids` to be closed, which are those channels and maybe some that had lost their keys before.
-/

namespace PushRelay

/-! ## Events -/

/-- What happens around the channels. -/
inductive HostEvent where
  /-- A new connection is made. -/
  | connect (depth : Nat)
  /-- The reader of a connection takes a payload off its queue. -/
  | receive (c : ConnId)
  /-- The reader of a connection goes. -/
  | hangUp (c : ConnId)
  /-- Somebody asks a connection to close. -/
  | dismiss (c : ConnId)
  /-- The clock shows a time. -/
  | clock (now : Int)
  /-- Somebody draws an id. -/
  | draw
  /-- The offline store becomes another one. -/
  | store (s : Store)
  /-- Something is counted. -/
  | count (f : Metrics → Metrics)

def Host.step (h : Host) : HostEvent → Host
  | .connect depth => (h.connect depth).2
  | .receive c => h.updateConn c fun conn => conn.receive.2
  | .hangUp c => h.updateConn c Connection.dropReader
  | .dismiss c => h.closeConn c
  | .clock now => { h with now }
  | .draw => h.drawId.2
  | .store s => { h with store := s }
  | .count f => h.count f

inductive HubEvent where
  | getOrCreate (key : String)
  | lookup (key : String)
  | close (key : String)
  | closeAll
  | migrate (hash : String → UInt32) (self : String) (nodes : List String) (vnodes : Nat)
  /-- A channel is called, whether it has a key or not. -/
  | call (id : ChannelId) (call : ChannelCall)
  | host (e : HostEvent)

namespace Hub

/-- What a call on a channel does. -/
def call (h : Hub) (id : ChannelId) : ChannelCall → Hub
  | .push key m => (h.push id key m).2
  | .attach key c lastId => (h.attach id key c lastId).2
  | .replay c since => (h.replay id c since).2
  | .detach c => h.detach id c
  | .setDeadline deadline => h.updateChannel id fun ch => ch.setDeadline deadline
  | .addToken ticket => (h.addToken id ticket).2
  | .authToken ticket => (h.authToken id ticket).2

def step (h : Hub) : HubEvent → Hub
  | .getOrCreate key => (h.getOrCreate key).2
  | .lookup key => (h.lookup key).2
  | .close key => (h.close key).2
  | .closeAll => h.closeAll.2
  | .migrate hash self nodes vnodes => (h.migrate hash self nodes vnodes).2
  | .call id call => h.call id call
  | .host e => { h with host := h.host.step e }

def run (h : Hub) (es : List HubEvent) : Hub := es.foldl step h

variable {h h' : Hub} {id : ChannelId} {ids : List ChannelId} {p : String → Bool} {c : ConnId}

theorem run_append (h : Hub) (es fs : List HubEvent) : h.run (es ++ fs) = (h.run es).run fs :=
  List.foldl_append

/-! ## Calls -/

theorem onChannel_channels {α : Type} (h : Hub) (id : ChannelId) (f : Channel → Host → Outcome α)
    (id' : ChannelId) : (h.onChannel id f).2.channels.get? id' =
      if id' = id then (h.channels.get? id).map fun ch => (f ch h.host).channel
      else h.channels.get? id' := by
  unfold onChannel
  split
  · next hn =>
    split
    · next hid => rw [hid, hn]; rfl
    · rfl
  · next ch hch =>
    rw [hch]
    exact Table.get?_insert h.channels id id' _

theorem onChannel_host {α : Type} (h : Hub) (id : ChannelId) (f : Channel → Host → Outcome α) :
    (h.onChannel id f).2.host =
      ((h.channels.get? id).map fun ch => (f ch h.host).host).getD h.host := by
  unfold onChannel
  split
  · next hn => rw [hn]; rfl
  · next ch hch => rw [hch]; rfl

theorem onChannel_rest {α : Type} (h : Hub) (id : ChannelId) (f : Channel → Host → Outcome α) :
    (h.onChannel id f).2.registry = h.registry ∧
      (h.onChannel id f).2.nextChannel = h.nextChannel := by
  unfold onChannel
  split <;> exact ⟨rfl, rfl⟩

theorem updateChannel_channels (h : Hub) (id : ChannelId) (f : Channel → Channel)
    (id' : ChannelId) : (h.updateChannel id f).channels.get? id' =
      if id' = id then (h.channels.get? id).map f else h.channels.get? id' := by
  show (h.channels.modify id f).get? id' = _
  rw [Table.get?_modify]
  split
  · next hid => rw [hid]
  · rfl

/-- A call changes the one channel as the channel says. -/
theorem call_channels (h : Hub) (id : ChannelId) (call : ChannelCall) (id' : ChannelId) :
    (h.call id call).channels.get? id' =
      if id' = id then (h.channels.get? id).map fun ch => (call.act ch h.host).1
      else h.channels.get? id' := by
  cases call with
  | detach c => exact updateChannel_channels h id _ id'
  | setDeadline deadline => exact updateChannel_channels h id _ id'
  | _ => exact onChannel_channels h id _ id'

theorem call_host (h : Hub) (id : ChannelId) (call : ChannelCall) :
    (h.call id call).host =
      ((h.channels.get? id).map fun ch => (call.act ch h.host).2).getD h.host := by
  cases call with
  | detach c => cases h.channels.get? id <;> rfl
  | setDeadline deadline => cases h.channels.get? id <;> rfl
  | _ => exact onChannel_host h id _

theorem call_rest (h : Hub) (id : ChannelId) (call : ChannelCall) :
    (h.call id call).registry = h.registry ∧ (h.call id call).nextChannel = h.nextChannel := by
  cases call with
  | detach c => exact ⟨rfl, rfl⟩
  | setDeadline deadline => exact ⟨rfl, rfl⟩
  | _ => exact onChannel_rest h id _

theorem call_onward (h : Hub) (id : ChannelId) (call : ChannelCall) :
    h.host.Onward (h.call id call).host := by
  rw [call_host]
  cases h.channels.get? id with
  | none => exact .refl _
  | some ch => exact Channel.act_onward ch h.host call

/-! ## Closing channels -/

/-- Whether a connection is attached to a channel. -/
def isAttached (h : Hub) (id : ChannelId) (c : ConnId) : Bool :=
  ((h.channels.get? id).map fun ch => ch.attached.contains c).getD false

theorem close_close (ch : Channel) (h h' : Host) : ((ch.close h).1.close h').1 = (ch.close h).1 := by
  unfold Channel.close
  cases ch.retention <;> cases ch.tokens <;> rfl

theorem closeChannel_channels (h : Hub) (id id' : ChannelId) :
    (h.closeChannel id).channels.get? id' =
      if id' = id then (h.channels.get? id).map fun ch => (ch.close h.host).1
      else h.channels.get? id' := by
  unfold closeChannel
  split
  · next hn =>
    split
    · next hid => rw [hid, hn]; rfl
    · rfl
  · next ch hch => rw [hch]; exact Table.get?_insert _ _ _ _

theorem closeChannel_conns (h : Hub) (id : ChannelId) (c : ConnId) :
    (h.closeChannel id).host.conns.get? c =
      (h.host.conns.get? c).map fun conn => if h.isAttached id c then conn.close else conn := by
  unfold closeChannel isAttached
  split
  · next hn =>
    rw [hn]
    exact Option.map_id'.symm
  · next ch hch =>
    rw [hch]
    exact Table.get?_mapValues _ _ _

theorem isAttached_closeChannel (h : Hub) (id id' : ChannelId) (c : ConnId) :
    (h.closeChannel id).isAttached id' c = if id' = id then false else h.isAttached id' c := by
  unfold isAttached
  rw [closeChannel_channels]
  split
  · cases h.channels.get? id <;> rfl
  · rfl

theorem closeChannel_rest (h : Hub) (id : ChannelId) :
    (h.closeChannel id).registry = h.registry ∧ (h.closeChannel id).nextChannel = h.nextChannel ∧
      (h.closeChannel id).host.nextConn = h.host.nextConn := by
  unfold closeChannel
  split <;> exact ⟨rfl, rfl, rfl⟩

theorem closeChannels_channels (h : Hub) (ids : List ChannelId) (id : ChannelId) :
    (h.closeChannels ids).channels.get? id =
      if id ∈ ids then (h.channels.get? id).map fun ch => (ch.close h.host).1
      else h.channels.get? id := by
  induction ids generalizing h with
  | nil => rfl
  | cons a ids ih =>
    show ((h.closeChannel a).closeChannels ids).channels.get? id = _
    rw [ih, closeChannel_channels]
    by_cases ha : id = a
    · subst ha
      rw [if_pos rfl, if_pos List.mem_cons_self, Option.map_map]
      split
      · congr 1
        funext ch
        exact close_close ch _ _
      · rfl
    · rw [if_neg ha]
      simp only [List.mem_cons, ha, false_or]
      split
      · congr 1
      · rfl

theorem closeChannels_conns (h : Hub) (ids : List ChannelId) (c : ConnId) :
    (h.closeChannels ids).host.conns.get? c = (h.host.conns.get? c).map fun conn =>
      if ids.any fun id => h.isAttached id c then conn.close else conn := by
  induction ids generalizing h with
  | nil => exact Option.map_id'.symm
  | cons a ids ih =>
    show ((h.closeChannel a).closeChannels ids).host.conns.get? c = _
    rw [ih, closeChannel_conns, Option.map_map]
    congr 1
    funext conn
    simp only [Function.comp_apply, isAttached_closeChannel, List.any_cons]
    by_cases ha : h.isAttached a c = true
    · simp only [ha, Bool.true_or, if_true]
      split <;> rfl
    · -- closing a channel that the connection is not attached to changes nothing for it
      have hsame : ∀ id, (if id = a then false else h.isAttached id c) = h.isAttached id c := by
        intro id
        split
        · next hid => rw [hid, Bool.eq_false_iff.2 ha]
        · rfl
      simp only [hsame, Bool.eq_false_iff.2 ha, Bool.false_or, Bool.false_eq_true, if_false]

theorem closeChannels_rest (h : Hub) (ids : List ChannelId) :
    (h.closeChannels ids).registry = h.registry ∧
      (h.closeChannels ids).nextChannel = h.nextChannel ∧
      (h.closeChannels ids).host.nextConn = h.host.nextConn := by
  induction ids generalizing h with
  | nil => exact ⟨rfl, rfl, rfl⟩
  | cons a ids ih =>
    obtain ⟨hr, hc, hn⟩ := closeChannel_rest h a
    obtain ⟨hr', hc', hn'⟩ := ih (h.closeChannel a)
    exact ⟨hr'.trans hr, hc'.trans hc, hn'.trans hn⟩

/-! ## Keys that lose their channels -/

/-- From `h` to `h'` the keys that satisfy `p` lose their channels, these are closed with others that have
no key, and nothing else happens. -/
structure Dropped (p : String → Bool) (ids : List ChannelId) (h h' : Hub) : Prop where
  lost : ∀ key id, h.registry.find? key = some id → p key = true → id ∈ ids
  freed : ∀ id ∈ ids, (∃ key, h.registry.find? key = some id ∧ p key = true) ∨
    ∀ key, h.registry.find? key ≠ some id
  placed : h'.registry.Placed
  bucketOf : ∀ key, h'.registry.bucketOf key = h.registry.bucketOf key
  find? : ∀ key, h'.registry.find? key = if p key then none else h.registry.find? key
  channels : ∀ id, h'.channels.get? id =
    if id ∈ ids then (h.channels.get? id).map fun ch => (ch.close h.host).1
    else h.channels.get? id
  conns : ∀ c, h'.host.conns.get? c = (h.host.conns.get? c).map fun conn =>
    if ids.any fun id => h.isAttached id c then conn.close else conn
  nextChannel : h'.nextChannel = h.nextChannel
  nextConn : h'.host.nextConn = h.host.nextConn

/-- Taking keys out of the registry and closing their channels. -/
theorem dropped_closeChannels {r : Registry} (hr : r.Placed)
    (hb : ∀ key, r.bucketOf key = h.registry.bucketOf key)
    (hf : ∀ key, r.find? key = if p key then none else h.registry.find? key)
    (hids : ∀ id, id ∈ ids ↔ ∃ key, h.registry.find? key = some id ∧ p key = true) :
    Dropped p ids h ({ h with registry := r }.closeChannels ids) := by
  obtain ⟨hreg, hnext, hconn⟩ := closeChannels_rest { h with registry := r } ids
  refine ⟨fun key id hk hp => (hids id).2 ⟨key, hk, hp⟩, fun id hid => Or.inl ((hids id).1 hid), ?_,
    fun key => ?_, fun key => ?_, closeChannels_channels { h with registry := r } ids,
    closeChannels_conns { h with registry := r } ids, hnext, hconn⟩
  · rw [hreg]
    exact hr
  · rw [hreg]
    exact hb key
  · rw [hreg]
    exact hf key

/-- Closing a channel that has no key. -/
theorem dropped_unkeyed (hp : h.registry.Placed) (hid : ∀ key, h.registry.find? key ≠ some id) :
    Dropped (fun _ => false) [id] h (h.closeChannel id) := by
  obtain ⟨hreg, hnext, hconn⟩ := closeChannels_rest h [id]
  refine ⟨fun _ _ _ hp => (by cases hp), fun id' hid' => ?_, ?_, fun key => ?_, fun key => ?_,
    closeChannels_channels h [id], closeChannels_conns h [id], hnext, hconn⟩
  · rw [List.mem_singleton.1 hid']
    exact Or.inr hid
  · exact hreg ▸ hp
  · exact congrArg (·.bucketOf key) hreg
  · exact congrArg (·.find? key) hreg

/-- One key loses its channel. -/
theorem dropped_erase (hp : h.registry.Placed) {key : String}
    (hk : h.registry.find? key = some id) :
    Dropped (· == key) [id] h ({ h with registry := h.registry.erase key }.closeChannel id) := by
  refine dropped_closeChannels (hp.erase key) (Registry.bucketOf_modify _ _ _) (fun key' => ?_)
    fun id' => ?_
  · rw [Registry.find?_erase]
    simp only [beq_iff_eq]
  · rw [List.mem_singleton]
    constructor
    · rintro rfl
      exact ⟨key, hk, beq_self_eq_true key⟩
    · rintro ⟨key', hk', he⟩
      rw [eq_of_beq he, hk] at hk'
      exact (Option.some.inj hk').symm

theorem dropped_closeAll (hp : h.registry.Placed) :
    Dropped (fun _ => true) (h.registry.entries.map (·.2)) h h.closeAll.2 := by
  refine dropped_closeChannels hp.clear (Registry.bucketOf_map _ _) (Registry.find?_clear h.registry)
    fun id => ?_
  rw [List.mem_map]
  constructor
  · rintro ⟨e, he, rfl⟩
    exact ⟨e.1, (Registry.mem_entries hp).1 he, rfl⟩
  · rintro ⟨key, hk, -⟩
    exact ⟨(key, id), (Registry.mem_entries hp).2 hk, rfl⟩

/-- The keys that a ring gives to other nodes, with their channels. -/
def moved (h : Hub) (ring : Ring) (self : String) : List (String × ChannelId) :=
  h.registry.entries.filter fun e => !ring.owns self e.1

theorem mem_moved (hp : h.registry.Placed) {ring : Ring} {self key : String} :
    (key, id) ∈ h.moved ring self ↔
      h.registry.find? key = some id ∧ ring.owns self key = false := by
  unfold moved
  rw [List.mem_filter, Registry.mem_entries hp, Bool.not_eq_true']

/-- What a migration comes to that is not refused. -/
theorem migrate_ok {self : String} {nodes : List String} (hs : self ∈ nodes)
    (hash : String → UInt32) (vnodes : Nat) :
    let ring := Ring.ofNodes hash nodes vnodes
    let closed := { h with registry := h.registry.filter (ring.owns self) }.closeChannels
      ((h.moved ring self).map Prod.snd)
    ∃ f, h.migrate hash self nodes vnodes =
      (.ok ⟨ring, (h.moved ring self).map Prod.fst⟩, { closed with host := closed.host.count f }) := by
  intro ring closed
  refine ⟨fun n => { n with
    channelsMigrated := n.channelsMigrated + (h.moved ring self).length }, ?_⟩
  unfold migrate
  rw [if_pos (List.contains_iff_mem.2 hs)]
  rfl

theorem migrate_refused {self : String} {nodes : List String} (hs : self ∉ nodes)
    (hash : String → UInt32) (vnodes : Nat) :
    h.migrate hash self nodes vnodes = (.error (.migrateRefused self), h) := by
  unfold migrate
  rw [if_neg fun hc => hs (List.contains_iff_mem.1 hc)]

theorem dropped_migrate (hp : h.registry.Placed) {self : String} {nodes : List String}
    (hs : self ∈ nodes) (hash : String → UInt32) (vnodes : Nat) :
    let ring := Ring.ofNodes hash nodes vnodes
    Dropped (fun key => !ring.owns self key) ((h.moved ring self).map Prod.snd) h
      (h.migrate hash self nodes vnodes).2 := by
  intro ring
  obtain ⟨f, hm⟩ := migrate_ok (h := h) hs hash vnodes
  rw [hm]
  have hd : Dropped (fun key => !ring.owns self key) ((h.moved ring self).map Prod.snd) h
      ({ h with registry := h.registry.filter (ring.owns self) }.closeChannels
        ((h.moved ring self).map Prod.snd)) := by
    refine dropped_closeChannels (hp.filter _) (Registry.bucketOf_map _ _) (fun key => ?_) fun id => ?_
    · rw [Registry.find?_filter]
      cases ring.owns self key <;> rfl
    · rw [List.mem_map]
      constructor
      · rintro ⟨e, he, rfl⟩
        obtain ⟨hk, ho⟩ := (mem_moved hp).1 he
        exact ⟨e.1, hk, by rw [ho]; rfl⟩
      · rintro ⟨key, hk, ho⟩
        rw [Bool.not_eq_true'] at ho
        exact ⟨(key, id), (mem_moved hp).2 ⟨hk, ho⟩, rfl⟩
  exact { hd with }

/-- A key that still has a channel was not one to lose it. -/
theorem Dropped.spared (hd : Dropped p ids h h') {key : String}
    (hk : h'.registry.find? key = some id) : p key = false := by
  rw [hd.find?] at hk
  split at hk
  · cases hk
  · next hp => exact Bool.eq_false_iff.2 hp

/-- Keys that lose their channels cost nobody a connection. -/
theorem Dropped.onward (hd : Dropped p ids h h') : h.host.Onward h'.host := by
  refine .map (fun c conn => if ids.any fun id => h.isAttached id c then conn.close else conn)
    hd.conns hd.nextConn fun c conn _ hr => ?_
  split
  · rfl
  · exact hr

/-! ## The ways in which a hub changes -/

/-- From `h` to `h'` a key that had no channel gets a new one. -/
structure Born (key : String) (h h' : Hub) : Prop where
  absent : h.registry.find? key = none
  registry : h'.registry = h.registry.insert key h.nextChannel
  channels : ∃ deadline, h'.channels = h.channels.insert h.nextChannel (.new h.settings deadline)
  nextChannel : h'.nextChannel = h.nextChannel + 1
  host : h'.host = h.host

inductive Change (h h' : Hub) : Prop
  | called (id : ChannelId) (call : ChannelCall) (hh : h' = h.call id call)
  | born (key : String) (hb : Born key h h')
  | dropped (p : String → Bool) (ids : List ChannelId) (hd : Dropped p ids h h')
  | around (hr : h'.registry = h.registry) (hc : h'.channels = h.channels)
      (hn : h'.nextChannel = h.nextChannel) (ho : h.host.Onward h'.host)

theorem Change.refl (h : Hub) : Change h h := .around rfl rfl rfl (.refl _)

/-- Keys keep their buckets. -/
theorem Change.bucketOf (hc : Change h h') (key : String) :
    h'.registry.bucketOf key = h.registry.bucketOf key := by
  cases hc with
  | called id call hh => rw [hh, (call_rest h id call).1]
  | born key' hb =>
    rw [hb.registry]
    exact Registry.bucketOf_modify _ _ _ key
  | dropped p ids hd => exact hd.bucketOf key
  | around hr hc hn ho => rw [hr]

/-- A channel that has lost its key does not get it back. -/
theorem Change.unkeyed (hc : Change h h') (hp : h.registry.Placed) (hlt : id < h.nextChannel)
    (hid : ∀ key, h.registry.find? key ≠ some id) (key : String) :
    h'.registry.find? key ≠ some id := by
  cases hc with
  | called id' call hh =>
    rw [hh, (call_rest h id' call).1]
    exact hid key
  | born key' hb =>
    rw [hb.registry, Registry.find?_insert hp]
    split
    · exact fun he => absurd (Option.some.inj he) (Nat.ne_of_gt hlt)
    · exact hid key
  | dropped p ids hd =>
    rw [hd.find?]
    split
    · exact nofun
    · exact hid key
  | around hr hc hn ho =>
    rw [hr]
    exact hid key

/-- The deadline of a channel that is used now. -/
def freshDeadline (h : Hub) : Int := deadlineAfter h.host.now h.settings.lifetime

/-- A key that has no channel gets a new one. -/
theorem getOrCreate_of_none {key : String} (hk : h.registry.find? key = none) : h.getOrCreate key =
    (h.nextChannel, { h with
      registry := h.registry.insert key h.nextChannel
      channels := h.channels.insert h.nextChannel (.new h.settings h.freshDeadline)
      nextChannel := h.nextChannel + 1 }) := by
  unfold getOrCreate
  rw [hk]
  rfl

theorem getOrCreate_fst {key : String} (hk : h.registry.find? key = none) :
    (h.getOrCreate key).1 = h.nextChannel :=
  congrArg Prod.fst (getOrCreate_of_none hk)

theorem born_getOrCreate {key : String} (hk : h.registry.find? key = none) :
    Born key h (h.getOrCreate key).2 := by
  rw [getOrCreate_of_none hk]
  exact ⟨hk, rfl, ⟨_, rfl⟩, rfl, rfl⟩

theorem getOrCreate_change (h : Hub) (key : String) : Change h (h.getOrCreate key).2 := by
  cases hk : h.registry.find? key with
  | none => exact .born key (born_getOrCreate hk)
  | some id =>
    unfold getOrCreate
    rw [hk]
    exact .called id (.setDeadline _) rfl

theorem lookup_change (hp : h.registry.Placed) (key : String) : Change h (h.lookup key).2 := by
  unfold lookup
  split
  · exact .refl h
  · next id hk =>
    split
    · exact .refl h
    · split
      · exact .dropped _ _ { dropped_erase hp hk with }
      · exact .called id (.setDeadline _) rfl

theorem close_change (hp : h.registry.Placed) (key : String) : Change h (h.close key).2 := by
  unfold close
  split
  · exact .refl h
  · next id hk => exact .dropped _ _ (dropped_erase hp hk)

theorem migrate_change (hp : h.registry.Placed) (hash : String → UInt32) (self : String)
    (nodes : List String) (vnodes : Nat) : Change h (h.migrate hash self nodes vnodes).2 := by
  by_cases hs : self ∈ nodes
  · exact .dropped _ _ (dropped_migrate hp hs hash vnodes)
  · rw [migrate_refused hs]
    exact .refl h

theorem hostStep_onward {h : Host} (hn : h.Numbered) (e : HostEvent) : h.Onward (h.step e) := by
  cases e with
  | connect depth => exact hn.connect depth
  | receive c =>
    refine .updateConn h c _ fun conn _ hr => ?_
    unfold Connection.receive
    split <;> exact hr
  | hangUp c => exact .updateConn h c _ fun _ _ hr => hr
  | dismiss c => exact .updateConn h c _ fun _ _ _ => rfl
  | clock now => exact .congr rfl rfl
  | draw => exact .congr rfl rfl
  | store s => exact .congr rfl rfl
  | count f => exact .congr rfl rfl

theorem step_change (hp : h.registry.Placed) (hn : h.host.Numbered) (e : HubEvent) :
    Change h (h.step e) := by
  cases e with
  | getOrCreate key => exact getOrCreate_change h key
  | lookup key => exact lookup_change hp key
  | close key => exact close_change hp key
  | closeAll => exact .dropped _ _ (dropped_closeAll hp)
  | migrate hash self nodes vnodes => exact migrate_change hp hash self nodes vnodes
  | call id call => exact .called id call rfl
  | host e => exact .around rfl rfl rfl (hostStep_onward hn e)

end Hub

end PushRelay
