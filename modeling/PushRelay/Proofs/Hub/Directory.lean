import Mathlib.Data.List.Nodup
import PushRelay.Proofs.Hub.Attachments

/-!
# Keys in one map

A `Directory` is one flat map from keys to channels and their deadlines, where a channel behind its
deadline is found out by the lookup that comes across it.  It says how requests about keys are to be
answered without buckets, channels or connections; what it has to be told is the time of day and how many
connections a channel has (`Scene`).

A directory that `Tracks` a hub answers every request as the hub does, up to the order in which the keys
that a migration takes away are listed, and tracks it afterwards.

    h.Sound → d.Tracks h →
      (h.answer q).1.Alike (d.answer h.scene q).1 ∧ (d.answer h.scene q).2.Tracks (h.answer q).2
                                                                                  (Tracks.answer)
-/

namespace PushRelay

/-! ## Requests and replies -/

/-- A hub is asked to go through an event, or is asked a question about its keys. -/
inductive HubRequest where
  | event (e : HubEvent)
  | contains (key : String)
  | size
  | isEmpty
  | connectionCount

inductive HubReply where
  | channel (r : Except ChannelError ChannelId)
  | closed (r : Except ChannelError Unit)
  /-- The keys that lost their channels. -/
  | migrated (r : Except ChannelError (List String))
  | count (n : Nat)
  | flag (b : Bool)
  /-- The event is not about keys. -/
  | silence

/-- The same reply, but that closed keys may be listed in another order. -/
inductive HubReply.Alike : HubReply → HubReply → Prop
  | same (r : HubReply) : Alike r r
  | reordered {closed closed' : List String} (h : closed.Perm closed') :
      Alike (.migrated (.ok closed)) (.migrated (.ok closed'))

theorem HubReply.Alike.of_eq {r r' : HubReply} (h : r = r') : r.Alike r' := h ▸ .same r

/-- What keys do not say: the time of day, and how many connections each channel has. -/
structure Scene where
  now : Int
  connCount : ChannelId → Nat

namespace Hub

def scene (h : Hub) : Scene := ⟨h.host.now, h.connCount⟩

def reply (h : Hub) : HubEvent → HubReply
  | .getOrCreate key => .channel (.ok (h.getOrCreate key).1)
  | .lookup key => .channel (h.lookup key).1
  | .close key => .closed (h.close key).1
  | .closeAll => .count h.closeAll.1
  | .migrate hash self nodes vnodes => .migrated ((h.migrate hash self nodes vnodes).1.map (·.closed))
  | .call .. | .host _ => .silence

def answer (h : Hub) : HubRequest → HubReply × Hub
  | .event e => (h.reply e, h.step e)
  | .contains key => (.flag (h.contains key), h)
  | .size => (.count h.size, h)
  | .isEmpty => (.flag h.isEmpty, h)
  | .connectionCount => (.count h.connectionCount, h)

/-- The replies to requests that come one after the other. -/
def replies (h : Hub) : List HubRequest → List HubReply
  | [] => []
  | q :: qs => (h.answer q).1 :: (h.answer q).2.replies qs

/-- The requests, each with the scene in which it comes. -/
def scenes (h : Hub) : List HubRequest → List (Scene × HubRequest)
  | [] => []
  | q :: qs => (h.scene, q) :: (h.answer q).2.scenes qs

end Hub

/-! ## Directories -/

/-- What a directory has for a key. -/
structure Listing where
  channel : ChannelId
  deadline : Int

structure Directory where
  listings : Table String Listing
  /-- How long a channel lives without being used, in nanoseconds. -/
  lifetime : Nat
  /-- The number of the next channel. -/
  nextChannel : ChannelId

namespace Directory

def empty (lifetime : Nat) : Directory := ⟨.empty, lifetime, 0⟩

/-- Lists a channel that is used now. -/
def list (d : Directory) (key : String) (id : ChannelId) (now : Int) : Directory :=
  { d with listings := d.listings.insert key ⟨id, deadlineAfter now d.lifetime⟩ }

/-- Strikes the keys off that do not satisfy `p`. -/
def filter (d : Directory) (p : String → Bool) : Directory :=
  { d with listings := d.listings.filter fun key _ => p key }

/-- Somebody sets the deadline of a channel. -/
def setDeadline (d : Directory) (id : ChannelId) (deadline : Int) : Directory :=
  { d with listings := d.listings.mapValues fun _ l =>
      if l.channel = id then { l with deadline } else l }

def event (d : Directory) (now : Int) : HubEvent → HubReply × Directory
  | .getOrCreate key =>
    match d.listings.get? key with
    | some l => (.channel (.ok l.channel), d.list key l.channel now)
    | none => (.channel (.ok d.nextChannel),
        { d.list key d.nextChannel now with nextChannel := d.nextChannel + 1 })
  | .lookup key =>
    match d.listings.get? key with
    | none => (.channel (.error .notExist), d)
    | some l =>
      if l.deadline ≤ now then (.channel (.error .expired), d.filter (· ≠ key))
      else (.channel (.ok l.channel), d.list key l.channel now)
  | .close key =>
    if d.listings.contains key then (.closed (.ok ()), d.filter (· ≠ key))
    else (.closed (.error .notExist), d)
  | .closeAll => (.count d.listings.size, d.filter fun _ => false)
  | .migrate hash self nodes vnodes =>
    if self ∈ nodes then
      let owns := (Ring.ofNodes hash nodes vnodes).owns self
      (.migrated (.ok (d.listings.keys.filter fun key => !owns key)), d.filter owns)
    else (.migrated (.error (.migrateRefused self)), d)
  | .call id (.setDeadline deadline) => (.silence, d.setDeadline id deadline)
  | .call .. | .host _ => (.silence, d)

def answer (d : Directory) (s : Scene) : HubRequest → HubReply × Directory
  | .event e => d.event s.now e
  | .contains key => (.flag (d.listings.contains key), d)
  | .size => (.count d.listings.size, d)
  | .isEmpty => (.flag d.listings.isEmpty, d)
  | .connectionCount => (.count (d.listings.values.map fun l => s.connCount l.channel).sum, d)

def replies (d : Directory) : List (Scene × HubRequest) → List HubReply
  | [] => []
  | q :: qs => (d.answer q.1 q.2).1 :: (d.answer q.1 q.2).2.replies qs

end Directory

/-! ## What a hub has for a key -/

namespace Hub

variable {h h' : Hub} {key key' : String} {id : ChannelId} {p : String → Bool} {ids : List ChannelId}

theorem Sound.answer (hs : h.Sound) (q : HubRequest) : (h.answer q).2.Sound := by
  cases q with
  | event e => exact hs.step e
  | _ => exact hs

def listing? (h : Hub) (key : String) : Option Listing :=
  (h.registry.find? key).bind fun id => (h.channels.get? id).map fun ch => ⟨id, ch.deadline⟩

theorem listing?_eq_none (hs : h.Sound) : h.listing? key = none ↔ h.registry.find? key = none := by
  unfold listing?
  cases hk : h.registry.find? key with
  | none => simp
  | some id =>
    obtain ⟨ch, hch, -⟩ := hs.serving key id hk
    simp [hch]

theorem listing?_eq_some {l : Listing} : h.listing? key = some l ↔
    h.registry.find? key = some l.channel ∧
      ∃ ch, h.channels.get? l.channel = some ch ∧ ch.deadline = l.deadline := by
  unfold listing?
  rw [Option.bind_eq_some_iff]
  constructor
  · rintro ⟨id, hk, hl⟩
    obtain ⟨ch, hch, rfl⟩ := Option.map_eq_some_iff.1 hl
    exact ⟨hk, ch, hch, rfl⟩
  · rintro ⟨hk, ch, hch, hd⟩
    exact ⟨_, hk, by rw [hch, Option.map_some, hd]⟩

/-- A call moves the deadline of its own channel only. -/
theorem listing?_call (h : Hub) (id : ChannelId) (call : ChannelCall) (key : String) :
    (h.call id call).listing? key = (h.listing? key).map fun l =>
      if l.channel = id then { l with deadline := call.deadline?.getD l.deadline } else l := by
  unfold listing?
  rw [(call_rest h id call).1, Option.map_bind]
  congr 1
  funext id'
  simp only [Function.comp_apply, call_channels, Option.map_map]
  split
  · next hid =>
    subst hid
    rw [Option.map_map]
    congr 1
    funext ch
    simp [Channel.act_deadline]
  · next hid =>
    congr 1
    funext ch
    simp [hid]

/-- Closing a channel does not move its deadline. -/
theorem listing?_dropped (hd : Dropped p ids h h') (key : String) :
    h'.listing? key = if p key then none else h.listing? key := by
  unfold listing?
  rw [hd.find?]
  split
  · rfl
  · congr 1
    funext id
    rw [hd.channels]
    split
    · rw [Option.map_map]
      rfl
    · rfl

/-- A key that gets a channel has it as long as channels live. -/
theorem listing?_getOrCreate (hs : h.Sound) (hk : h.registry.find? key = none) (key' : String) :
    (h.getOrCreate key).2.listing? key' =
      if key' = key then some ⟨h.nextChannel, deadlineAfter h.host.now h.settings.lifetime⟩
      else h.listing? key' := by
  unfold listing?
  simp only [getOrCreate_of_none hk, Registry.find?_insert hs.placed]
  split
  · simp [Table.get?_insert, Channel.new, freshDeadline]
  · cases hk' : h.registry.find? key' with
    | none => rfl
    | some id =>
      obtain ⟨ch, hch, -⟩ := hs.serving key' id hk'
      rw [Option.bind_some, Option.bind_some, Table.get?_insert,
        if_neg (Nat.ne_of_lt (hs.lt_of_get? hch))]

end Hub

/-! ## Directories of a hub -/

namespace Directory

variable {d : Directory} {h h' : Hub} {key : String} {id : ChannelId} {p : String → Bool}
  {ids : List ChannelId}

/-- The directory lists the keys of the hub, and nothing else. -/
structure Tracks (d : Directory) (h : Hub) : Prop where
  lifetime : d.lifetime = h.settings.lifetime
  nextChannel : d.nextChannel = h.nextChannel
  listings : ∀ key, d.listings.get? key = h.listing? key

theorem Tracks.unlisted (ht : d.Tracks h) (hk : h.registry.find? key = none) :
    d.listings.get? key = none := by
  rw [ht.listings, Hub.listing?, hk]
  rfl

theorem Tracks.listed (ht : d.Tracks h) {ch : Channel} (hk : h.registry.find? key = some id)
    (hch : h.channels.get? id = some ch) : d.listings.get? key = some ⟨id, ch.deadline⟩ := by
  rw [ht.listings]
  exact Hub.listing?_eq_some.2 ⟨hk, ch, hch, rfl⟩

theorem Tracks.contains (ht : d.Tracks h) (hs : h.Sound) (key : String) :
    d.listings.contains key = h.contains key := by
  unfold Table.contains
  rw [ht.listings, Bool.eq_iff_iff]
  simp only [Hub.contains, Registry.contains, Option.isSome_iff_ne_none, ne_eq,
    Hub.listing?_eq_none hs]

/-- The directory lists exactly the keys of the registry with their channels. -/
theorem Tracks.entries_perm (ht : d.Tracks h) (hs : h.Sound) :
    (d.listings.entries.map fun e => (e.1, e.2.channel)).Perm h.registry.entries := by
  have hkeys : ((d.listings.entries.map fun e => (e.1, e.2.channel)).map Prod.fst).Nodup := by
    rw [List.map_map]
    exact d.listings.distinct
  refine (List.perm_ext_iff_of_nodup (.of_map _ hkeys)
    (.of_map _ (Registry.nodup_entries hs.placed))).2 ?_
  rintro ⟨key, id⟩
  rw [Registry.mem_entries hs.placed, List.mem_map]
  constructor
  · rintro ⟨⟨key, l⟩, hl, he⟩
    cases he
    exact (Hub.listing?_eq_some.1 ((ht.listings key).symm.trans (Table.get?_eq_some.2 hl))).1
  · intro hk
    obtain ⟨ch, hch, -⟩ := hs.serving key id hk
    exact ⟨(key, ⟨id, ch.deadline⟩), Table.get?_eq_some.1 (ht.listed hk hch), rfl⟩

theorem Tracks.keys_perm (ht : d.Tracks h) (hs : h.Sound) :
    d.listings.keys.Perm (h.registry.entries.map Prod.fst) := by
  have hp := (ht.entries_perm hs).map Prod.fst
  rwa [List.map_map] at hp

theorem Tracks.size (ht : d.Tracks h) (hs : h.Sound) :
    d.listings.size = h.size := by
  have hlen := (ht.keys_perm hs).length_eq
  rwa [Table.length_keys, List.length_map, ← Registry.size_eq] at hlen

theorem Tracks.isEmpty (ht : d.Tracks h) (hs : h.Sound) : d.listings.isEmpty = h.isEmpty := by
  rw [Hub.isEmpty, ← ht.size hs, Bool.eq_iff_iff]
  simp [Table.isEmpty, Table.size]

theorem Tracks.connectionCount (ht : d.Tracks h) (hs : h.Sound) :
    (d.listings.values.map fun l => h.connCount l.channel).sum = h.connectionCount := by
  have hp := (((ht.entries_perm hs).map Prod.snd).map h.connCount).sum_nat
  rw [Hub.connectionCount_eq_sum, ← hp, Table.values, List.map_map, List.map_map, List.map_map]
  rfl

/-! ## Every event is tracked -/

/-- A channel that is used has its deadline put off in the hub and in the directory. -/
theorem Tracks.refresh (ht : d.Tracks h) (hs : h.Sound) (hk : h.registry.find? key = some id) :
    (d.list key id h.host.now).Tracks (h.refresh id) where
  lifetime := ht.lifetime
  nextChannel := ht.nextChannel
  listings := by
    intro key'
    have hcall : h.refresh id =
        h.call id (.setDeadline (deadlineAfter h.host.now h.settings.lifetime)) := rfl
    rw [hcall, Hub.listing?_call]
    show (d.listings.insert key _).get? key' = _
    rw [Table.get?_insert, ht.lifetime, ht.listings]
    obtain ⟨ch, hch, -⟩ := hs.serving key id hk
    have hl : h.listing? key = some ⟨id, ch.deadline⟩ := Hub.listing?_eq_some.2 ⟨hk, ch, hch, rfl⟩
    split
    · next he =>
      rw [he, hl]
      simp [ChannelCall.deadline?]
    · next hne =>
      cases hl' : h.listing? key' with
      | none => rfl
      | some l =>
        -- no other key has the same channel
        have hid : l.channel ≠ id := fun hid =>
          hne (hs.single key' key id (hid ▸ (Hub.listing?_eq_some.1 hl').1) hk)
        simp [hid]

theorem Tracks.dropped (ht : d.Tracks h) (hd : Hub.Dropped (fun key => !p key) ids h h')
    (hset : h'.settings = h.settings) : (d.filter p).Tracks h' where
  lifetime := by
    rw [hset]
    exact ht.lifetime
  nextChannel := ht.nextChannel.trans hd.nextChannel.symm
  listings := by
    intro key
    rw [Hub.listing?_dropped hd, ← ht.listings]
    show (d.listings.filter _).get? key = _
    rw [Table.get?_filter]
    cases p key <;> cases d.listings.get? key <;> rfl

/-- One key is struck off. -/
theorem Tracks.struckOff (ht : d.Tracks h) (hd : Hub.Dropped (· == key) ids h h')
    (hset : h'.settings = h.settings) : (d.filter (· ≠ key)).Tracks h' := by
  have hp : (· == key) = fun k => !decide (k ≠ key) := by
    funext k
    rw [beq_eq_decide, decide_not, Bool.not_not]
  exact ht.dropped (hp ▸ hd) hset

theorem Tracks.getOrCreate (ht : d.Tracks h) (hs : h.Sound) (key : String) :
    (d.event h.host.now (.getOrCreate key)).1 = .channel (.ok (h.getOrCreate key).1) ∧
      (d.event h.host.now (.getOrCreate key)).2.Tracks (h.getOrCreate key).2 := by
  cases hk : h.registry.find? key with
  | some id =>
    obtain ⟨ch, hch, -⟩ := hs.serving key id hk
    simp only [event, ht.listed hk hch, Hub.getOrCreate, hk]
    exact ⟨trivial, ht.refresh hs hk⟩
  | none =>
    have hid : (h.getOrCreate key).1 = h.nextChannel := by
      simp only [Hub.getOrCreate, hk]
      rfl
    simp only [event, ht.unlisted hk, hid, ht.nextChannel]
    refine ⟨trivial, ?_, (Hub.born_getOrCreate hk).nextChannel.symm, fun key' => ?_⟩
    · exact ht.lifetime.trans (congrArg _ (Hub.step_settings h (.getOrCreate key)).symm)
    · rw [Hub.listing?_getOrCreate hs hk, ← ht.listings, ← ht.lifetime]
      exact Table.get?_insert _ _ _ _

theorem Tracks.lookup (ht : d.Tracks h) (hs : h.Sound) (key : String) :
    (d.event h.host.now (.lookup key)).1 = .channel (h.lookup key).1 ∧
      (d.event h.host.now (.lookup key)).2.Tracks (h.lookup key).2 := by
  have hset : (h.lookup key).2.settings = h.settings := Hub.step_settings h (.lookup key)
  have hl := hs.lookup_lookedUp key
  generalize h.lookup key = out at hl hset
  cases hl with
  | missing hk =>
    rw [event, ht.unlisted hk]
    exact ⟨rfl, ht⟩
  | expired hk hch hover hd =>
    rw [event, ht.listed hk hch]
    simp only
    rw [if_pos (of_decide_eq_true hover)]
    exact ⟨rfl, ht.struckOff hd hset⟩
  | found hk hch hlive =>
    rw [event, ht.listed hk hch]
    simp only
    rw [if_neg (of_decide_eq_false hlive)]
    exact ⟨rfl, ht.refresh hs hk⟩

theorem Tracks.close (ht : d.Tracks h) (hs : h.Sound) (key : String) :
    (d.event h.host.now (.close key)).1 = .closed (h.close key).1 ∧
      (d.event h.host.now (.close key)).2.Tracks (h.close key).2 := by
  have hset : (h.close key).2.settings = h.settings := Hub.step_settings h (.close key)
  have hc : d.listings.contains key = (h.registry.find? key).isSome := ht.contains hs key
  cases hk : h.registry.find? key with
  | none =>
    simp only [event, hc, hk, Hub.close]
    exact ⟨rfl, ht⟩
  | some id =>
    have hd := Hub.dropped_erase hs.placed hk
    simp only [Hub.close, hk] at hset ⊢
    simp only [event, hc, hk]
    exact ⟨rfl, ht.struckOff hd hset⟩

theorem Tracks.closeAll (ht : d.Tracks h) (hs : h.Sound) :
    (d.event h.host.now .closeAll).1 = .count h.closeAll.1 ∧
      (d.event h.host.now .closeAll).2.Tracks h.closeAll.2 := by
  constructor
  · show HubReply.count d.listings.size = .count (h.registry.entries.map (·.2)).length
    rw [List.length_map, ht.size hs, Hub.size, Registry.size_eq]
  · exact ht.dropped (Hub.dropped_closeAll hs.placed) (Hub.step_settings h .closeAll)

theorem Tracks.migrate (ht : d.Tracks h) (hs : h.Sound) (hash : String → UInt32) (self : String)
    (nodes : List String) (vnodes : Nat) :
    (h.reply (.migrate hash self nodes vnodes)).Alike
        (d.event h.host.now (.migrate hash self nodes vnodes)).1 ∧
      (d.event h.host.now (.migrate hash self nodes vnodes)).2.Tracks
        (h.migrate hash self nodes vnodes).2 := by
  by_cases hself : self ∈ nodes
  · have hset := Hub.step_settings h (.migrate hash self nodes vnodes)
    have hd := Hub.dropped_migrate hs.placed hself hash vnodes
    obtain ⟨f, hm⟩ := Hub.migrate_ok (h := h) hself hash vnodes
    simp only [event, if_pos hself]
    refine ⟨?_, ht.dropped hd hset⟩
    have hclosed : ((h.moved (Ring.ofNodes hash nodes vnodes) self).map Prod.fst).Perm
        (d.listings.keys.filter fun key => !(Ring.ofNodes hash nodes vnodes).owns self key) := by
      have hp := (ht.keys_perm hs).filter fun key => !(Ring.ofNodes hash nodes vnodes).owns self key
      rw [List.filter_map] at hp
      exact hp.symm
    rw [Hub.reply, hm]
    exact .reordered hclosed
  · rw [Hub.reply, Hub.migrate_refused hself]
    simp only [event, if_neg hself]
    exact ⟨.same _, ht⟩

/-- Of all calls only one is about keys. -/
theorem event_call (d : Directory) (now : Int) (id : ChannelId) (call : ChannelCall) :
    d.event now (.call id call) = (.silence, (call.deadline?.map (d.setDeadline id)).getD d) := by
  cases call <;> rfl

theorem Tracks.call (ht : d.Tracks h) (id : ChannelId) (call : ChannelCall) :
    (d.event h.host.now (.call id call)).2.Tracks (h.call id call) where
  lifetime := by
    rw [event_call, show (h.call id call).settings = h.settings from
      Hub.step_settings h (.call id call), ← ht.lifetime]
    cases call.deadline? <;> rfl
  nextChannel := by
    rw [event_call, (Hub.call_rest h id call).2, ← ht.nextChannel]
    cases call.deadline? <;> rfl
  listings := by
    intro key
    rw [event_call, Hub.listing?_call, ← ht.listings]
    cases call.deadline? with
    | none =>
      show d.listings.get? key = _
      cases d.listings.get? key <;> simp
    | some deadline => exact Table.get?_mapValues _ _ _

/-! ## Every request is answered -/

/-- A directory that tracks a hub answers every request as the hub does, and tracks it afterwards. -/
theorem Tracks.answer (ht : d.Tracks h) (hs : h.Sound) (q : HubRequest) :
    (h.answer q).1.Alike (d.answer h.scene q).1 ∧
      (d.answer h.scene q).2.Tracks (h.answer q).2 := by
  cases q with
  | contains key => exact ⟨.of_eq (congrArg HubReply.flag (ht.contains hs key).symm), ht⟩
  | size => exact ⟨.of_eq (congrArg HubReply.count (ht.size hs).symm), ht⟩
  | isEmpty => exact ⟨.of_eq (congrArg HubReply.flag (ht.isEmpty hs).symm), ht⟩
  | connectionCount => exact ⟨.of_eq (congrArg HubReply.count (ht.connectionCount hs).symm), ht⟩
  | event e =>
    cases e with
    | getOrCreate key =>
      obtain ⟨hr, ht⟩ := ht.getOrCreate hs key
      exact ⟨.of_eq hr.symm, ht⟩
    | lookup key =>
      obtain ⟨hr, ht⟩ := ht.lookup hs key
      exact ⟨.of_eq hr.symm, ht⟩
    | close key =>
      obtain ⟨hr, ht⟩ := ht.close hs key
      exact ⟨.of_eq hr.symm, ht⟩
    | closeAll =>
      obtain ⟨hr, ht⟩ := ht.closeAll hs
      exact ⟨.of_eq hr.symm, ht⟩
    | migrate hash self nodes vnodes => exact ht.migrate hs hash self nodes vnodes
    | call id call =>
      refine ⟨?_, ht.call id call⟩
      rw [Directory.answer, event_call]
      exact .same _
    | host e => exact ⟨.same _, ⟨ht.lifetime, ht.nextChannel, ht.listings⟩⟩

theorem Tracks.replies (ht : d.Tracks h) (hs : h.Sound) (qs : List HubRequest) :
    List.Forall₂ HubReply.Alike (h.replies qs) (d.replies (h.scenes qs)) := by
  induction qs generalizing d h with
  | nil => exact .nil
  | cons q qs ih =>
    obtain ⟨hr, ht'⟩ := ht.answer hs q
    exact .cons hr (ih ht' (hs.answer q))

end Directory

end PushRelay
