import Mathlib.Data.List.Forall2
import PushRelay.Proofs.Hub.Directory

/-!
# Buckets do not show

Two hubs are `Resharded` if they are in the same state but for the buckets that their keys are in.  They
answer every request alike and stay so.  What needs care is the order in which channels are closed: it is
that of the buckets, and it makes no difference.

    ids.Perm ids' → h.closeChannels ids = h.closeChannels ids'                       (closeChannels_perm)
    Resharded h h' → Resharded (h.answer q).2 (h'.answer q).2                         (Resharded.answer)

So a registry is one flat map, whatever the number of its buckets and whatever its hash.

    new hash (2 ^ k) settings hasStore host = .ok h →
      Forall₂ Alike (h.replies qs) ((Directory.empty settings.lifetime).replies (h.scenes qs))
                                                                              (sharding_invisible)
-/

namespace PushRelay

/-! ## Tables -/

namespace Table

variable {K V : Type}

theorem mapValues_mapValues (t : Table K V) (f g : K → V → V) :
    (t.mapValues f).mapValues g = t.mapValues fun k v => g k (f k v) := by
  simp only [mapValues, List.map_map, Function.comp_def]

theorem mapValues_of_entries {t : Table K V} {f : K → V → V}
    (hf : ∀ e ∈ t.entries, f e.1 e.2 = e.2) : t.mapValues f = t := by
  have hmap : (t.entries.map fun e => (e.1, f e.1 e.2)) = t.entries := by
    rw [List.map_congr_left fun e he => by rw [hf e he], List.map_id']
  simp only [mapValues, hmap]

variable [DecidableEq K]

theorem modify_absent {t : Table K V} {k : K} (hk : t.get? k = none) (f : V → V) :
    t.modify k f = t := by
  refine mapValues_of_entries fun e he => if_neg ?_
  rintro rfl
  rw [get?_eq_some.2 he] at hk
  cases hk

/-- Setting the value of a key that is there. -/
theorem insert_present {t : Table K V} {k : K} {v : V} (hk : t.get? k = some v) (f : V → V) :
    t.insert k (f v) = t.modify k f := by
  have hins : t.insert k (f v) = t.modify k fun _ => f v := by
    unfold insert
    rw [dif_neg]
    intro hnone
    cases hnone.symm.trans hk
  rw [hins]
  simp only [modify, mapValues, mk.injEq]
  refine List.map_congr_left fun e he => ?_
  split
  · next hek =>
    cases (get?_eq_some.2 he).symm.trans (hek ▸ hk)
    rfl
  · rfl

theorem modify_comm (t : Table K V) {k k' : K} (hk : k ≠ k') (f g : V → V) :
    (t.modify k f).modify k' g = (t.modify k' g).modify k f := by
  simp only [modify, mapValues_mapValues]
  congr 1
  funext k'' v
  by_cases h : k'' = k
  · simp [h, hk]
  · simp [h]

end Table

/-! ## The buckets of a registry -/

namespace Registry

variable {r r' : Registry} {key : String}

theorem isPowerOfTwo_two_pow (k : Nat) : isPowerOfTwo (2 ^ k) = true := by
  unfold isPowerOfTwo
  rw [Nat.log2_two_pow, Nat.one_shiftLeft, beq_self_eq_true]

/-- The registry has so many buckets and picks one by this hash. -/
structure Shaped (hash : String → Nat) (count : Nat) (r : Registry) : Prop where
  hash : r.hash = hash
  count : r.buckets.length = count

variable {hash : String → Nat} {count k : Nat}

/-- The lowest bits of a key's hash are the number of its bucket, which there is. -/
theorem Shaped.bucketOf (hr : r.Shaped hash (2 ^ k)) (key : String) :
    r.bucketOf key = hash key &&& (2 ^ k - 1) ∧ r.bucketOf key < r.buckets.length := by
  have hpos : 0 < r.buckets.length := hr.count ▸ Nat.two_pow_pos k
  refine ⟨?_, Nat.mod_lt _ hpos⟩
  rw [Registry.bucketOf, hr.hash, hr.count, Nat.and_two_pow_sub_one_eq_mod]

theorem Shaped.modify (hr : r.Shaped hash count) (i : Nat)
    (f : Table String ChannelId → Table String ChannelId) :
    Shaped hash count { r with buckets := r.buckets.modify i f } :=
  ⟨hr.hash, (List.length_modify ..).trans hr.count⟩

theorem Shaped.map (hr : r.Shaped hash count)
    (f : Table String ChannelId → Table String ChannelId) :
    Shaped hash count { r with buckets := r.buckets.map f } :=
  ⟨hr.hash, (List.length_map f).trans hr.count⟩

/-- The same keys with the same channels are listed in whatever order. -/
theorem entries_perm (hr : r.Placed) (hr' : r'.Placed) (hf : ∀ key, r'.find? key = r.find? key) :
    r'.entries.Perm r.entries := by
  refine (List.perm_ext_iff_of_nodup (.of_map _ (nodup_entries hr'))
    (.of_map _ (nodup_entries hr))).2 ?_
  rintro ⟨key, id⟩
  rw [mem_entries hr', mem_entries hr, hf]

end Registry

namespace Hub

variable {h h' : Hub} {id : ChannelId} {ids ids' : List ChannelId} {key : String}

/-- Nothing that happens to a hub changes the number of its buckets or its hash. -/
theorem shaped_step {hash : String → Nat} {count : Nat} (hr : h.registry.Shaped hash count)
    (e : HubEvent) : (h.step e).registry.Shaped hash count := by
  cases e with
  | getOrCreate key =>
    simp only [step, getOrCreate]
    split
    · exact hr
    · exact hr.modify _ _
  | lookup key =>
    simp only [step, lookup]
    split
    · exact hr
    · split
      · exact hr
      · split
        · show ((Hub.closeChannel _ _).registry).Shaped hash count
          rw [(closeChannel_rest _ _).1]
          exact hr.modify _ _
        · exact hr
  | close key =>
    simp only [step, close]
    split
    · exact hr
    · rw [(closeChannel_rest _ _).1]
      exact hr.modify _ _
  | closeAll =>
    simp only [step, closeAll]
    rw [(closeChannels_rest _ _).1]
    exact hr.map _
  | migrate hash' self nodes vnodes =>
    by_cases hself : self ∈ nodes
    · obtain ⟨f, hm⟩ := migrate_ok (h := h) hself hash' vnodes
      rw [step, hm]
      show ((Hub.closeChannels _ _).registry).Shaped hash count
      rw [(closeChannels_rest _ _).1]
      exact hr.map _
    · rw [step, migrate_refused hself]
      exact hr
  | call id call =>
    rw [step, (call_rest h id call).1]
    exact hr
  | host e => exact hr

/-- The hub after requests that came one after the other. -/
def after (h : Hub) : List HubRequest → Hub
  | [] => h
  | q :: qs => (h.answer q).2.after qs

theorem shaped_after {hash : String → Nat} {count : Nat} (hr : h.registry.Shaped hash count)
    (qs : List HubRequest) : (h.after qs).registry.Shaped hash count := by
  induction qs generalizing h with
  | nil => exact hr
  | cons q qs ih =>
    refine ih ?_
    cases q with
    | event e => exact shaped_step hr e
    | _ => exact hr

/-! ## Closing channels in another order -/

/-- What closing does to the channel and the connections of its number, if there is one. -/
theorem closeChannel_eq (h : Hub) (id : ChannelId) :
    h.closeChannel id = { h with
      channels := h.channels.modify id fun ch => (ch.close h.host).1
      host := { h.host with
        conns := h.host.conns.mapValues fun c conn =>
          if h.isAttached id c then conn.close else conn } } := by
  unfold closeChannel isAttached
  cases hch : h.channels.get? id with
  | none =>
    have hconns := Table.mapValues_of_entries (t := h.host.conns) (f := fun _ conn => conn)
      fun _ _ => rfl
    simp only [Option.map_none, Option.getD_none, Bool.false_eq_true, if_false,
      Table.modify_absent hch, hconns]
  | some ch =>
    simp only [Option.map_some, Option.getD_some]
    rw [Table.insert_present hch fun ch => (ch.close h.host).1]
    rfl

theorem closeChannel_closeChannel {a b : ChannelId} (hab : b ≠ a) (h : Hub) :
    (h.closeChannel a).closeChannel b = { h with
      channels := (h.channels.modify a fun ch => (ch.close h.host).1).modify b
        fun ch => (ch.close h.host).1
      host := { h.host with
        conns := h.host.conns.mapValues fun c conn =>
          if h.isAttached a c || h.isAttached b c then conn.close else conn } } := by
  have hatt : ∀ c, (h.closeChannel a).isAttached b c = h.isAttached b c := by
    intro c
    rw [isAttached_closeChannel, if_neg hab]
  rw [closeChannel_eq (h.closeChannel a)]
  simp only [hatt]
  rw [closeChannel_eq h a]
  simp only [Table.mapValues_mapValues]
  congr 3
  funext c conn
  cases h.isAttached a c <;> cases h.isAttached b c <;> rfl

theorem closeChannel_comm (h : Hub) (a b : ChannelId) :
    (h.closeChannel a).closeChannel b = (h.closeChannel b).closeChannel a := by
  by_cases hab : a = b
  · rw [hab]
  · rw [closeChannel_closeChannel (Ne.symm hab), closeChannel_closeChannel hab,
      Table.modify_comm _ hab]
    simp only [Bool.or_comm]

/-- Channels may be closed in any order. -/
theorem closeChannels_perm (h : Hub) (hids : ids.Perm ids') :
    h.closeChannels ids = h.closeChannels ids' :=
  hids.foldl_eq' (fun a _ b _ h => closeChannel_comm h a b) h

/-! ## Other buckets -/

/-- The hub with its keys in the buckets of another registry. -/
def withRegistry (h : Hub) (r : Registry) : Hub := { h with registry := r }

/-- Two hubs that differ at most in the buckets that their keys are in. -/
inductive Resharded (h : Hub) : Hub → Prop
  | buckets (r : Registry) (hf : ∀ key, r.find? key = h.registry.find? key) :
      Resharded h (h.withRegistry r)

theorem call_withRegistry (h : Hub) (r : Registry) (id : ChannelId) (call : ChannelCall) :
    (h.withRegistry r).call id call = (h.call id call).withRegistry r := by
  cases call with
  | detach c => rfl
  | setDeadline deadline => rfl
  | _ =>
    simp only [Hub.call, push, attach, replay, addToken, authToken, onChannel, withRegistry]
    cases h.channels.get? id <;> rfl

theorem closeChannels_withRegistry (h : Hub) (r : Registry) (ids : List ChannelId) :
    (h.withRegistry r).closeChannels ids = (h.closeChannels ids).withRegistry r := by
  induction ids generalizing h with
  | nil => rfl
  | cons id ids ih =>
    have hclose : (h.withRegistry r).closeChannel id = (h.closeChannel id).withRegistry r := by
      rw [closeChannel_eq, closeChannel_eq]
      rfl
    show ((h.withRegistry r).closeChannel id).closeChannels ids = _
    rw [hclose, ih]
    rfl

/-- The same channels are closed, whatever registries are left. -/
theorem resharded_closeChannels {r r' : Registry} (hids : ids'.Perm ids)
    (hf : ∀ key, r'.find? key = r.find? key) :
    Resharded ((h.withRegistry r).closeChannels ids) ((h.withRegistry r').closeChannels ids') := by
  rw [closeChannels_perm _ hids, closeChannels_withRegistry, closeChannels_withRegistry]
  exact .buckets (h := (h.closeChannels ids).withRegistry r) r' hf

namespace Resharded

variable (hr : Resharded h h')
include hr

theorem find? (key : String) : h'.registry.find? key = h.registry.find? key := by
  obtain ⟨r, hf⟩ := hr
  exact hf key

theorem call (id : ChannelId) (call : ChannelCall) : Resharded (h.call id call) (h'.call id call) := by
  obtain ⟨r, hf⟩ := hr
  rw [call_withRegistry]
  refine .buckets r fun key => ?_
  rw [(call_rest h id call).1, hf]

theorem host (f : Host → Host) :
    Resharded { h with host := f h.host } { h' with host := f h'.host } := by
  obtain ⟨r, hf⟩ := hr
  exact .buckets (h := { h with host := f h.host }) r hf

theorem getOrCreate (hs : h.Sound) (hs' : h'.Sound) (key : String) :
    (h.getOrCreate key).1 = (h'.getOrCreate key).1 ∧
      Resharded (h.getOrCreate key).2 (h'.getOrCreate key).2 := by
  obtain ⟨r, hf⟩ := hr
  have hk' : (h.withRegistry r).registry.find? key = h.registry.find? key := hf key
  unfold Hub.getOrCreate
  rw [hk']
  cases hk : h.registry.find? key with
  | some id => exact ⟨rfl, (buckets r hf).call id (.setDeadline _)⟩
  | none =>
    refine ⟨rfl, buckets (r.insert key h.nextChannel) fun key' => ?_⟩
    show (r.insert key h.nextChannel).find? key' = (h.registry.insert key h.nextChannel).find? key'
    have hplaced : r.Placed := hs'.placed
    rw [Registry.find?_insert hplaced, Registry.find?_insert hs.placed, hf]

/-- A key loses its channel in both. -/
theorem erase (key : String) (id : ChannelId) :
    Resharded ({ h with registry := h.registry.erase key }.closeChannel id)
      ({ h' with registry := h'.registry.erase key }.closeChannel id) := by
  obtain ⟨r, hf⟩ := hr
  refine resharded_closeChannels (List.Perm.refl [id]) fun key' => ?_
  show (r.erase key).find? key' = _
  rw [Registry.find?_erase, Registry.find?_erase, hf]

theorem lookup (key : String) :
    (h.lookup key).1 = (h'.lookup key).1 ∧ Resharded (h.lookup key).2 (h'.lookup key).2 := by
  obtain ⟨r, hf⟩ := hr
  have hk' : (h.withRegistry r).registry.find? key = h.registry.find? key := hf key
  have hchannels : (h.withRegistry r).channels = h.channels := rfl
  have hhost : (h.withRegistry r).host = h.host := rfl
  unfold Hub.lookup
  rw [hk', hchannels, hhost]
  cases h.registry.find? key with
  | none => exact ⟨rfl, .buckets r hf⟩
  | some id =>
    dsimp only
    cases h.channels.get? id with
    | none => exact ⟨rfl, .buckets r hf⟩
    | some ch =>
      dsimp only
      split
      · exact ⟨rfl, ((buckets r hf).erase key id).host fun host => host.count fun n =>
          { n with channelsExpired := n.channelsExpired + 1 }⟩
      · exact ⟨rfl, (buckets r hf).call id (.setDeadline _)⟩

theorem close (key : String) :
    (h.close key).1 = (h'.close key).1 ∧ Resharded (h.close key).2 (h'.close key).2 := by
  obtain ⟨r, hf⟩ := hr
  have hk' : (h.withRegistry r).registry.find? key = h.registry.find? key := hf key
  unfold Hub.close
  rw [hk']
  cases h.registry.find? key with
  | none => exact ⟨rfl, .buckets r hf⟩
  | some id => exact ⟨rfl, (buckets r hf).erase key id⟩

theorem entries_perm (hs : h.Sound) (hs' : h'.Sound) : h'.registry.entries.Perm h.registry.entries := by
  obtain ⟨r, hf⟩ := hr
  exact Registry.entries_perm hs.placed hs'.placed hf

theorem closeAll (hs : h.Sound) (hs' : h'.Sound) :
    h.closeAll.1 = h'.closeAll.1 ∧ Resharded h.closeAll.2 h'.closeAll.2 := by
  have hids := (hr.entries_perm hs hs').map Prod.snd
  obtain ⟨r, hf⟩ := hr
  refine ⟨hids.length_eq.symm, resharded_closeChannels hids fun key => ?_⟩
  exact (Registry.find?_clear r key).trans (Registry.find?_clear h.registry key).symm

theorem migrate (hs : h.Sound) (hs' : h'.Sound) (hash : String → UInt32) (self : String)
    (nodes : List String) (vnodes : Nat) :
    (h.reply (.migrate hash self nodes vnodes)).Alike (h'.reply (.migrate hash self nodes vnodes)) ∧
      Resharded (h.migrate hash self nodes vnodes).2 (h'.migrate hash self nodes vnodes).2 := by
  by_cases hself : self ∈ nodes
  · have hmoved := (hr.entries_perm hs hs').filter
      fun e => !(Ring.ofNodes hash nodes vnodes).owns self e.1
    simp only [Hub.reply, Hub.migrate, if_pos (List.contains_iff_mem.2 hself)]
    refine ⟨.reordered (hmoved.map _).symm, ?_⟩
    rw [hmoved.length_eq]
    refine Resharded.host ?_ fun host => host.count fun n => { n with
      channelsMigrated := n.channelsMigrated + (h.registry.entries.filter
        fun e => !(Ring.ofNodes hash nodes vnodes).owns self e.1).length }
    obtain ⟨r, hf⟩ := hr
    refine resharded_closeChannels (hmoved.map _) fun key => ?_
    show (r.filter _).find? key = _
    rw [Registry.find?_filter, Registry.find?_filter, hf]
  · rw [Hub.reply, Hub.reply, migrate_refused hself, migrate_refused hself]
    exact ⟨.same _, hr⟩

/-! ## Every request is answered alike -/

theorem scene : h'.scene = h.scene := by
  obtain ⟨r, hf⟩ := hr
  rfl

theorem size (hs : h.Sound) (hs' : h'.Sound) : h.size = h'.size := by
  rw [Hub.size, Hub.size, Registry.size_eq, Registry.size_eq, (hr.entries_perm hs hs').length_eq]

theorem connectionCount (hs : h.Sound) (hs' : h'.Sound) : h.connectionCount = h'.connectionCount := by
  have hids := (hr.entries_perm hs hs').map Prod.snd
  obtain ⟨r, hf⟩ := hr
  rw [connectionCount_eq_sum, connectionCount_eq_sum]
  exact (hids.map h.connCount).sum_nat.symm

theorem answer (hs : h.Sound) (hs' : h'.Sound) (q : HubRequest) :
    (h.answer q).1.Alike (h'.answer q).1 ∧ Resharded (h.answer q).2 (h'.answer q).2 := by
  cases q with
  | contains key =>
    have hc : h.contains key = h'.contains key := by
      rw [Hub.contains, Hub.contains, Registry.contains, Registry.contains, hr.find?]
    exact ⟨.of_eq (congrArg HubReply.flag hc), hr⟩
  | size => exact ⟨.of_eq (congrArg HubReply.count (hr.size hs hs')), hr⟩
  | isEmpty =>
    have he : h.isEmpty = h'.isEmpty := by rw [Hub.isEmpty, Hub.isEmpty, hr.size hs hs']
    exact ⟨.of_eq (congrArg HubReply.flag he), hr⟩
  | connectionCount => exact ⟨.of_eq (congrArg HubReply.count (hr.connectionCount hs hs')), hr⟩
  | event e =>
    cases e with
    | getOrCreate key =>
      obtain ⟨hid, hr⟩ := hr.getOrCreate hs hs' key
      exact ⟨.of_eq (congrArg (fun id => HubReply.channel (.ok id)) hid), hr⟩
    | lookup key =>
      obtain ⟨hl, hr⟩ := hr.lookup key
      exact ⟨.of_eq (congrArg HubReply.channel hl), hr⟩
    | close key =>
      obtain ⟨hl, hr⟩ := hr.close key
      exact ⟨.of_eq (congrArg HubReply.closed hl), hr⟩
    | closeAll =>
      obtain ⟨hl, hr⟩ := hr.closeAll hs hs'
      exact ⟨.of_eq (congrArg HubReply.count hl), hr⟩
    | migrate hash self nodes vnodes => exact hr.migrate hs hs' hash self nodes vnodes
    | call id call => exact ⟨.same _, hr.call id call⟩
    | host e => exact ⟨.same _, hr.host fun h => h.step e⟩

theorem replies (hs : h.Sound) (hs' : h'.Sound) (qs : List HubRequest) :
    List.Forall₂ HubReply.Alike (h.replies qs) (h'.replies qs) ∧ h'.scenes qs = h.scenes qs := by
  induction qs generalizing h h' with
  | nil => exact ⟨.nil, rfl⟩
  | cons q qs ih =>
    obtain ⟨ha, hr'⟩ := hr.answer hs hs' q
    obtain ⟨hrest, hscenes⟩ := ih hr' (hs.answer q) (hs'.answer q)
    refine ⟨.cons ha hrest, ?_⟩
    rw [scenes, scenes, hr.scene, hscenes]

end Resharded

/-! ## Registries are flat maps -/

/-- A hub without channels has an empty directory. -/
theorem tracks_empty {hash : String → Nat} {buckets : Nat} {settings : ChannelSettings}
    {hasStore : Bool} {host : Host} (made : new hash buckets settings hasStore host = .ok h) :
    (Directory.empty settings.lifetime).Tracks h := by
  obtain ⟨registry, hr, rfl⟩ := new_ok made
  refine ⟨rfl, rfl, fun key => ?_⟩
  rw [listing?, (Registry.placed_new hr).2 key]
  rfl

theorem shaped_new {hash : String → Nat} {buckets : Nat} {settings : ChannelSettings}
    {hasStore : Bool} {host : Host} (made : new hash buckets settings hasStore host = .ok h) :
    h.registry.Shaped hash buckets := by
  obtain ⟨registry, hr, rfl⟩ := new_ok made
  unfold Registry.new at hr
  split at hr
  · cases hr
    exact ⟨rfl, List.length_replicate⟩
  · cases hr

/-- Two hubs made with different buckets. -/
theorem resharded_new {hash hash' : String → Nat} {buckets buckets' : Nat} {settings : ChannelSettings}
    {hasStore : Bool} {host : Host} (made : new hash buckets settings hasStore host = .ok h)
    (made' : new hash' buckets' settings hasStore host = .ok h') : Resharded h h' := by
  obtain ⟨registry, hr, rfl⟩ := new_ok made
  obtain ⟨registry', hr', rfl⟩ := new_ok made'
  refine .buckets (h := ⟨settings, registry, .empty, 0, host⟩) registry' fun key => ?_
  exact ((Registry.placed_new hr').2 key).trans ((Registry.placed_new hr).2 key).symm

theorem exists_new {settings : ChannelSettings} {hasStore : Bool}
    (stored : settings.kind = .outer → hasStore = true) (hash : String → Nat) (k : Nat) (host : Host) :
    ∃ h, new hash (2 ^ k) settings hasStore host = .ok h := by
  have hstored : ¬ (settings.kind = .outer ∧ hasStore = false) := by
    rintro ⟨hkind, hnone⟩
    cases hnone.symm.trans (stored hkind)
  unfold new Registry.new
  rw [if_pos (Registry.isPowerOfTwo_two_pow k)]
  exact ⟨_, if_neg hstored⟩

/-- A power-of-two number of buckets can always be had.  Then, whatever the hash and whatever happens, the
requests are answered as by one flat map from keys to channels and deadlines; the lowest bits of a key's
hash always pick a bucket that there is; and with any other number of buckets and any other hash every
request is answered alike, in the same scene. -/
theorem sharding_invisible (hash : String → Nat) (k : Nat) (settings : ChannelSettings)
    (hasStore : Bool) (stored : settings.kind = .outer → hasStore = true) (now : Int) (ids : IdSource)
    (store : Store) (qs : List HubRequest) :
    ∃ h, new hash (2 ^ k) settings hasStore (.new now ids store) = .ok h ∧
      List.Forall₂ HubReply.Alike (h.replies qs)
        ((Directory.empty settings.lifetime).replies (h.scenes qs)) ∧
      (∀ key, (h.after qs).registry.bucketOf key = hash key &&& (2 ^ k - 1) ∧
        (h.after qs).registry.bucketOf key < (h.after qs).registry.buckets.length) ∧
      ∀ hash' k', ∃ h', new hash' (2 ^ k') settings hasStore (.new now ids store) = .ok h' ∧
        List.Forall₂ HubReply.Alike (h.replies qs) (h'.replies qs) ∧ h'.scenes qs = h.scenes qs := by
  obtain ⟨h, made⟩ := exists_new stored hash k (.new now ids store)
  have hs := sound_new made
  refine ⟨h, made, (tracks_empty made).replies hs qs, fun key => ?_, fun hash' k' => ?_⟩
  · exact (shaped_after (shaped_new made) qs).bucketOf key
  · obtain ⟨h', made'⟩ := exists_new stored hash' k' (.new now ids store)
    exact ⟨h', made', (resharded_new made made').replies hs (sound_new made') qs⟩

/-- Two buckets of which one gets all the keys, and eight; one of two keys expires. -/
theorem sharding_invisible_under_collisions :
    let qs : List HubRequest := [.event (.getOrCreate "a"), .event (.host (.connect 2)),
      .event (.call 0 (.attach "a" 1 0)), .event (.getOrCreate "b"), .size, .connectionCount,
      .event (.host (.clock 2000)), .event (.getOrCreate "b"), .event (.lookup "a"), .contains "a",
      .connectionCount, .event (.getOrCreate "a"), .event (.close "c"),
      .event (.migrate Ring.position "n" ["m"] 1), .event .closeAll, .isEmpty]
    let answers : List HubReply := [.channel (.ok 0), .silence, .silence, .channel (.ok 1), .count 2,
      .count 1, .silence, .channel (.ok 1), .channel (.error .expired), .flag false, .count 0,
      .channel (.ok 2), .closed (.error .notExist), .migrated (.error (.migrateRefused "n")), .count 2,
      .flag true]
    ∃ h h', new (fun _ => 5) 2 emptyHub.settings false (.new 10 .time (.ofMemory .new)) = .ok h ∧
      new Registry.spread 8 emptyHub.settings false (.new 10 .time (.ofMemory .new)) = .ok h' ∧
      h.replies qs = answers ∧
      List.Forall₂ HubReply.Alike answers ((Directory.empty 1000).replies (h.scenes qs)) ∧
      List.Forall₂ HubReply.Alike answers (h'.replies qs) := by
  intro qs answers
  obtain ⟨h, made, hflat, -, hother⟩ := sharding_invisible (fun _ => 5) 1 emptyHub.settings false
    (by decide) 10 .time (.ofMemory .new) qs
  obtain ⟨h', made', halike, -⟩ := hother Registry.spread 3
  have hreplies : h.replies qs = answers := by
    cases made
    rfl
  exact ⟨h, h', made, made', hreplies, hreplies ▸ hflat, hreplies ▸ halike⟩

end Hub

end PushRelay
