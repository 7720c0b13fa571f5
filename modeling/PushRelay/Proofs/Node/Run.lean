import PushRelay.Node.Admin
import PushRelay.Node.Membership
import PushRelay.Proofs.Node.Batch
import PushRelay.Proofs.Node.Subscriber
import PushRelay.Proofs.Ring

/-!
# Runs of a node

A `NodeEvent` is a request to a node, or something that happens around it.  Whatever the event, the hub of
the node goes through hub events, and a key that gets a channel is one that the event names.

    Opening e.keys n (n.step e)                                                    (opening_step)
    n.hub.Sound → (n.run es).hub.contains key = true →
      n.hub.contains key = true ∨ ∃ e ∈ es, key ∈ e.keys                           (contains_run)
-/

namespace PushRelay

/-- Few buckets fit, and so do few points, those of a node that is named twice counted twice. -/
theorem Config.fits_of_length {c : Config} (buckets : c.channelBuckets ≤ Registry.maxBuckets)
    (points : c.nodes.length * max c.vnodes 1 ≤ Ring.maxPoints) : c.fits = true :=
  Bool.and_eq_true_iff.2 ⟨decide_eq_true buckets, Ring.fits_of_length points⟩

/-! ## Keys that get channels -/

namespace Hub

variable {h h' : Hub} {p : String → Bool} {ids : List ChannelId} {key : String}

theorem contains_iff : h.contains key = true ↔ ∃ id, h.registry.find? key = some id :=
  Option.isSome_iff_exists

/-- A key whose channel is not taken away had it before. -/
theorem Dropped.contains (hd : Dropped p ids h h') (hk : h'.contains key = true) :
    h.contains key = true := by
  obtain ⟨id, hid⟩ := contains_iff.1 hk
  rw [hd.find?] at hid
  split at hid
  · cases hid
  · exact contains_iff.2 ⟨id, hid⟩

theorem contains_getOrCreate (hp : h.registry.Placed) (key key' : String) :
    (h.getOrCreate key).2.contains key' = true ↔ key' = key ∨ h.contains key' = true := by
  cases hf : h.registry.find? key with
  | none =>
    rw [contains_iff, (born_getOrCreate hf).registry]
    simp only [Registry.find?_insert hp]
    split
    · next hk => simp [hk]
    · next hk => simp [hk, contains_iff]
  | some id =>
    have hsame : (h.getOrCreate key).2.registry = h.registry := by
      unfold getOrCreate
      rw [hf]
      rfl
    rw [contains, hsame, ← contains]
    refine ⟨Or.inr, ?_⟩
    rintro (rfl | hk)
    · exact contains_iff.2 ⟨id, hf⟩
    · exact hk

/-- Only making a channel gives a key one. -/
theorem contains_step (hp : h.registry.Placed) (e : HubEvent)
    (hk : (h.step e).contains key = true) : h.contains key = true ∨ e = .getOrCreate key := by
  cases e with
  | getOrCreate key' =>
    rcases (contains_getOrCreate hp key' key).1 hk with rfl | hk
    · exact Or.inr rfl
    · exact Or.inl hk
  | lookup key' =>
    refine Or.inl ?_
    simp only [step, lookup] at hk
    split at hk
    · exact hk
    · next id hf =>
      split at hk
      · exact hk
      · split at hk
        · exact (dropped_erase hp hf).contains hk
        · exact hk
  | close key' =>
    refine Or.inl ?_
    simp only [step, close] at hk
    split at hk
    · exact hk
    · next id hf => exact (dropped_erase hp hf).contains hk
  | closeAll => exact Or.inl ((dropped_closeAll hp).contains hk)
  | migrate hash self nodes vnodes =>
    refine Or.inl ?_
    by_cases hs : self ∈ nodes
    · exact (dropped_migrate hp hs hash vnodes).contains hk
    · rwa [step, migrate_refused hs] at hk
  | call id call => exact Or.inl (by rwa [contains, step, (call_rest h id call).1] at hk)
  | host e => exact Or.inl hk

theorem Sound.contains_run (hs : h.Sound) (es : List HubEvent)
    (hk : (h.run es).contains key = true) : h.contains key = true ∨ .getOrCreate key ∈ es := by
  induction es generalizing h with
  | nil => exact Or.inl hk
  | cons e es ih =>
    rcases ih (hs.step e) hk with hk | hk
    · rcases contains_step hs.placed e hk with hk | rfl
      · exact Or.inl hk
      · exact Or.inr List.mem_cons_self
    · exact Or.inr (List.mem_cons_of_mem e hk)

end Hub

/-! ## Events -/

/-- The keys that a request names. -/
def AdminRequest.keys : AdminRequest → List String
  | .newChannel key | .closeChannel key | .addToken key _ => [key]
  | .push r => [r.key]
  | .pushBatch r => r.keys
  | .migrate .. | .stats => []

/-- What happens to a node. -/
inductive NodeEvent where
  | administer (r : AdminRequest)
  | subscribe (key : String) (heartbeat : Nat) (token : Option String) (lastId : Int)
  | unsubscribe (s : Subscription)
  /-- The node hears which members there are. -/
  | sync (members : List String)
  | host (e : HostEvent)

/-- The keys that an event names. -/
def NodeEvent.keys : NodeEvent → List String
  | .administer r => r.keys
  | .subscribe key .. => [key]
  | .unsubscribe _ | .sync _ | .host _ => []

namespace Node

def step (n : Node) : NodeEvent → Node
  | .administer r => (n.administer r).2
  | .subscribe key heartbeat token lastId => (n.subscribe key heartbeat token lastId).2
  | .unsubscribe s => n.unsubscribe s
  | .sync members => (n.syncOnce members).2
  | .host e => { n with hub := n.hub.step (.host e) }

def run (n : Node) (es : List NodeEvent) : Node := es.foldl step n

variable {n n' n'' : Node} {key : String} {keys : List String}

/-! ## What an event opens -/

/-- From `n` to `n'` the hub goes through events that make channels for these keys only. -/
def Opening (keys : List String) (n n' : Node) : Prop :=
  ∃ es, n'.hub = n.hub.run es ∧ ∀ key, .getOrCreate key ∈ es → key ∈ keys

theorem Opening.refl (keys : List String) (n : Node) : Opening keys n n :=
  ⟨[], rfl, fun _ hk => by cases hk⟩

theorem Opening.trans (ho : Opening keys n n') (ho' : Opening keys n' n'') : Opening keys n n'' := by
  obtain ⟨es, hes, hkeys⟩ := ho
  obtain ⟨fs, hfs, hkeys'⟩ := ho'
  refine ⟨es ++ fs, by rw [hfs, hes, Hub.run_append], fun key hk => ?_⟩
  rcases List.mem_append.1 hk with hk | hk
  · exact hkeys key hk
  · exact hkeys' key hk

/-- One hub event. -/
theorem Opening.event (e : HubEvent) (hh : n'.hub = n.hub.step e)
    (hk : ∀ key, e = .getOrCreate key → key ∈ keys) : Opening keys n n' :=
  ⟨[e], hh, fun key he => hk key (List.mem_singleton.1 he).symm⟩

theorem Opening.sound (ho : Opening keys n n') (hs : n.hub.Sound) : n'.hub.Sound := by
  obtain ⟨es, hes, -⟩ := ho
  exact hes ▸ hs.run es

theorem Opening.contains (ho : Opening keys n n') (hs : n.hub.Sound)
    (hk : n'.hub.contains key = true) : n.hub.contains key = true ∨ key ∈ keys := by
  obtain ⟨es, hes, hkeys⟩ := ho
  rw [hes] at hk
  exact (hs.contains_run es hk).imp_right (hkeys key)

theorem opening_drawId (n : Node) : Opening keys n n.drawId.2 := .event (.host .draw) rfl nofun

theorem opening_assignId (n : Node) (requested : Int) : Opening keys n (n.assignId requested).2 := by
  have hd : Opening keys n n.drawId.2 := opening_drawId n
  unfold assignId
  split
  · split
    · next he => rwa [he] at hd
    · next he => rwa [he] at hd
  · split
    · exact .refl keys n
    · exact .refl keys n

theorem opening_migrate (n : Node) (nodes : List String) (vnodes : Nat) :
    Opening keys n (n.migrate nodes vnodes).2 := by
  refine .event (.migrate n.ring.hash n.config.nodeId nodes vnodes) ?_ nofun
  unfold migrate
  simp only [Hub.step]
  rcases n.hub.migrate n.ring.hash n.config.nodeId nodes vnodes with ⟨_ | _, hub⟩
  · rfl
  · rfl

theorem opening_channelForPush (n : Node) (hk : key ∈ keys) :
    Opening keys n (n.channelForPush key).2 := by
  unfold channelForPush
  split
  · next hub hl => exact .event (.lookup key) (congrArg Prod.snd hl).symm nofun
  · next hub hl =>
    have hlook : Opening keys n { n with hub } :=
      .event (.lookup key) (congrArg Prod.snd hl).symm nofun
    exact hlook.trans (.event (.getOrCreate key) rfl fun key' he => by cases he; exact hk)

theorem opening_pushTo (n : Node) (hk : key ∈ keys) (m : Message) :
    Opening keys n (n.pushTo key m).2 :=
  (opening_channelForPush n hk).trans
    (.event (.call (n.channelForPush key).1 (.push key m)) rfl nofun)

theorem opening_pushEach (m : Message) (n : Node) {ks : List String} (hk : ks ⊆ keys) :
    Opening keys n (n.pushEach m ks).2 := by
  rw [pushEach_visits]
  induction ks generalizing n with
  | nil => exact .refl keys n
  | cons key ks ih =>
    obtain ⟨hkey, hks⟩ := List.cons_subset.1 hk
    exact (opening_pushTo n hkey m).trans (ih (n.pushTo key m).2 hks)

theorem opening_adminPush (n : Node) (r : PushRequest) (hk : r.key ∈ keys) :
    Opening keys n (n.adminPush r).2 := by
  have hid : Opening keys n (n.assignId r.id).2 := opening_assignId n r.id
  unfold adminPush
  split
  · exact .refl keys n
  · split
    · next he => rwa [he] at hid
    · next he =>
      rw [he] at hid
      split
      · exact hid
      · exact hid.trans (opening_pushTo _ hk _)

theorem opening_adminBatch (n : Node) (r : BatchRequest) : Opening r.keys n (n.adminBatch r).2 := by
  have hid : Opening r.keys n (n.assignId 0).2 := opening_assignId n 0
  unfold adminBatch
  split
  · exact .refl r.keys n
  · split
    · next he => rwa [he] at hid
    · next he =>
      rw [he] at hid
      split
      · exact hid
      · exact hid.trans (opening_pushEach _ _ fun _ hk => hk)

theorem opening_administer (n : Node) (r : AdminRequest) :
    Opening r.keys n (n.administer r).2 := by
  have hself (key : String) : key ∈ [key] := List.mem_singleton_self key
  cases r with
  | newChannel key =>
    simp only [administer]
    split
    · exact .refl _ n
    · exact .event (.getOrCreate key) rfl fun key' he => by cases he; exact hself key
  | closeChannel key =>
    simp only [administer]
    split
    · exact .refl _ n
    · exact .event (.close key) rfl nofun
  | push r => exact opening_adminPush n r (hself r.key)
  | pushBatch r => exact opening_adminBatch n r
  | addToken key token =>
    simp only [administer]
    split
    · exact .refl _ n
    · split
      · exact .refl _ n
      · refine ⟨[.getOrCreate key, .call (n.hub.getOrCreate key).1 (.addToken token)], rfl, ?_⟩
        intro key' he
        rcases List.mem_cons.1 he with he | he
        · cases he
          exact hself key
        · cases List.mem_singleton.1 he
  | migrate nodes vnodes =>
    simp only [administer]
    split
    · exact .refl _ n
    · exact opening_migrate n nodes _
  | stats => exact .refl _ n

/-! ## Subscribers -/

theorem opening_channelOf (n : Node) (key : String) : Opening [key] n (n.channelOf key).2 :=
  .event (.getOrCreate key) rfl fun key' he => by cases he; exact List.mem_singleton_self key

theorem opening_authenticate (n : Node) (id : ChannelId) (token : Option String) :
    Opening keys n (n.authenticate id token).2 := by
  have ha := authenticate_asked n id token
  generalize n.authenticate id token = out at ha
  cases ha with
  | unasked r => exact .refl keys n
  | asked r ticket => exact .event (.call id (.authToken ticket)) rfl nofun

theorem opening_attach (n : Node) (id : ChannelId) (key : String) (heartbeat : Nat) (lastId : Int) :
    Opening keys n (n.attach id key heartbeat lastId).2 := by
  have hj := attach_joining n id key heartbeat lastId
  generalize n.attach id key heartbeat lastId = out at hj
  cases hj with
  | tooDeep => exact .refl keys n
  | refused he => exact ⟨_, rfl, by simp [joining]⟩
  | joined hok => exact ⟨_, rfl, by simp [joining, counted]⟩

theorem opening_unsubscribe (n : Node) (s : Subscription) : Opening keys n (n.unsubscribe s) := by
  rw [unsubscribe_through]
  exact ⟨parting s, rfl, by simp [parting]⟩

theorem opening_replay (n : Node) (s : Subscription) (lastId : Int) :
    Opening keys n (n.replay s lastId).2 := by
  have hcall : Opening keys n (n.through [.call s.channel (.replay s.conn lastId)]) :=
    .event (.call s.channel (.replay s.conn lastId)) rfl nofun
  have hr := replay_resumed n s lastId
  generalize n.replay s lastId = out at hr
  cases hr with
  | resumed => exact hcall
  | ended e => exact hcall.trans (opening_unsubscribe _ s)

theorem opening_subscribe (n : Node) (key : String) (heartbeat : Nat) (token : Option String)
    (lastId : Int) : Opening [key] n (n.subscribe key heartbeat token lastId).2 := by
  unfold subscribe
  split
  · exact .refl _ n
  · next granted _ =>
    let entered := n.channelOf key
    have hauth := (opening_channelOf n key).trans (opening_authenticate entered.2 entered.1 token)
    simp only
    split
    · next ha => rwa [ha] at hauth
    · next n₂ ha =>
      rw [ha] at hauth
      have hattach := hauth.trans (opening_attach n₂ entered.1 key granted lastId)
      split
      · next hat => rwa [hat] at hattach
      · next s n₃ hat =>
        rw [hat] at hattach
        have hreplay := hattach.trans (opening_replay n₃ s lastId)
        split
        · next hr => rwa [hr] at hreplay
        · next hr => rwa [hr] at hreplay

/-! ## Runs -/

theorem opening_step (n : Node) (e : NodeEvent) : Opening e.keys n (n.step e) := by
  cases e with
  | administer r => exact opening_administer n r
  | subscribe key heartbeat token lastId => exact opening_subscribe n key heartbeat token lastId
  | unsubscribe s => exact opening_unsubscribe n s
  | sync members =>
    simp only [step, syncOnce]
    split
    · exact .refl _ n
    · exact opening_migrate n _ _
  | host e => exact .event (.host e) rfl nofun

theorem sound_run (hs : n.hub.Sound) (es : List NodeEvent) : (n.run es).hub.Sound := by
  induction es generalizing n with
  | nil => exact hs
  | cons e es ih => exact ih ((opening_step n e).sound hs)

/-- A key that has got a channel in a run was named in it. -/
theorem contains_run (hs : n.hub.Sound) (es : List NodeEvent)
    (hk : (n.run es).hub.contains key = true) :
    n.hub.contains key = true ∨ ∃ e ∈ es, key ∈ e.keys := by
  induction es generalizing n with
  | nil => exact Or.inl hk
  | cons e es ih =>
    rcases ih ((opening_step n e).sound hs) hk with hk | ⟨e', he', hk⟩
    · rcases (opening_step n e).contains hs hk with hk | hk
      · exact Or.inl hk
      · exact Or.inr ⟨e, List.mem_cons_self, hk⟩
    · exact Or.inr ⟨e', List.mem_cons_of_mem e he', hk⟩

/-- One of two nodes, just made in November 2023. -/
def newNode : Node :=
  let config := { Config.loopback with nodes := ["3", "1", "3"], vnodes := 1 }
  { config
    hub := ⟨config.channelSettings, ⟨Registry.spread, List.replicate 8 .empty⟩, .empty, 0,
      .new 1700000000000000000 Desk.emptyNode.hub.host.ids (.ofMemory .new)⟩
    ring := .ofNodes Ring.position config.nodes config.vnodes }

theorem made_newNode :
    withStore Ring.position newNode.config none 1700000000000000000 = .ok newNode :=
  withStore_of_fits rfl rfl (Config.fits_of_length (by decide) (by decide))

end Node

end PushRelay
