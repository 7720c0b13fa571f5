import PushRelay.Proofs.Node.Gate

/-!
# Subscribers that a migration strands

A subscriber's key is checked against the ring, and a step later it gets its channel.  If a migration that
gives the key away has been through the key's bucket by then, it does not come back for the new channel, and
the subscriber is left on a channel that the node does not own.

    g.Stranded i → the key was checked before the ring was installed, and the channel was found
      after the migration to that ring had been through the key's bucket            (stranded_across_a_migration)

`Guarded` is what holds of a gate at all times: a caller's channel is closed, or waits for the migration to
close it, or still has the caller's key, and then that key is the node's own by the ring its bucket was last
scanned for, unless the caller has let a migration pass.
-/

namespace PushRelay.Gate

variable {g : Gate} {c : Caller} {m : Migration} {n : Node} {i : Nat} {id : ChannelId} {key : String}

/-! ## What subscribers do to a node -/

/-- From `n` to `n'` things happen to the hub only. -/
structure HubOnly (n n' : Node) : Prop where
  config : n'.config = n.config
  ring : n'.ring = n.ring
  hub : ∃ es, n'.hub = n.hub.run es

theorem HubOnly.later {n n' : Node} (hn : HubOnly n n') (hs : n.hub.Steady) : n.hub.Later n'.hub := by
  obtain ⟨es, hes⟩ := hn.hub
  rw [hes]
  exact hs.later_run es

theorem hubOnly_through (n : Node) (es : List HubEvent) : HubOnly n (n.through es) :=
  ⟨rfl, rfl, es, rfl⟩

theorem hubOnly_channelOf (n : Node) (key : String) : HubOnly n (n.channelOf key).2 :=
  hubOnly_through n [.getOrCreate key]

theorem hubOnly_authenticate (n : Node) (id : ChannelId) (token : Option String) :
    HubOnly n (n.authenticate id token).2 := by
  have ha := n.authenticate_asked id token
  generalize n.authenticate id token = out at ha
  cases ha with
  | unasked r => exact hubOnly_through n _
  | asked r ticket => exact hubOnly_through n _

theorem hubOnly_attach (n : Node) (id : ChannelId) (key : String) (heartbeat : Nat) (lastId : Int) :
    HubOnly n (n.attach id key heartbeat lastId).2 := by
  have hj := n.attach_joining id key heartbeat lastId
  generalize n.attach id key heartbeat lastId = out at hj
  cases hj with
  | tooDeep => exact hubOnly_through n _
  | refused he => exact hubOnly_through n _
  | joined hok => exact hubOnly_through n _

theorem hubOnly_unsubscribe (n : Node) (s : Subscription) : HubOnly n (n.unsubscribe s) := by
  rw [n.unsubscribe_through]
  exact hubOnly_through n _

theorem hubOnly_replay (n : Node) (s : Subscription) (lastId : Int) :
    HubOnly n (n.replay s lastId).2 := by
  have hr := n.replay_resumed s lastId
  generalize n.replay s lastId = out at hr
  cases hr with
  | resumed => exact hubOnly_through n _
  | ended e => exact hubOnly_through n (.call s.channel (.replay s.conn lastId) :: Node.parting s)

/-! ## What holds at all times -/

/-- The ring that the bucket of a key was last scanned for. -/
def coming (g : Gate) (key : String) : Ring :=
  match g.migration with
  | none => g.node.ring
  | some m => if g.node.hub.registry.bucketOf key < m.scanned then m.ring else g.node.ring

/-- The channels that have lost their keys and are yet to be closed. -/
def pending (g : Gate) : List ChannelId := (g.migration.map (·.pending)).getD []

theorem pending_of_migration (hm : g.migration = some m) : g.pending = m.pending := by
  rw [pending, hm]
  rfl

theorem mem_pending {pending : List ChannelId} (hm : g.migration = some m)
    (hp : m.pending = id :: pending) : id ∈ g.pending := by
  rw [pending_of_migration hm, hp]
  exact List.mem_cons_self

/-- A migration has been through the key's bucket after the check and before the channel was found, and
none has since. -/
def Crossed (g : Gate) (c : Caller) : Prop :=
  c.checkedBy < g.scans c.key ∧ c.enteredAfter = g.scans c.key

/-- A channel has a subscriber's key, and unless the subscriber has let a migration pass the key is the
node's own. -/
def Kept (g : Gate) (c : Caller) (id : ChannelId) : Prop :=
  g.node.hub.registry.find? c.key = some id ∧
    ((g.coming c.key).owns g.node.config.nodeId c.key = true ∨ Crossed g c)

/-- What holds of a subscriber at all times. -/
structure Tracked (g : Gate) (c : Caller) : Prop where
  checkedBy : c.checkedBy ≤ g.installed
  granted : ∀ heartbeat, c.entry = .granted heartbeat → c.checkedBy = g.installed →
    g.node.owns c.key = true
  key : ∀ s, c.entry.subscription? = some s → s.key = c.key
  channel : ∀ id, c.entry.channel? = some id → id < g.node.hub.nextChannel ∧
    (g.node.hub.IsOpen id → id ∈ g.pending ∨ Kept g c id)

structure Guarded (g : Gate) : Prop where
  steady : g.node.hub.Steady
  pending : ∀ id ∈ g.pending, id < g.node.hub.nextChannel ∧
    ∀ key, g.node.hub.registry.find? key ≠ some id
  callers : ∀ i, Tracked g (g.callers i)

theorem guarded_start (hn : n.hub.Sound) (requests : Nat → SubscribeRequest) :
    Guarded (start n requests) where
  steady := hn.toSteady
  pending := nofun
  callers := by
    intro i
    refine ⟨Nat.le_refl _, ?_, ?_, ?_⟩
    · intro heartbeat he
      cases he
    · intro s he
      cases he
    · intro id he
      cases he

theorem Guarded.setCaller (h : Guarded g) (i : Nat) (hc : Tracked g c) :
    Guarded (g.setCaller i c) where
  steady := h.steady
  pending := h.pending
  callers := by
    intro j
    show Tracked (g.setCaller i c) (if j = i then c else g.callers j)
    split
    · exact { hc with }
    · exact { h.callers j with }

theorem Kept.congr {g' : Gate} (hk : Kept g c id)
    (hf : g'.node.hub.registry.find? c.key = some id) (hself : g'.node.config = g.node.config)
    (hring : g'.coming c.key = g.coming c.key) (hscans : g'.scans c.key = g.scans c.key) :
    Kept g' c id := by
  unfold Kept Crossed
  rw [hself, hring, hscans]
  exact ⟨hf, hk.2⟩

/-- Where keys keep their buckets, a migration has been through those it has been through. -/
theorem scans_withNode (hb : ∀ key, n.hub.registry.bucketOf key = g.node.hub.registry.bucketOf key)
    (key : String) : ({ g with node := n } : Gate).scans key = g.scans key := by
  simp only [scans, hb]

theorem coming_withNode (hb : ∀ key, n.hub.registry.bucketOf key = g.node.hub.registry.bucketOf key)
    (hr : n.ring = g.node.ring) (key : String) :
    ({ g with node := n } : Gate).coming key = g.coming key := by
  simp only [coming, hb, hr]

/-- A bucket that has been scanned no more often than rings have been installed was last scanned for the
ring that is installed. -/
theorem coming_of_scans_le (hs : g.scans key ≤ g.installed) : g.coming key = g.node.ring := by
  unfold scans at hs
  unfold coming
  split
  · rfl
  · next m hm =>
    rw [hm] at hs
    split
    · next hlt =>
      simp only [if_pos hlt] at hs
      omega
    · rfl

theorem installed_le_scans (g : Gate) (key : String) : g.installed ≤ g.scans key := by
  unfold scans
  split
  · omega
  · split
    · omega
    · omega

/-- What happens to the hub alone does not put a subscriber where it should not be. -/
theorem Tracked.withNode (ht : Tracked g c) (hs : g.node.hub.Steady) (hn : HubOnly g.node n) :
    Tracked { g with node := n } c := by
  have hlater := hn.later hs
  refine ⟨ht.checkedBy, fun heartbeat he hc => ?_, ht.key, fun id hid => ?_⟩
  · show n.ring.owns n.config.nodeId c.key = true
    rw [hn.ring, hn.config]
    exact ht.granted heartbeat he hc
  · obtain ⟨hlt, hopen⟩ := ht.channel id hid
    refine ⟨Nat.lt_of_lt_of_le hlt hlater.next, fun ho => ?_⟩
    obtain ⟨ho, hkept⟩ := hlater.kept id hlt ho
    exact (hopen ho).imp_right fun hk => hk.congr (hkept c.key hk.1) hn.config
      (coming_withNode hlater.bucketOf hn.ring c.key) (scans_withNode hlater.bucketOf c.key)

theorem Guarded.withNode (h : Guarded g) (hn : HubOnly g.node n) : Guarded { g with node := n } := by
  have hlater := hn.later h.steady
  refine ⟨?_, fun id hid => ?_, fun i => (h.callers i).withNode h.steady hn⟩
  · obtain ⟨es, hes⟩ := hn.hub
    show n.hub.Steady
    rw [hes]
    exact h.steady.run es
  · obtain ⟨hlt, hnone⟩ := h.pending id hid
    exact ⟨Nat.lt_of_lt_of_le hlt hlater.next, hlater.unkeyed id hlt hnone⟩

/-- A subscriber that is turned away or leaves is nobody's concern. -/
theorem Tracked.gone (ht : Tracked g c) {entry : Entry} (hg : ∀ heartbeat, entry ≠ .granted heartbeat)
    (hs : entry.channel? = none) (hsub : entry.subscription? = none) :
    Tracked g { c with entry } where
  checkedBy := ht.checkedBy
  granted := fun heartbeat he => absurd he (hg heartbeat)
  key := by
    intro s he
    rw [hsub] at he
    cases he
  channel := by
    intro id he
    rw [hs] at he
    cases he

/-- A subscriber's step that keeps to the channel the subscriber has been led to. -/
theorem Tracked.further (ht : Tracked g c) {entry : Entry}
    (hg : ∀ heartbeat, entry ≠ .granted heartbeat) (hs : entry.channel? = c.entry.channel?)
    (hsub : ∀ s, entry.subscription? = some s → s.key = c.key) : Tracked g { c with entry } where
  checkedBy := ht.checkedBy
  granted := fun heartbeat he => absurd he (hg heartbeat)
  key := hsub
  channel := by
    intro id he
    exact ht.channel id (hs.symm.trans he)

/-- A step of a subscriber ends the call. -/
theorem Guarded.move_out (h : Guarded g) (hn : HubOnly g.node n) (i : Nat) {entry : Entry}
    (hg : ∀ heartbeat, entry ≠ .granted heartbeat) (hs : entry.channel? = none)
    (hsub : entry.subscription? = none) : Guarded (g.move i n entry) :=
  (h.withNode hn).setCaller i (((h.withNode hn).callers i).gone hg hs hsub)

/-- A step takes a subscriber further on the same channel. -/
theorem Guarded.move_on (h : Guarded g) (hn : HubOnly g.node n) (i : Nat) {entry : Entry}
    (hg : ∀ heartbeat, entry ≠ .granted heartbeat)
    (hs : entry.channel? = (g.callers i).entry.channel?)
    (hsub : ∀ s, entry.subscription? = some s → s.key = (g.callers i).key) :
    Guarded (g.move i n entry) :=
  (h.withNode hn).setCaller i (((h.withNode hn).callers i).further hg hs hsub)

/-! ## Steps of subscribers -/

theorem grant_ok {key : String} {requested heartbeat : Nat}
    (hg : n.grant key requested = .ok heartbeat) : n.owns key = true := by
  unfold Node.grant at hg
  split at hg
  · cases hg
  · split at hg
    · cases hg
    · split at hg
      · next ho => exact ho
      · cases hg

theorem attach_ok {id : ChannelId} {key : String} {heartbeat : Nat} {lastId : Int} {s : Subscription}
    (ha : (n.attach id key heartbeat lastId).1 = .ok s) : s.key = key ∧ s.channel = id := by
  have hj := n.attach_joining id key heartbeat lastId
  generalize n.attach id key heartbeat lastId = out at hj ha
  cases hj with
  | tooDeep => cases ha
  | refused he => cases ha
  | joined hok =>
    cases ha
    exact ⟨rfl, rfl⟩

theorem Guarded.check (h : Guarded g) (i : Nat) : Guarded (g.check i) := by
  unfold Gate.check
  simp only
  split
  · split
    · next heartbeat hg =>
      refine h.setCaller i ?_
      refine ⟨Nat.le_refl _, fun _ _ _ => grant_ok hg, ?_, ?_⟩
      · intro s he
        cases he
      · intro id he
        cases he
    · exact h.move_out ⟨rfl, rfl, [], rfl⟩ i (by simp) rfl rfl
  · exact h

theorem Guarded.enter (h : Guarded g) (i : Nat) : Guarded (g.enter i) := by
  unfold Gate.enter
  simp only
  split
  · next heartbeat he =>
    have ht := h.callers i
    have hn := hubOnly_channelOf g.node (g.callers i).key
    have h' := h.withNode hn
    have hb := (hn.later h.steady).bucketOf
    obtain ⟨hk, ch, hch, -⟩ := h.steady.getOrCreate_isOpen (g.callers i).key
    refine h'.setCaller i ⟨ht.checkedBy, by simp, by simp [Entry.subscription?], fun id hid => ?_⟩
    cases hid
    refine ⟨h'.steady.lt_of_get? hch, fun _ => Or.inr ⟨hk, ?_⟩⟩
    rcases Nat.lt_or_ge (g.callers i).checkedBy (g.scans (g.callers i).key) with hlt | hge
    · have hscans := scans_withNode hb (g.callers i).key
      exact Or.inr ⟨hscans.symm ▸ hlt, hscans.symm⟩
    · -- the bucket was last scanned for the ring that is installed, and so was the key checked
      have hle := ht.checkedBy
      have hscans := g.installed_le_scans (g.callers i).key
      have hlast : g.coming (g.callers i).key = g.node.ring := coming_of_scans_le (by omega)
      have hring := (coming_withNode hb hn.ring (g.callers i).key).trans hlast
      refine Or.inl ?_
      show (Gate.coming { g with node := _ } _).owns g.node.config.nodeId _ = true
      rw [hring]
      exact ht.granted heartbeat he (by omega)
  · exact h

theorem Guarded.authenticate (h : Guarded g) (i : Nat) : Guarded (g.authenticate i) := by
  unfold Gate.authenticate
  simp only
  split
  · next heartbeat id he =>
    have hn := hubOnly_authenticate g.node id (g.callers i).token
    split
    · next node ha =>
      rw [ha] at hn
      refine h.move_on hn i (by simp) ?_ ?_
      · exact (congrArg Entry.channel? he).symm
      · intro s hs
        cases hs
    · next e node ha =>
      rw [ha] at hn
      exact h.move_out hn i (by simp) rfl rfl
  · exact h

theorem Guarded.attach (h : Guarded g) (i : Nat) : Guarded (g.attach i) := by
  unfold Gate.attach
  simp only
  split
  · next heartbeat id he =>
    have hn := hubOnly_attach g.node id (g.callers i).key heartbeat (g.callers i).lastId
    have hok := @attach_ok g.node id (g.callers i).key heartbeat (g.callers i).lastId
    split
    · next s node ha =>
      rw [ha] at hn hok
      obtain ⟨hkey, hid⟩ := hok rfl
      refine h.move_on hn i (by simp) ?_ ?_
      · exact (congrArg some hid).trans (congrArg Entry.channel? he).symm
      · intro s' hs
        cases hs
        exact hkey
    · next e node ha =>
      rw [ha] at hn
      exact h.move_out hn i (by simp) rfl rfl
  · exact h

theorem Guarded.replay (h : Guarded g) (i : Nat) : Guarded (g.replay i) := by
  unfold Gate.replay
  simp only
  split
  · next s he =>
    have hn := hubOnly_replay g.node s (g.callers i).lastId
    split
    · next node hr =>
      rw [hr] at hn
      refine h.move_on hn i (by simp) ?_ ?_
      · exact (congrArg Entry.channel? he).symm
      · intro s' hs
        cases hs
        exact (h.callers i).key s (congrArg Entry.subscription? he)
    · next e node hr =>
      rw [hr] at hn
      exact h.move_out hn i (by simp) rfl rfl
  · exact h

theorem Guarded.leave (h : Guarded g) (i : Nat) : Guarded (g.leave i) := by
  unfold Gate.leave
  split
  · next s he =>
    exact h.move_out (hubOnly_unsubscribe g.node s) i (by simp) rfl rfl
  · exact h

/-! ## Steps of migrations -/

/-- A migration does what is next.  It is enough to look at the channels that subscribers have been led
to. -/
theorem Guarded.advance (h : Guarded g) {hub : Hub} (steady : hub.Steady)
    (next : hub.nextChannel = g.node.hub.nextChannel)
    (pending : ∀ id ∈ m.pending, id < g.node.hub.nextChannel ∧ ∀ key, hub.registry.find? key ≠ some id)
    (channel : ∀ c id, (g.node.hub.IsOpen id → id ∈ g.pending ∨ Kept g c id) → hub.IsOpen id →
      id ∈ m.pending ∨ Kept (g.advance hub m) c id) : Guarded (g.advance hub m) where
  steady := steady
  pending := by
    intro id hid
    obtain ⟨hlt, hnone⟩ := pending id hid
    exact ⟨next.symm ▸ hlt, hnone⟩
  callers := by
    intro i
    have ht := h.callers i
    refine ⟨ht.checkedBy, ht.granted, ht.key, fun id hid => ?_⟩
    obtain ⟨hlt, hopen⟩ := ht.channel id hid
    exact ⟨next.symm ▸ hlt, channel _ id hopen⟩

theorem Guarded.prepare (h : Guarded g) (nodes : List String) (vnodes : Nat) :
    Guarded (g.prepare nodes vnodes) := by
  unfold Gate.prepare
  split
  · exact h
  · next hm =>
    split
    · refine h.advance h.steady rfl nofun fun c id hopen ho => Or.inr ?_
      have hk : Kept g c id := (hopen ho).resolve_left (by simp [Gate.pending, hm])
      exact hk.congr hk.1 rfl (by simp [coming, Gate.advance, hm]) (by simp [scans, Gate.advance, hm])
    · exact h

/-- The migration under way has come further, but not in the bucket of a subscriber's key. -/
theorem Kept.advance {hub : Hub} {m' : Migration} (hk : Kept g c id) (hm : g.migration = some m)
    (hring : m'.ring = m.ring)
    (hb : hub.registry.bucketOf c.key = g.node.hub.registry.bucketOf c.key)
    (hs : g.node.hub.registry.bucketOf c.key < m'.scanned ↔
      g.node.hub.registry.bucketOf c.key < m.scanned)
    (hf : hub.registry.find? c.key = some id) : Kept (g.advance hub m') c id := by
  refine hk.congr hf rfl ?_ ?_
  · simp only [coming, Gate.advance, hm, hring, hb, hs]
  · simp only [scans, Gate.advance, hm, hb, hs]

section Scan

variable {bucket : Table String ChannelId}

theorem pruned_eq_some (hk : (g.pruned m).find? key = some id) :
    g.node.hub.registry.find? key = some id ∧
      (g.node.hub.registry.bucketOf key = m.scanned → m.ring.owns g.node.config.nodeId key = true) := by
  rw [pruned, Registry.find?_filterBucket] at hk
  split at hk
  · cases hk
  · next hn => exact ⟨hk, fun hb => Bool.not_eq_false _ |>.mp fun ho => hn ⟨hb, ho⟩⟩

/-- No key has a channel any more that its key has lost. -/
theorem Guarded.unkeyed_given (h : Guarded g)
    (hb : g.node.hub.registry.buckets[m.scanned]? = some bucket)
    (hid : id ∈ (g.given m bucket).map Prod.snd) :
    id < g.node.hub.nextChannel ∧ ∀ key, (g.pruned m).find? key ≠ some id := by
  obtain ⟨e, he, rfl⟩ := List.mem_map.1 hid
  obtain ⟨hmem, howns⟩ := List.mem_filter.1 he
  obtain ⟨hbucket, hfind⟩ := (Registry.mem_bucket h.steady.placed hb).1 hmem
  obtain ⟨ch, hch, -⟩ := h.steady.serving e.1 e.2 hfind
  refine ⟨h.steady.lt_of_get? hch, fun key hk => ?_⟩
  obtain ⟨hk, hown⟩ := pruned_eq_some hk
  cases h.steady.single key e.1 e.2 hk hfind
  rw [hown hbucket] at howns
  cases howns

/-- A subscriber's key loses its channel, or keeps it and is the node's own by the ring of the migration. -/
theorem Kept.scan (hk : Kept g c id) (hp : g.node.hub.registry.Placed) (hm : g.migration = some m)
    (hb : g.node.hub.registry.buckets[m.scanned]? = some bucket) :
    id ∈ (g.given m bucket).map Prod.snd ∨ Kept (g.scan m bucket) c id := by
  have hfind := Registry.find?_filterBucket g.node.hub.registry m.scanned
    (m.ring.owns g.node.config.nodeId) c.key
  by_cases hbucket : g.node.hub.registry.bucketOf c.key = m.scanned
  · cases howns : m.ring.owns g.node.config.nodeId c.key with
    | false =>
      have hmem := (Registry.mem_bucket hp hb).2 ⟨hbucket, hk.1⟩
      exact Or.inl (List.mem_map.2 ⟨(c.key, id), List.mem_filter.2 ⟨hmem, by simp [howns]⟩, rfl⟩)
    | true =>
      rw [if_neg (by simp [howns]), hk.1] at hfind
      refine Or.inr ⟨hfind, Or.inl ?_⟩
      have hlt : (g.pruned m).bucketOf c.key < m.scanned + 1 := by
        rw [pruned, Registry.bucketOf_filterBucket]
        omega
      show (if (g.pruned m).bucketOf c.key < m.scanned + 1 then m.ring else _).owns _ _ = true
      rw [if_pos hlt]
      exact howns
  · rw [if_neg fun ho => hbucket ho.1, hk.1] at hfind
    refine Or.inr (hk.advance hm rfl (Registry.bucketOf_filterBucket _ _ _ _) ?_ hfind)
    show _ < m.scanned + 1 ↔ _
    omega

theorem Guarded.scan (h : Guarded g) (hm : g.migration = some m)
    (hb : g.node.hub.registry.buckets[m.scanned]? = some bucket) : Guarded (g.scan m bucket) := by
  have hsteady := h.steady.unkeyed (r := g.pruned m) (h.steady.placed.filterBucket _ _) fun key id hk =>
    (pruned_eq_some hk).1
  refine h.advance hsteady rfl (fun id hid => ?_) fun c id hopen ho => ?_
  · rcases List.mem_append.1 hid with hid | hid
    · obtain ⟨hlt, hnone⟩ := h.pending id (pending_of_migration hm ▸ hid)
      exact ⟨hlt, fun key hk => hnone key (pruned_eq_some hk).1⟩
    · exact h.unkeyed_given hb hid
  · rcases hopen ho with hid | hk
    · exact Or.inl (List.mem_append_left _ (pending_of_migration hm ▸ hid))
    · exact (hk.scan h.steady.placed hm hb).imp_left (List.mem_append_right _)

end Scan

theorem Guarded.closeNext (h : Guarded g) (hm : g.migration = some m) {pending : List ChannelId}
    (hp : m.pending = id :: pending) : Guarded (g.closeNext m id pending) := by
  have hmem (id' : ChannelId) : id' ∈ g.pending ↔ id' = id ∨ id' ∈ pending := by
    rw [pending_of_migration hm, hp, List.mem_cons]
  have hd := Hub.dropped_unkeyed h.steady.placed (h.pending id ((hmem id).2 (Or.inl rfl))).2
  have hreg := (Hub.closeChannel_rest g.node.hub id).1
  refine h.advance (h.steady.dropped hd) hd.nextChannel (fun id' hid' => ?_) fun c id' hopen ho => ?_
  · rw [hreg]
    exact h.pending id' ((hmem id').2 (Or.inr hid'))
  · obtain ⟨hne, ho⟩ := (hd.isOpen id').1 ho
    refine (hopen ho).imp (fun hid' => ?_) fun hk => ?_
    · exact ((hmem id').1 hid').resolve_left fun he => hne (List.mem_singleton.2 he)
    · exact hk.advance hm rfl (hd.bucketOf c.key) Iff.rfl (hreg ▸ hk.1)

/-- All buckets have been scanned for the ring that is installed. -/
theorem Guarded.install (h : Guarded g) (hm : g.migration = some m)
    (hb : g.node.hub.registry.buckets[m.scanned]? = none) (hp : m.pending = []) :
    Guarded (g.install m) := by
  have hlt (key : String) : g.node.hub.registry.bucketOf key < m.scanned :=
    Nat.lt_of_lt_of_le (Nat.mod_lt _ h.steady.placed.nonempty) (List.getElem?_eq_none_iff.1 hb)
  have hpending : g.pending = [] := (pending_of_migration hm).trans hp
  refine ⟨h.steady.around rfl rfl rfl (.congr rfl rfl), nofun, fun i => ?_⟩
  have ht := h.callers i
  refine ⟨Nat.le_succ_of_le ht.checkedBy, fun _ _ hc => ?_, ht.key, fun id hid => ?_⟩
  · have hc : (g.callers i).checkedBy = g.installed + 1 := hc
    have hle := ht.checkedBy
    omega
  · obtain ⟨hnext, hopen⟩ := ht.channel id hid
    refine ⟨hnext, fun ho => Or.inr ?_⟩
    have hk := (hopen ho).resolve_left (by simp [hpending])
    exact hk.congr hk.1 rfl (by simp [coming, Gate.install, hm, hlt])
      (by simp [scans, Gate.install, hm, hlt])

theorem Guarded.proceed (h : Guarded g) : Guarded g.proceed := by
  have hd := g.proceed_due
  generalize g.proceed = g' at hd
  cases hd with
  | nothing _ => exact h
  | scan hm hb => exact h.scan hm hb
  | closeNext hm hp => exact h.closeNext hm hp
  | install hm hb hp => exact h.install hm hb hp

theorem Guarded.step (h : Guarded g) (e : GateEvent) : Guarded (g.step e) := by
  cases e with
  | check i => exact h.check i
  | enter i => exact h.enter i
  | authenticate i => exact h.authenticate i
  | attach i => exact h.attach i
  | replay i => exact h.replay i
  | leave i => exact h.leave i
  | prepare nodes vnodes => exact h.prepare nodes vnodes
  | proceed => exact h.proceed
  | hub e => exact h.withNode ⟨rfl, rfl, [e], rfl⟩

theorem Guarded.run (h : Guarded g) (es : List GateEvent) : Guarded (g.run es) := by
  induction es generalizing g with
  | nil => exact h
  | cons e es ih => exact ih (h.step e)

/-! ## Who can be stranded -/

/-- A subscriber that got in is attached to an open channel, though the node does not own the key. -/
def Stranded (g : Gate) (i : Nat) : Prop :=
  ∃ s, (g.callers i).entry = .answered (.ok s) ∧ g.node.hub.IsOpen s.channel ∧
    g.node.hub.isAttached s.channel s.conn = true ∧ g.node.owns s.key = false

/-- A node that has all keys to itself, with subscribers to "a" on it. -/
def lonely : Gate :=
  start ⟨.loopback, Hub.emptyHub, ⟨Ring.position, ["1"], 1, [(2381540564, "1")]⟩⟩
    fun _ => ⟨"a", 0, none, 0⟩

/-- Once a subscriber's key has been checked, a migration begins and goes through the first bucket, which
is that of the key.  The subscriber comes in before the migration has been through the other one. -/
def midway : Gate :=
  lonely.run [.check 0, .prepare ["3", "1", "3"] 1, .proceed, .enter 0, .authenticate 0, .attach 0,
    .proceed, .replay 0, .proceed]

/-- A subscriber's key is checked, then a migration goes through, then the subscriber comes in. -/
def late : Gate :=
  lonely.run [.check 0, .prepare ["3", "1", "3"] 1, .proceed, .proceed, .proceed, .enter 0,
    .authenticate 0, .attach 0, .replay 0]

theorem lonely_check : lonely.check 0 = lonely.setCaller 0 ⟨⟨"a", 0, none, 0⟩, .granted 5, 0, 0⟩ := by
  have howns : lonely.node.owns "a" = true := by decide +kernel
  have hgrant : lonely.node.grant "a" 0 = .ok 5 := by
    show (if lonely.node.owns "a" then Except.ok 5 else Except.error Refusal.wrongNode) = _
    rw [if_pos howns]
  have hcaller : lonely.callers 0 = ⟨⟨"a", 0, none, 0⟩, .waiting, 0, 0⟩ := rfl
  simp only [check, hcaller, hgrant]
  rfl

theorem run_lonely (es : List GateEvent) : lonely.run (.check 0 :: es) =
    (lonely.setCaller 0 ⟨⟨"a", 0, none, 0⟩, .granted 5, 0, 0⟩).run es :=
  congrArg (·.run es) lonely_check

theorem owns_of_two {n : Node} (hring : n.ring = Ring.ofNodes Ring.position ["3", "1", "3"] 1)
    (hself : n.config.nodeId = "1") : n.owns "a" = false := by
  rw [Node.owns, hring, hself, Node.ring_of_two]
  decide +kernel

theorem midway_stranded : midway.migration = none ∧ midway.Stranded 0 := by
  rw [midway, run_lonely]
  refine ⟨rfl, ⟨"a", 5, 1, 0⟩, rfl, ?_, ?_, owns_of_two rfl rfl⟩
  · decide
  · decide

theorem late_answered : (late.callers 0).entry = .answered (.ok ⟨"a", 5, 1, 0⟩) := by
  rw [late, run_lonely]
  rfl

theorem late_attached : late.node.hub.IsOpen 0 ∧ late.node.hub.isAttached 0 1 = true ∧
    (late.node.hub.host.conns.get? 1).map (·.closeRequested) = some false := by
  rw [late, run_lonely]
  decide

theorem late_not_owned : late.migration = none ∧ late.node.owns "a" = false := by
  rw [late, run_lonely]
  exact ⟨rfl, owns_of_two rfl rfl⟩

/-- When no migration is under way, a subscriber is stranded only if its key was checked against an
earlier ring than the one installed, and its channel was found after the migration to that one had been
through the bucket of the key. -/
theorem stranded_across_a_migration (hn : n.hub.Reachable) (requests : Nat → SubscribeRequest)
    (es : List GateEvent) (i : Nat) :
    let g := (start n requests).run es
    g.migration = none → g.Stranded i →
      (g.callers i).checkedBy < g.installed ∧ (g.callers i).enteredAfter = g.installed := by
  intro g hm hs
  have h : Guarded g := (guarded_start hn.sound requests).run es
  obtain ⟨s, he, ho, -, hown⟩ := hs
  have ht := h.callers i
  have hkey : s.key = (g.callers i).key := ht.key s (by rw [he]; rfl)
  have hch : (g.callers i).entry.channel? = some s.channel := by rw [he]; rfl
  obtain ⟨-, hopen⟩ := ht.channel s.channel hch
  have hk : Kept g (g.callers i) s.channel := (hopen ho).resolve_left (by simp [pending, hm])
  have hscans : g.scans (g.callers i).key = g.installed := by simp only [scans, hm]
  have hring : g.coming (g.callers i).key = g.node.ring := coming_of_scans_le (Nat.le_of_eq hscans)
  rcases hk.2 with howns | ⟨hlt, hentered⟩
  · rw [hring, ← hkey] at howns
    exact absurd howns (Bool.eq_false_iff.1 hown)
  · rw [hscans] at hlt hentered
    exact ⟨hlt, hentered⟩

theorem stranded_across_a_migration_latecomer :
    lonely.node.hub.Reachable ∧ midway.migration = none ∧ midway.Stranded 0 ∧
      (midway.callers 0).checkedBy < midway.installed ∧
      (midway.callers 0).enteredAfter = midway.installed := by
  have hr : lonely.node.hub.Reachable := Hub.reachable_emptyHub []
  obtain ⟨hm, hs⟩ := midway_stranded
  exact ⟨hr, hm, hs, stranded_across_a_migration hr (fun _ => ⟨"a", 0, none, 0⟩) _ 0 hm hs⟩

/-- A subscriber stays attached to an open channel of a key that the ring has given to another node.
The migration is through, every subscriber that has begun has been answered, and nobody has asked the
connection to close. -/
theorem subscriber_left_on_a_migrated_key :
    lonely.node.hub.Reachable ∧ late.migration = none ∧
      (∀ i, (late.callers i).entry = .waiting ∨ ∃ r, (late.callers i).entry = .answered r) ∧
      (late.callers 0).entry = .answered (.ok ⟨"a", 5, 1, 0⟩) ∧ late.node.hub.IsOpen 0 ∧
      late.node.hub.isAttached 0 1 = true ∧ late.node.owns "a" = false ∧
      (late.node.hub.host.conns.get? 1).map (·.closeRequested) = some false := by
  refine ⟨Hub.reachable_emptyHub [], late_not_owned.1, fun i => ?_, late_answered, late_attached.1,
    late_attached.2.1, late_not_owned.2, late_attached.2.2⟩
  cases i with
  | zero => exact Or.inr ⟨_, late_answered⟩
  | succ i =>
    rw [late, run_lonely]
    exact Or.inl rfl

end PushRelay.Gate
