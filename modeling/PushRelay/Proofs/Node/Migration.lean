import PushRelay.Node.Basic
import PushRelay.Proofs.Hub.Lifecycle

/-!
# Migrations

A migration is refused, and then nothing has happened; or it goes through, and then exactly the keys
that the new ring gives to other nodes have lost their channels.  The points of the new ring have to fit in
memory (`Ring.fits`).

    n.config.nodeId ∉ nodes → n.migrate nodes vnodes = (.error (.migrateRefused n.config.nodeId), n)
    n.config.nodeId ∈ nodes → … n'.hub.contains key = true → n'.owns key = true     (migrate_exact)
-/

namespace PushRelay.Node

variable {n : Node} {nodes : List String}

/-- The hub of a node that has just been made. -/
theorem made_hub {hash : String → UInt32} {config : Config} {store : Option Store} {now : Int}
    (made : withStore hash config store now = .ok n) :
    ∃ ids, Hub.new Registry.spread config.channelBuckets config.channelSettings store.isSome
      (.new now ids (store.getD (.ofMemory .new))) = .ok n.hub := by
  obtain ⟨ids, hub, -, hhub, -, rfl⟩ := withStore_ok made
  exact ⟨ids, hhub⟩

theorem made_config {hash : String → UInt32} {config : Config} {store : Option Store} {now : Int}
    (made : withStore hash config store now = .ok n) :
    n.config = config ∧ n.ring = .ofNodes hash config.nodes config.vnodes := by
  obtain ⟨ids, hub, -, -, -, rfl⟩ := withStore_ok made
  exact ⟨rfl, rfl⟩

theorem reachable_withStore {hash : String → UInt32} {config : Config} {store : Option Store}
    {now : Int} (made : withStore hash config store now = .ok n) : n.hub.Reachable := by
  obtain ⟨ids, hmade⟩ := made_hub made
  exact ⟨_, _, _, _, now, ids, _, n.hub, [], hmade, rfl⟩

/-- A migration to a list without the node itself is refused as a whole. -/
theorem migrate_refused (hs : n.config.nodeId ∉ nodes) (vnodes : Nat) :
    n.migrate nodes vnodes = (.error (.migrateRefused n.config.nodeId), n) := by
  simp only [migrate, Hub.migrate_refused hs]

/-- The keys that lose their channels in a migration that is not refused. -/
theorem migrate_ok (hs : n.config.nodeId ∈ nodes) (vnodes : Nat) :
    let ring := Ring.ofNodes n.ring.hash nodes vnodes
    n.migrate nodes vnodes =
      (.ok ((n.hub.moved ring n.config.nodeId).map Prod.fst),
        { n with
          hub := (n.hub.migrate n.ring.hash n.config.nodeId nodes vnodes).2
          ring := ring }) := by
  intro ring
  obtain ⟨f, hm⟩ := Hub.migrate_ok (h := n.hub) hs n.ring.hash vnodes
  simp only [migrate, hm]
  rfl

section Moved

variable {ring : Ring} {self key : String} {id : ChannelId} {h : Hub}

/-- A key is moved exactly if it has a channel and the ring gives it to another node. -/
theorem mem_moved_keys (hp : h.registry.Placed) :
    key ∈ (h.moved ring self).map Prod.fst ↔ h.contains key = true ∧ ring.owner? key ≠ some self := by
  have howns : ring.owns self key = false ↔ ring.owner? key ≠ some self := by
    unfold Ring.owns
    rw [beq_eq_false_iff_ne]
  rw [← howns, Hub.contains, Registry.contains, Option.isSome_iff_exists, List.mem_map]
  constructor
  · rintro ⟨⟨key, id⟩, hmem, rfl⟩
    obtain ⟨hk, ho⟩ := (Hub.mem_moved hp).1 hmem
    exact ⟨⟨id, hk⟩, ho⟩
  · rintro ⟨⟨id, hk⟩, ho⟩
    exact ⟨(key, id), (Hub.mem_moved hp).2 ⟨hk, ho⟩, rfl⟩

/-- The channels that are closed are those of the moved keys. -/
theorem mem_moved_channels (hp : h.registry.Placed) :
    id ∈ (h.moved ring self).map Prod.snd ↔
      ∃ key ∈ (h.moved ring self).map Prod.fst, h.registry.find? key = some id := by
  constructor
  · intro hid
    obtain ⟨e, he, rfl⟩ := List.mem_map.1 hid
    exact ⟨e.1, List.mem_map_of_mem he, ((Hub.mem_moved hp).1 he).1⟩
  · rintro ⟨key, hkey, hk⟩
    obtain ⟨e, he, rfl⟩ := List.mem_map.1 hkey
    cases hk.symm.trans ((Hub.mem_moved hp).1 he).1
    exact List.mem_map_of_mem he

theorem nodup_moved_keys (hp : h.registry.Placed) (ring : Ring) (self : String) :
    ((h.moved ring self).map Prod.fst).Nodup :=
  (Registry.nodup_entries hp).sublist (List.filter_sublist.map _)

end Moved

/-- A migration to a list without the node is refused and changes nothing.  Any other goes by the ring
of the list.  It returns, each once, the keys with a channel that this ring gives to other nodes.  Their
channels are taken from them and closed, and the connections attached to these are asked to close.  Every
other channel, with all that is in it, every other key and every other connection stays as it is.  So
each key that still has a channel is the node's own. -/
theorem migrate_exact (hn : n.hub.Reachable) (nodes : List String) (vnodes : Nat) :
    let self := n.config.nodeId
    let ring := Ring.ofNodes n.ring.hash nodes vnodes
    (self ∉ nodes → n.migrate nodes vnodes = (.error (.migrateRefused self), n)) ∧
    (self ∈ nodes → ∃ closed n', n.migrate nodes vnodes = (.ok closed, n') ∧
      (closed.Nodup ∧
        ∀ key, key ∈ closed ↔ n.hub.contains key = true ∧ ring.owner? key ≠ some self) ∧
      (∀ key, n'.hub.registry.find? key =
        if key ∈ closed then none else n.hub.registry.find? key) ∧
      (∀ key ∈ closed, ∀ id, n.hub.registry.find? key = some id →
        (∃ ch, n'.hub.channels.get? id = some ch ∧ ch.Emptied) ∧
        ∀ c conn, n.hub.isAttached id c = true → n.hub.host.conns.get? c = some conn →
          n'.hub.host.conns.get? c = some conn.close) ∧
      (∀ id, (∀ key ∈ closed, n.hub.registry.find? key ≠ some id) →
        n'.hub.channels.get? id = n.hub.channels.get? id) ∧
      (∀ c, (∀ key ∈ closed, ∀ id, n.hub.registry.find? key = some id →
          n.hub.isAttached id c = false) →
        n'.hub.host.conns.get? c = n.hub.host.conns.get? c) ∧
      n'.ring = ring ∧ ∀ key, n'.hub.contains key = true → n'.owns key = true) := by
  intro self ring
  refine ⟨fun hs => migrate_refused hs vnodes, fun hs => ⟨_, _, migrate_ok hs vnodes, ?_⟩⟩
  have hsound := hn.sound
  have hp := hsound.placed
  have hd := Hub.dropped_migrate hp hs n.ring.hash vnodes
  refine ⟨⟨nodup_moved_keys hp ring self, fun key => mem_moved_keys hp⟩, fun key => ?_,
    fun key hkey id hk => ?_, fun id hid => ?_, fun c hc => ?_, rfl, fun key hkey => ?_⟩
  · -- a key that is not moved is the node's own, or has no channel
    refine (hd.find? key).trans ?_
    cases ho : ring.owns self key with
    | true =>
      rw [Bool.not_true, if_neg Bool.false_ne_true, if_neg]
      intro hkey
      obtain ⟨e, he, rfl⟩ := List.mem_map.1 hkey
      rw [((Hub.mem_moved hp).1 he).2] at ho
      cases ho
    | false =>
      rw [Bool.not_false, if_pos rfl]
      split
      · rfl
      · next hkey =>
        cases hk : n.hub.registry.find? key with
        | none => rfl
        | some id =>
          exact absurd (List.mem_map_of_mem ((Hub.mem_moved hp).2 ⟨hk, ho⟩)) hkey
  · have hid := (mem_moved_channels hp).2 ⟨key, hkey, hk⟩
    constructor
    · obtain ⟨ch, hch, -⟩ := hsound.serving key id hk
      refine ⟨(ch.close n.hub.host).1, ?_, ch.emptied_close n.hub.host⟩
      refine (hd.channels id).trans ?_
      rw [if_pos hid, hch]
      rfl
    · intro c conn ha hconn
      refine (hd.conns c).trans ?_
      rw [hconn, Option.map_some, if_pos (List.any_eq_true.2 ⟨id, hid, ha⟩)]
  · refine (hd.channels id).trans (if_neg fun hmem => ?_)
    obtain ⟨key, hkey, hk⟩ := (mem_moved_channels hp).1 hmem
    exact hid key hkey hk
  · refine (hd.conns c).trans ?_
    have hany : ¬ ((n.hub.moved ring self).map Prod.snd).any (n.hub.isAttached · c) = true := by
      intro hany
      obtain ⟨id, hid, ha⟩ := List.any_eq_true.1 hany
      obtain ⟨key, hkey, hk⟩ := (mem_moved_channels hp).1 hid
      rw [hc key hkey id hk] at ha
      cases ha
    cases n.hub.host.conns.get? c with
    | none => rfl
    | some conn => rw [Option.map_some, if_neg hany]
  · obtain ⟨id, hk⟩ := Option.isSome_iff_exists.1 hkey
    have ho : (!ring.owns self key) = false := hd.spared hk
    rwa [Bool.not_eq_false'] at ho

/-- Two nodes with one point each, whatever order their names come in. -/
theorem ring_of_two :
    Ring.ofNodes Ring.position ["3", "1", "3"] 1 =
      ⟨Ring.position, ["1", "3"], 1, [(2381540564, "1"), (4159028806, "3")]⟩ := by
  have names : Ring.sortNames ["3", "1", "3"] = ["1", "3"] := by
    simp [Ring.sortNames, List.mergeSort, Ring.dedupOn]
  have one : Ring.position (Ring.replicaName "1" 0) = 2381540564 := by decide +kernel
  have three : Ring.position (Ring.replicaName "3" 0) = 4159028806 := by decide +kernel
  simp [Ring.ofNodes, names, Ring.allPoints, one, three, List.range_succ, List.mergeSort,
    Ring.dedupOn, Ring.pointLE]

/-- How the two nodes share two keys. -/
theorem owner_of_two :
    let ring := Ring.ofNodes Ring.position ["3", "1", "3"] 1
    ring.owner? "a" = some "3" ∧ ring.owner? "k" = some "1" := by
  rw [ring_of_two]
  decide +kernel

/-- A node that has all keys to itself, with channels for "a" and "k" and a subscriber to each. -/
def soleNode : Node where
  config := .loopback
  hub := Hub.emptyHub.run [.getOrCreate "a", .getOrCreate "k", .host (.connect 2),
    .host (.connect 2), .call 0 (.attach "a" 1 0), .call 1 (.attach "k" 2 0)]
  ring := Ring.ofNodes Ring.position ["1"] 1

/-- A second node takes "a" over.  The subscriber to "a" is asked to close, the one to "k" is not. -/
theorem migrate_exact_of_two_keys :
    soleNode.hub.Reachable ∧ ∃ closed n',
      soleNode.migrate ["3", "1", "3"] 1 = (.ok closed, n') ∧ "a" ∈ closed ∧ "k" ∉ closed ∧
      n'.hub.registry.find? "a" = none ∧ n'.hub.registry.find? "k" = some 1 ∧
      (∃ ch, n'.hub.channels.get? 0 = some ch ∧ ch.Emptied) ∧
      n'.hub.channels.get? 1 = soleNode.hub.channels.get? 1 ∧
      (∃ conn, n'.hub.host.conns.get? 1 = some conn ∧ conn.closeRequested = true) ∧
      n'.hub.host.conns.get? 2 = soleNode.hub.host.conns.get? 2 ∧ n'.owns "k" = true := by
  have hr : soleNode.hub.Reachable := Hub.reachable_emptyHub _
  obtain ⟨hother, hself⟩ := owner_of_two
  have hfind : soleNode.hub.registry.find? "a" = some 0 ∧
      soleNode.hub.registry.find? "k" = some 1 := by decide
  obtain ⟨-, hok⟩ := migrate_exact hr ["3", "1", "3"] 1
  obtain ⟨closed, n', hm, ⟨-, hkeys⟩, hreg, hclosed, hch, hconns, -, howns⟩ := hok (by decide)
  have ha : "a" ∈ closed := (hkeys "a").2 ⟨by decide, by
    show (Ring.ofNodes Ring.position ["3", "1", "3"] 1).owner? "a" ≠ some "1"
    rw [hother]
    decide⟩
  have hk : "k" ∉ closed := fun hk => ((hkeys "k").1 hk).2 hself
  -- the registry lists the two keys only
  have honly : ∀ key ∈ closed, ∀ id, soleNode.hub.registry.find? key = some id → id = 0 := by
    intro key hkey id hid
    have hmem : (key, id) ∈ soleNode.hub.registry.entries :=
      (Registry.mem_entries hr.sound.placed).2 hid
    have hentries : ∀ e ∈ soleNode.hub.registry.entries, e = ("a", 0) ∨ e = ("k", 1) := by decide
    rcases hentries _ hmem with he | he
    · exact (Prod.mk.inj he).2
    · rw [(Prod.mk.inj he).1] at hkey
      exact absurd hkey hk
  have hregk := (hreg "k").trans (if_neg hk)
  have hfreed : ∀ key ∈ closed, ∀ id, soleNode.hub.registry.find? key = some id → id ≠ 1 := by
    intro key hkey id hid
    rw [honly key hkey id hid]
    decide
  refine ⟨hr, closed, n', hm, ha, hk, (hreg "a").trans (if_pos ha), hregk.trans hfind.2,
    (hclosed "a" ha 0 hfind.1).1, hch 1 fun key hkey hid => hfreed key hkey 1 hid rfl,
    ⟨_, (hclosed "a" ha 0 hfind.1).2 1 _ (by decide) rfl, rfl⟩, hconns 2 fun key hkey id hid => ?_,
    howns "k" ?_⟩
  · rw [honly key hkey id hid]
    decide
  · exact Option.isSome_iff_exists.2 ⟨1, hregk.trans hfind.2⟩

end PushRelay.Node
