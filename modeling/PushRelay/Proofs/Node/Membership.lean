import PushRelay.Proofs.Node.Reachable
import PushRelay.Proofs.Ring.Nearest

/-!
# Hearing which members there are

A node goes by every list of members that names the node itself, and by no other.  Once it goes by a list,
hearing the same names again changes nothing, whatever their order and however often each comes.

    members = []                   → n.syncOnce members = (.ok none, n)
    n.config.nodeId ∉ members      → n.syncOnce members = (.error …, n)
    n.config.nodeId ∈ members      → n'.ring has these names, and every key its own   (syncOnce_converges)

The ring of a node never lacks the node (`Listed`), so that a list without it is never taken for the one
the node goes by.  The points of a new ring have to fit in memory (`Ring.fits`).
-/

namespace PushRelay.Node

variable {n n' : Node} {members : List String}

/-! ## The node and its ring -/

/-- The ring is that of a list with the node in it. -/
def Listed (n : Node) : Prop :=
  ∃ nodes vnodes, n.config.nodeId ∈ nodes ∧ n.ring = .ofNodes n.ring.hash nodes vnodes

theorem Listed.kept (hl : n.Listed) (hk : Kept n n') : n'.Listed := by
  rcases hk.ring with hr | ⟨nodes, vnodes, hs, hr⟩
  · unfold Listed
    rw [hk.config, hr]
    exact hl
  · refine ⟨nodes, vnodes, ?_, ?_⟩
    · rwa [hk.config]
    · rwa [hk.hash]

theorem Listed.self_mem (hl : n.Listed) : n.config.nodeId ∈ n.ring.nodes := by
  obtain ⟨nodes, vnodes, hs, hr⟩ := hl
  rw [hr]
  exact Ring.mem_sortNames.2 hs

theorem Listed.ascending (hl : n.Listed) : n.ring.nodes.Pairwise (· < ·) := by
  obtain ⟨nodes, vnodes, -, hr⟩ := hl
  rw [hr]
  refine (Ring.sortNames_ascending nodes).imp fun {a b} h => ?_
  exact Classical.byContradiction fun hlt => h.2 (String.le_antisymm h.1 (String.not_lt.1 hlt))

/-- A list has the names of the ring exactly if sorting it gives the names as the ring has them. -/
theorem Listed.sortNames_iff (hl : n.Listed) :
    n.ring.nodes = Ring.sortNames members ↔ ∀ name, name ∈ members ↔ name ∈ n.ring.nodes := by
  obtain ⟨nodes, vnodes, -, hr⟩ := hl
  have hsorted : Ring.sortNames n.ring.nodes = n.ring.nodes := by
    rw [hr]
    exact Ring.sortNames_sortNames nodes
  constructor
  · intro he name
    rw [he, Ring.mem_sortNames]
  · intro hmem
    rw [Ring.sortNames_congr hmem, hsorted]

/-! ## What hearing of members comes to -/

theorem syncOnce_nil (n : Node) : n.syncOnce [] = (.ok none, n) := by
  have hnil : Ring.sortNames [] = [] :=
    List.eq_nil_iff_forall_not_mem.2 fun name hname => by cases Ring.mem_sortNames.1 hname
  simp only [syncOnce, hnil]
  rfl

/-- The names that the ring has already. -/
theorem Listed.syncOnce_same (hl : n.Listed) (hmem : ∀ name, name ∈ members ↔ name ∈ n.ring.nodes) :
    n.syncOnce members = (.ok none, n) := by
  rw [syncOnce, hl.sortNames_iff.2 hmem, beq_self_eq_true, Bool.or_true]
  rfl

/-- Any other names are what the node migrates to. -/
theorem Listed.syncOnce_other (hl : n.Listed) (hne : members ≠ [])
    (hmem : ¬ ∀ name, name ∈ members ↔ name ∈ n.ring.nodes) :
    n.syncOnce members =
      let (r, n) := n.migrate (Ring.sortNames members) n.config.vnodes
      (r.map fun closed => some closed.length, n) := by
  have hempty : (Ring.sortNames members).isEmpty = false := by
    obtain ⟨name, hname⟩ := List.exists_mem_of_ne_nil members hne
    exact List.isEmpty_eq_false_iff.2 (List.ne_nil_of_mem (Ring.mem_sortNames.2 hname))
  have hring : (n.ring.nodes == Ring.sortNames members) = false :=
    beq_eq_false_iff_ne.2 (mt hl.sortNames_iff.1 hmem)
  rw [syncOnce, hempty, hring]
  rfl

/-- The ring has the node, so that names without the node are other names; and the node does not migrate
to them. -/
theorem Listed.syncOnce_refused (hl : n.Listed) (hne : members ≠ [])
    (hs : n.config.nodeId ∉ members) :
    n.syncOnce members = (.error (.migrateRefused n.config.nodeId), n) := by
  rw [hl.syncOnce_other hne fun hmem => hs ((hmem n.config.nodeId).2 hl.self_mem),
    migrate_refused (mt Ring.mem_sortNames.1 hs)]
  rfl

/-! ## Going by another ring -/

/-- From `n` to `n'` the node has come to go by another ring.  The channels of the keys that this one gives
to other nodes, `closed` in number, have been closed; all else goes on as before. -/
structure Resettled (ring : Ring) (closed : Nat) (n n' : Node) : Prop where
  config : n'.config = n.config
  ring : n'.ring = ring
  closed : ∃ ids : List ChannelId, ids.Nodup ∧ ids.length = closed ∧
    ∀ id, id ∈ ids ↔ n.hub.IsOpen id ∧ ¬ n'.hub.IsOpen id
  owned : ∀ key, n'.hub.contains key = true → n'.owns key = true
  keys : ∀ key, n'.owns key = true → n'.hub.registry.find? key = n.hub.registry.find? key
  channels : ∀ id, n'.hub.IsOpen id → n'.hub.channels.get? id = n.hub.channels.get? id

/-- No two keys that lose their channels had one channel. -/
theorem nodup_moved_channels {h : Hub} (hs : h.Sound) (ring : Ring) (self : String) :
    ((h.moved ring self).map Prod.snd).Nodup := by
  have hkeys := List.pairwise_map.1 (nodup_moved_keys hs.placed ring self)
  refine List.pairwise_map.2 (hkeys.imp_of_mem fun {e e'} he he' hne hid => hne ?_)
  obtain ⟨hk, -⟩ := (Hub.mem_moved hs.placed).1 he
  obtain ⟨hk', -⟩ := (Hub.mem_moved hs.placed).1 he'
  exact hs.single e.1 e'.1 e.2 hk (hid ▸ hk')

theorem resettled_migrate (hn : n.hub.Sound) (hs : n.config.nodeId ∈ members) (vnodes : Nat) :
    ∃ closed n', n.migrate members vnodes = (.ok closed, n') ∧
      Resettled (.ofNodes n.ring.hash members vnodes) closed.length n n' := by
  have hd := Hub.dropped_migrate hn.placed hs n.ring.hash vnodes
  generalize hring : Ring.ofNodes n.ring.hash members vnodes = ring at hd
  have hmoved := nodup_moved_channels hn ring n.config.nodeId
  refine ⟨_, _, migrate_ok hs vnodes, rfl, hring, ⟨_, hmoved, ?_, fun id => ?_⟩, fun key hk => ?_,
    fun key ho => ?_, fun id ho => ?_⟩
  · rw [List.length_map, List.length_map, hring]
  · rw [hd.isOpen]
    constructor
    · intro hid
      obtain ⟨key, -, hk⟩ := (mem_moved_channels hn.placed).1 hid
      exact ⟨hn.serving key id hk, fun ho => ho.1 hid⟩
    · rintro ⟨ho, hclosed⟩
      exact Classical.byContradiction fun hid => hclosed ⟨hid, ho⟩
  · obtain ⟨id, hk⟩ := Hub.contains_iff.1 hk
    have ho : (!ring.owns n.config.nodeId key) = false := hd.spared hk
    rw [Bool.not_eq_false'] at ho
    exact hring ▸ ho
  · have ho : ring.owns n.config.nodeId key = true := hring ▸ ho
    refine (hd.find? key).trans (if_neg ?_)
    rw [ho]
    exact Bool.false_ne_true
  · exact (hd.channels id).trans (if_neg ((hd.isOpen id).1 ho).1)

/-- A list with the node in it is one that the node comes to go by, if it names other nodes than the ring. -/
theorem Listed.syncOnce_resettled (hl : n.Listed) (hn : n.hub.Sound) (hs : n.config.nodeId ∈ members)
    (hmem : ¬ ∀ name, name ∈ members ↔ name ∈ n.ring.nodes) :
    ∃ closed n', n.syncOnce members = (.ok (some closed), n') ∧
      Resettled (.ofNodes n.ring.hash members n.config.vnodes) closed n n' := by
  obtain ⟨closed, n', hm, hr⟩ := resettled_migrate hn (Ring.mem_sortNames.2 hs) n.config.vnodes
  refine ⟨closed.length, n', ?_, ?_⟩
  · rw [hl.syncOnce_other (List.ne_nil_of_mem hs) hmem, hm]
    rfl
  · rwa [Ring.ofNodes_congr fun _ => Ring.mem_sortNames] at hr

/-! ## What becomes of a node that hears of members -/

/-- Take a node made from a valid configuration, whatever has happened to it since, and any list of
members.  An empty list changes nothing, and one without the node is refused and changes nothing.  After
any other the ring has exactly the names of the list, in ascending order.  If it had these before, nothing
has changed.  If not, the answer is how many channels were closed, which are those of keys that belong to
other nodes now, and each key that still has a channel is the node's own.  Hearing the same names once
more, in whatever order and however often each, changes nothing. -/
theorem syncOnce_converges {hash : String → UInt32} {config : Config} {store : Option Store} {now : Int}
    {made : Node} (valid : config.validate = .ok ())
    (hmade : withStore hash config store now = .ok made) (es : List NodeEvent)
    (members : List String) :
    let n := made.run es
    let self := config.nodeId
    (members = [] → n.syncOnce members = (.ok none, n)) ∧
    (members ≠ [] → self ∉ members → n.syncOnce members = (.error (.migrateRefused self), n)) ∧
    (self ∈ members → ∃ out n', n.syncOnce members = (.ok out, n') ∧
      (n'.ring.nodes.Pairwise (· < ·) ∧ ∀ name, name ∈ n'.ring.nodes ↔ name ∈ members) ∧
      (out = none ↔ ∀ name, name ∈ members ↔ name ∈ n.ring.nodes) ∧
      (out = none → n' = n) ∧
      (∀ closed, out = some closed →
        Resettled (.ofNodes hash members config.vnodes) closed n n') ∧
      ∀ again, (∀ name, name ∈ again ↔ name ∈ members) → n'.syncOnce again = (.ok none, n')) := by
  intro n self
  obtain ⟨hconfig, hring⟩ := made_config hmade
  have hkept : Kept made n := kept_run made es
  have hc : n.config = config := hkept.config.trans hconfig
  have hhash : n.ring.hash = hash := by rw [hkept.hash, hring, Ring.ofNodes]
  have hl : n.Listed := by
    refine Listed.kept ⟨config.nodes, config.vnodes, ?_, ?_⟩ hkept
    · rw [hconfig]
      exact Config.self_mem_of_validate valid
    · rw [hring]
      rfl
  have hsound : n.hub.Sound := sound_run (reachable_withStore hmade).sound es
  have hself : n.config.nodeId = self := by rw [hc]
  refine ⟨?_, fun hne hs => ?_, fun hs => ?_⟩
  · rintro rfl
    exact syncOnce_nil n
  · rw [← hself] at hs ⊢
    exact hl.syncOnce_refused hne hs
  · by_cases hmem : ∀ name, name ∈ members ↔ name ∈ n.ring.nodes
    · refine ⟨none, n, hl.syncOnce_same hmem, ⟨hl.ascending, fun name => (hmem name).symm⟩,
        iff_of_true rfl hmem, fun _ => rfl, fun closed h => absurd h.symm (Option.some_ne_none closed),
        fun again hagain => hl.syncOnce_same fun name => ?_⟩
      rw [hagain, hmem]
    · rw [← hself] at hs
      obtain ⟨closed, n', hn', hr⟩ := hl.syncOnce_resettled hsound hs hmem
      have hl' : n'.Listed := hl.kept ⟨hr.config, Or.inr ⟨members, _, hs, hr.ring⟩⟩
      have hnames : ∀ name, name ∈ n'.ring.nodes ↔ name ∈ members := by
        intro name
        rw [hr.ring]
        exact Ring.mem_sortNames
      rw [hhash, hc] at hr
      have hsome : some closed ≠ none := Option.some_ne_none closed
      refine ⟨some closed, n', hn', ⟨hl'.ascending, hnames⟩, iff_of_false hsome hmem,
        fun h => absurd h hsome, ?_, fun again hagain => hl'.syncOnce_same fun name => ?_⟩
      · rintro _ ⟨⟩
        exact hr
      · rw [hagain, hnames]

/-- A node that is the only one, just made in November 2023. -/
def loneNode : Node :=
  let config := { Config.loopback with vnodes := 1 }
  { newNode with config, ring := .ofNodes Ring.position config.nodes config.vnodes }

/-- Of the two keys that the node has given channels to, the other member gets one.  Its channel is
closed, and that is all that ever happens on this list. -/
theorem syncOnce_converges_with_another :
    loneNode.config.validate = .ok () ∧
    withStore Ring.position loneNode.config none 1700000000000000000 = .ok loneNode ∧
    let n := loneNode.run [.administer (.newChannel "a"), .administer (.newChannel "k")]
    n.syncOnce ["2", "3"] = (.error (.migrateRefused "1"), n) ∧
    ∃ n', n.syncOnce ["3", "1", "3"] = (.ok (some 1), n') ∧
      n'.hub.contains "a" = false ∧ n'.hub.registry.find? "k" = some 1 ∧
      n'.syncOnce ["1", "3", "1"] = (.ok none, n') := by
  have valid : loneNode.config.validate = .ok () := rfl
  have hmade : withStore Ring.position loneNode.config none 1700000000000000000 = .ok loneNode :=
    withStore_of_fits rfl rfl (Config.fits_of_length (by decide) (by decide))
  refine ⟨valid, hmade, ?_⟩
  intro n
  have hsound : n.hub.Sound := sound_run (reachable_withStore hmade).sound _
  have hfind : n.hub.registry.find? "a" = some 0 ∧ n.hub.registry.find? "k" = some 1 := by decide
  obtain ⟨-, hrefused, -⟩ := syncOnce_converges valid hmade
    [.administer (.newChannel "a"), .administer (.newChannel "k")] ["2", "3"]
  obtain ⟨-, -, hgone⟩ := syncOnce_converges valid hmade
    [.administer (.newChannel "a"), .administer (.newChannel "k")] ["3", "1", "3"]
  obtain ⟨out, n', hn', -, hnone, -, hsome, hagain⟩ := hgone (by decide)
  -- the list names a node that the ring does not have
  have hout : out ≠ none := fun he => by
    have hnames : "3" ∈ n.ring.nodes := ((hnone.1 he) "3").1 (by decide)
    exact absurd (Ring.mem_sortNames.1 hnames) (by decide)
  obtain ⟨closed, rfl⟩ := Option.ne_none_iff_exists'.1 hout
  have hr := hsome closed rfl
  have howns (key : String) :
      n'.owns key = ((Ring.ofNodes Ring.position ["3", "1", "3"] 1).owner? key == some "1") := by
    rw [owns, hr.ring, hr.config]
    rfl
  have hother : n'.owns "a" = false := by
    rw [howns, owner_of_two.1]
    rfl
  have hself : n'.owns "k" = true := by
    rw [howns, owner_of_two.2]
    rfl
  have hk : n'.hub.registry.find? "k" = some 1 := (hr.keys "k" hself).trans hfind.2
  have hsound' : n'.hub.Sound := by
    have hs := (opening_step n (.sync ["3", "1", "3"])).sound hsound
    rwa [step, hn'] at hs
  have ha : n'.hub.contains "a" = false := by
    refine Bool.eq_false_iff.2 fun ha => ?_
    rw [hr.owned "a" ha] at hother
    cases hother
  have hclosed : ¬ n'.hub.IsOpen 0 := by
    intro ho
    obtain ⟨key, hkey⟩ := hsound'.keyed 0 ho
    have hfound := hr.keys key (hr.owned key (Hub.contains_iff.2 ⟨0, hkey⟩))
    rw [hkey] at hfound
    cases hsound.single "a" key 0 hfind.1 hfound.symm
    rw [Hub.contains_iff.2 ⟨0, hkey⟩] at ha
    cases ha
  have hkept : n'.hub.IsOpen 1 := hsound'.serving "k" 1 hk
  obtain ⟨ids, hnodup, rfl, hids⟩ := hr.closed
  have hone : ids.length = 1 := by
    have hsingle : [0].Nodup := by decide
    refine ((List.perm_ext_iff_of_nodup hnodup hsingle).2 fun id => ?_).length_eq
    rw [hids, List.mem_singleton]
    constructor
    · rintro ⟨⟨ch, hch, -⟩, hx⟩
      have hlt : id < 2 := hsound.lt_of_get? hch
      rcases Nat.le_one_iff_eq_zero_or_eq_one.1 (Nat.le_of_lt_succ hlt) with h0 | rfl
      · exact h0
      · exact absurd hkept hx
    · rintro rfl
      exact ⟨hsound.serving "a" 0 hfind.1, hclosed⟩
  refine ⟨hrefused (by decide) (by decide), n', hone ▸ hn', ha, hk, hagain _ fun name => ?_⟩
  simp only [List.mem_cons, List.not_mem_nil]
  grind

end PushRelay.Node
