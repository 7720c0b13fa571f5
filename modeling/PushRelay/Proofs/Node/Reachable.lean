import PushRelay.Proofs.Config.Validation
import PushRelay.Proofs.Node.Run
import PushRelay.Proofs.Node.Stranding

/-!
# Nodes that have come about

A node is `Reachable` if it was made from its configuration and its hub has gone through hub events since,
whatever they were.  Requests to a node, subscribers and migrations come to such events, so that a node
stays reachable whatever happens to it.  Its configuration stays as it is, and the ring it goes by comes
from a list with the node in it.

    Kept n (n.run es)                                                                (kept_run)
    n.Reachable → (n.run es).Reachable                                               (Reachable.run)
    n.Reachable → n.hub.settings = n.config.channelSettings                          (Reachable.settings)
-/

namespace PushRelay.Node

variable {n : Node}

/-! ## What no event changes -/

/-- From `n` to `n'` the configuration stays as it is.  So does the ring, or it is that of another list
with the node in it. -/
structure Kept (n n' : Node) : Prop where
  config : n'.config = n.config
  ring : n'.ring = n.ring ∨
    ∃ nodes vnodes, n.config.nodeId ∈ nodes ∧ n'.ring = .ofNodes n.ring.hash nodes vnodes

variable {n' n'' : Node}

theorem Kept.alike (hc : n'.config = n.config) (hr : n'.ring = n.ring) : Kept n n' := ⟨hc, Or.inl hr⟩

theorem Kept.refl (n : Node) : Kept n n := .alike rfl rfl

theorem Kept.hash (hk : Kept n n') : n'.ring.hash = n.ring.hash := by
  rcases hk.ring with hr | ⟨_, _, -, hr⟩
  · rw [hr]
  · rw [hr, Ring.ofNodes]

theorem Kept.trans (hk : Kept n n') (hk' : Kept n' n'') : Kept n n'' := by
  refine ⟨hk'.config.trans hk.config, ?_⟩
  rcases hk'.ring with hr | ⟨nodes, vnodes, hs, hr⟩
  · rw [hr]
    exact hk.ring
  · rw [hk.config] at hs
    rw [hk.hash] at hr
    exact Or.inr ⟨nodes, vnodes, hs, hr⟩

theorem kept_assignId (n : Node) (requested : Int) : Kept n (n.assignId requested).2 := by
  have hdraw : Kept n n.drawId.2 := .alike rfl rfl
  unfold assignId
  split
  · split
    · next he => rwa [he] at hdraw
    · next he => rwa [he] at hdraw
  · split
    · exact .refl n
    · exact .refl n

theorem kept_pushTo (n : Node) (key : String) (m : Message) : Kept n (n.pushTo key m).2 := by
  suffices Kept n (n.channelForPush key).2 from this.trans (.alike rfl rfl)
  unfold channelForPush
  split
  · exact .alike rfl rfl
  · exact .alike rfl rfl

theorem kept_pushEach (m : Message) (n : Node) (keys : List String) :
    Kept n (n.pushEach m keys).2 := by
  rw [pushEach_visits]
  induction keys generalizing n with
  | nil => exact .refl n
  | cons key keys ih => exact (kept_pushTo n key m).trans (ih (n.pushTo key m).2)

theorem kept_migrate (n : Node) (nodes : List String) (vnodes : Nat) :
    Kept n (n.migrate nodes vnodes).2 := by
  by_cases hs : n.config.nodeId ∈ nodes
  · rw [migrate_ok hs]
    exact ⟨rfl, Or.inr ⟨nodes, vnodes, hs, rfl⟩⟩
  · rw [migrate_refused hs]
    exact .refl n

theorem kept_adminPush (n : Node) (r : PushRequest) : Kept n (n.adminPush r).2 := by
  have hid := kept_assignId n r.id
  unfold adminPush
  split
  · exact .refl n
  · split
    · next he => rwa [he] at hid
    · next he =>
      rw [he] at hid
      split
      · exact hid
      · exact hid.trans (kept_pushTo _ _ _)

theorem kept_adminBatch (n : Node) (r : BatchRequest) : Kept n (n.adminBatch r).2 := by
  have hid := kept_assignId n 0
  unfold adminBatch
  split
  · exact .refl n
  · split
    · next he => rwa [he] at hid
    · next he =>
      rw [he] at hid
      split
      · exact hid
      · exact hid.trans (kept_pushEach _ _ _)

theorem kept_administer (n : Node) (r : AdminRequest) : Kept n (n.administer r).2 := by
  cases r with
  | push r => exact kept_adminPush n r
  | pushBatch r => exact kept_adminBatch n r
  | stats => exact .refl n
  | newChannel key | closeChannel key =>
    simp only [administer]
    split
    · exact .refl n
    · exact .alike rfl rfl
  | addToken key token =>
    simp only [administer]
    split
    · exact .refl n
    · split
      · exact .refl n
      · exact .alike rfl rfl
  | migrate nodes vnodes =>
    simp only [administer]
    split
    · exact .refl n
    · exact kept_migrate n _ _

theorem kept_of_hubOnly (hh : Gate.HubOnly n n') : Kept n n' := .alike hh.config hh.ring

theorem kept_subscribe (n : Node) (key : String) (heartbeat : Nat) (token : Option String)
    (lastId : Int) : Kept n (n.subscribe key heartbeat token lastId).2 := by
  unfold subscribe
  split
  · exact .refl n
  · next granted _ =>
    have hauth : Kept n ((n.channelOf key).2.authenticate (n.channelOf key).1 token).2 :=
      (kept_of_hubOnly (Gate.hubOnly_channelOf n key)).trans
        (kept_of_hubOnly (Gate.hubOnly_authenticate _ _ token))
    simp only
    split
    · next ha => rwa [ha] at hauth
    · next n₂ ha =>
      rw [ha] at hauth
      have hattach := hauth.trans
        (kept_of_hubOnly (Gate.hubOnly_attach n₂ (n.channelOf key).1 key granted lastId))
      split
      · next hat => rwa [hat] at hattach
      · next s n₃ hat =>
        rw [hat] at hattach
        have hreplay := hattach.trans (kept_of_hubOnly (Gate.hubOnly_replay n₃ s lastId))
        split
        · next hr => rwa [hr] at hreplay
        · next hr => rwa [hr] at hreplay

theorem kept_step (n : Node) (e : NodeEvent) : Kept n (n.step e) := by
  cases e with
  | administer r => exact kept_administer n r
  | subscribe key heartbeat token lastId => exact kept_subscribe n key heartbeat token lastId
  | unsubscribe s => exact kept_of_hubOnly (Gate.hubOnly_unsubscribe n s)
  | sync members =>
    simp only [step, syncOnce]
    split
    · exact .refl n
    · exact kept_migrate n _ _
  | host e => exact .alike rfl rfl

theorem kept_run (n : Node) (es : List NodeEvent) : Kept n (n.run es) := by
  induction es generalizing n with
  | nil => exact .refl n
  | cons e es ih => exact (kept_step n e).trans (ih (n.step e))

/-! ## Reachable nodes -/

/-- The node was made from its configuration, and its hub has gone through events since. -/
def Reachable (n : Node) : Prop :=
  ∃ hash store now made es, withStore hash n.config store now = .ok made ∧ n.hub = made.hub.run es

theorem reachable_of_made {hash : String → UInt32} {config : Config} {store : Option Store}
    {now : Int} (made : withStore hash config store now = .ok n) : n.Reachable := by
  exact ⟨hash, store, now, n, [], (made_config made).1 ▸ made, rfl⟩

namespace Reachable

variable (hn : n.Reachable)
include hn

theorem step (e : NodeEvent) : (n.step e).Reachable := by
  obtain ⟨hash, store, now, made, es, hmade, hes⟩ := hn
  obtain ⟨fs, hfs, -⟩ := opening_step n e
  refine ⟨hash, store, now, made, es ++ fs, ?_, ?_⟩
  · rw [(kept_step n e).config, hmade]
  · rw [hfs, hes, Hub.run_append]

theorem run (es : List NodeEvent) : (n.run es).Reachable := by
  induction es generalizing n with
  | nil => exact hn
  | cons e es ih => exact ih (hn.step e)

theorem through (es : List HubEvent) : (n.through es).Reachable := by
  obtain ⟨hash, store, now, made, fs, hmade, hfs⟩ := hn
  refine ⟨hash, store, now, made, fs ++ es, hmade, ?_⟩
  rw [Node.through, hfs, Hub.run_append]

theorem hub : n.hub.Reachable := by
  obtain ⟨hash, store, now, made, es, hmade, hes⟩ := hn
  exact hes ▸ (reachable_withStore hmade).run es

/-- Channels are what the configuration says. -/
theorem settings : n.hub.settings = n.config.channelSettings := by
  obtain ⟨hash, store, now, made, es, hmade, hes⟩ := hn
  obtain ⟨ids, hmade⟩ := made_hub hmade
  obtain ⟨registry, -, hempty⟩ := Hub.new_ok hmade
  rw [hes, Hub.run_settings]
  exact congrArg Hub.settings hempty

end Reachable

/-- The channels of the node are what its configuration makes of them. -/
structure Regular (n : Node) : Prop where
  hub : n.hub.Regular
  settings : n.hub.settings = n.config.channelSettings

theorem Reachable.regular (hn : n.Reachable) : n.Regular := ⟨hn.hub.regular, hn.settings⟩

theorem Regular.through (hn : n.Regular) (es : List HubEvent) : (n.through es).Regular :=
  ⟨hn.hub.run es, (Hub.run_settings n.hub es).trans hn.settings⟩

end PushRelay.Node
