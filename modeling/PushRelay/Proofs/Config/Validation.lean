import PushRelay.Config.Basic

/-!
# What a valid configuration is like

    c.validate = .ok () → ∀ p ∈ c.positives, 0 < p.2                                 (pos_of_validate)
    c.validate = .ok () → c.nodeId ∈ c.nodes                                         (self_mem_of_validate)
    c.validate = .ok () → c.Valid                                                    (valid_of_validate)

Whether the nodes of a configuration are in order shows last, when all else is (`validate_nodes`).
-/

namespace PushRelay.Config

variable {c : Config}

theorem pos_of_validate (valid : c.validate = .ok ()) : ∀ p ∈ c.positives, 0 < p.2 := by
  intro p hp
  unfold validate at valid
  split at valid
  · cases valid
  · split at valid
    · cases valid
    · split at valid
      · cases valid
      · next hnone =>
        have hne : ¬ (p.2 == 0) = true := List.find?_eq_none.1 hnone p hp
        rw [beq_iff_eq] at hne
        exact Nat.pos_of_ne_zero hne

/-- The nodes come last: a configuration is validated as if the node were the only one, and then it must
be one of the nodes. -/
theorem validate_nodes (c : Config) (nodes : List String) :
    { c with nodes }.validate =
      match { c with nodes := [c.nodeId] }.validate with
      | .error e => .error e
      | .ok () => if c.nodeId ∈ nodes then .ok () else .error (.selfMissing c.nodeId nodes) := by
  have hpos (nodes : List String) : { c with nodes }.positives = c.positives := rfl
  have hself : [c.nodeId].contains c.nodeId = true := List.contains_iff_mem.2 (List.mem_singleton_self _)
  have hlast : (!nodes.contains c.nodeId) = true ↔ c.nodeId ∉ nodes := by
    rw [Bool.not_eq_true', ← Bool.not_eq_true, List.contains_iff_mem]
  simp only [validate, hpos, hself, Bool.not_true, Bool.false_eq_true, if_false, hlast]
  -- each check that both have comes to the same on both sides
  split
  · rfl
  · split
    · rfl
    · split
      · rfl
      · split
        · rfl
        · split
          · rfl
          · split
            · rfl
            · exact ite_not ..

theorem self_mem_of_validate (valid : c.validate = .ok ()) : c.nodeId ∈ c.nodes := by
  have hv := validate_nodes c c.nodes
  rw [valid] at hv
  refine Classical.byContradiction fun hs => ?_
  rw [if_neg hs] at hv
  split at hv
  · cases hv
  · cases hv

/-- What a node needs to start. -/
structure Valid (c : Config) : Prop where
  buckets : Registry.isPowerOfTwo c.channelBuckets = true
  positives : ∀ p ∈ c.positives, 0 < p.2
  heartbeat : 0 < c.defaultHeartbeatSecs ∧ c.defaultHeartbeatSecs ≤ c.maxHeartbeatSecs
  worker : 0 ≤ c.workerId ∧ c.workerId ≤ Snowflake.maxWorker
  self : c.nodeId ∈ c.nodes

theorem valid_of_validate (valid : c.validate = .ok ()) : c.Valid := by
  have hpos := pos_of_validate valid
  have hself := self_mem_of_validate valid
  unfold validate at valid
  split at valid
  · cases valid
  · split at valid
    · cases valid
    · next hbuckets =>
      split at valid
      · cases valid
      · split at valid
        · cases valid
        · next hbeat =>
          split at valid
          · cases valid
          · next hworker =>
            rw [Bool.not_eq_true', Bool.not_eq_false] at hbuckets
            exact ⟨hbuckets, hpos, by omega, by omega, hself⟩

end PushRelay.Config
