import PushRelay.Proofs.Config.Sources
import PushRelay.Proofs.Config.Validation
import PushRelay.Proofs.Node.Membership

/-!
# Starting a node

What a configuration that has been accepted promises to those who use it.  It makes a node, one that is on
its own ring and may go by the ring again, exactly if there can be lists of its buckets and of the points of
its ring; heartbeats, limits and queues are not empty (`Runnable`).

    load env readFile = .ok c → c.Runnable hash                                  (runnable_of_load)

Nothing keeps the number of buckets and of points down, and nothing keeps the environment from setting the
interval at which members are asked for to zero, which a file cannot do (poll_zero_iff).
-/

namespace PushRelay

namespace Config

variable {c c' : Config} {o : Overrides} {env : Environment} {readFile : String → Option String}

/-! ## Where a configuration comes from -/

theorem ok_of_bind {ε α β : Type} {x : Except ε α} {f : α → Except ε β} {b : β}
    (h : x >>= f = .ok b) : ∃ a, x = .ok a ∧ f a = .ok b := by
  cases x with
  | error e => cases h
  | ok a => exact ⟨a, rfl, h⟩

/-- What the file sets that the environment names. -/
def file? (env : Environment) (readFile : String → Option String) : Option Overrides := do
  let path ← env.get? "COMET_CONFIG"
  let text ← readFile path
  Overrides.parse? text

/-- A configuration that is accepted is valid.  It is that of the environment, unless a file has
overridden it. -/
theorem accepted (h : load env readFile = .ok c) :
    c.validate = .ok () ∧ ∃ base, ofEnvironment env = .ok base ∧
      match file? env readFile with
      | none => c = base
      | some o => base.override o = .ok c := by
  obtain ⟨base, hbase, h⟩ := ok_of_bind h
  have hvalid (r : Except ConfigError Config)
      (h : (r >>= fun c => c.validate >>= fun _ => pure c) = .ok c) :
      c.validate = .ok () ∧ r = .ok c := by
    obtain ⟨final, hr, h⟩ := ok_of_bind h
    obtain ⟨⟨⟩, hv, h⟩ := ok_of_bind h
    cases h
    exact ⟨hv, hr⟩
  unfold file?
  cases hpath : env.get? "COMET_CONFIG" with
  | none =>
    simp only [hpath] at h
    obtain ⟨hv, hc⟩ := hvalid (.ok base) h
    exact ⟨hv, base, hbase, (Except.ok.inj hc).symm⟩
  | some path =>
    cases hread : readFile path with
    | none =>
      simp only [hpath, hread] at h
      cases h
    | some text =>
      cases ho : Overrides.parse? text with
      | none =>
        simp only [hpath, hread, ho] at h
        cases h
      | some o =>
        simp only [hpath, hread, ho] at h
        obtain ⟨hv, hc⟩ := hvalid _ h
        refine ⟨hv, base, hbase, ?_⟩
        simp only [Option.bind_eq_bind, Option.bind_some, hread, ho]
        exact hc

theorem poll_ofEnvironment (h : ofEnvironment env = .ok c) :
    c.membershipPollMs = env.nat "COMET_MEMBERSHIP_POLL_MS" 2000 := by
  obtain ⟨_, -, h⟩ := ok_of_bind h
  obtain ⟨_, -, h⟩ := ok_of_bind h
  obtain ⟨_, -, h⟩ := ok_of_bind h
  obtain ⟨_, -, h⟩ := ok_of_bind h
  obtain ⟨_, -, h⟩ := ok_of_bind h
  cases h
  rfl

theorem poll_override (h : c.override o = .ok c') :
    c'.membershipPollMs = (o.membershipPollMs.filter (0 < ·)).getD c.membershipPollMs := by
  obtain ⟨_, -, h⟩ := ok_of_bind h
  obtain ⟨_, -, h⟩ := ok_of_bind h
  obtain ⟨_, -, h⟩ := ok_of_bind h
  obtain ⟨_, -, h⟩ := ok_of_bind h
  obtain ⟨_, -, h⟩ := ok_of_bind h
  cases h
  rfl

/-- The interval is zero exactly if the environment says so and no file says otherwise. -/
theorem poll_zero_iff (h : load env readFile = .ok c) :
    c.membershipPollMs = 0 ↔ env.nat "COMET_MEMBERSHIP_POLL_MS" 2000 = 0 ∧
      ∀ o ∈ file? env readFile, ∀ ms ∈ o.membershipPollMs, ms = 0 := by
  obtain ⟨-, base, hbase, hfile⟩ := accepted h
  rw [← poll_ofEnvironment hbase]
  cases hf : file? env readFile with
  | none =>
    rw [hf] at hfile
    simp [hfile]
  | some o =>
    rw [hf] at hfile
    rw [poll_override hfile]
    cases hms : o.membershipPollMs with
    | none => simp [hms]
    | some ms =>
      rcases Nat.eq_zero_or_pos ms with rfl | hpos
      · simp [hms, Option.filter]
      · simp [hms, Option.filter, hpos, Nat.pos_iff_ne_zero.1 hpos]

/-! ## What a configuration is for -/

/-- A node can start with the configuration and go on. -/
structure Runnable (hash : String → UInt32) (c : Config) : Prop where
  /-- With a store a node can be made.  It is on its ring, and may go by the list of the nodes again. -/
  starts : c.fits = true → ∀ (store : Store) (now : Int), ∃ n,
    Node.withStore hash c (some store) now = .ok n ∧ c.nodeId ∈ n.ring.nodes ∧
      ∀ vnodes, Ring.fits c.nodes vnodes = true → ∃ closed, (n.migrate c.nodes vnodes).1 = .ok closed
  /-- There can be no lists of so many buckets or points. -/
  stops : c.fits = false → ∀ (store : Store) (now : Int),
    Node.withStore hash c (some store) now = .error .capacity
  heartbeat : ∃ secs, c.heartbeat 0 = some secs ∧ 0 < secs ∧ secs ≤ c.maxHeartbeatSecs
  limits : ∀ p ∈ c.positives, 0 < p.2
  queue : 0 < c.connectionQueueDepth

theorem Valid.withStore (h : c.Valid) (hash : String → UInt32) (store : Store) (now : Int) :
    ∃ n, Node.withStore hash c (some store) now = if c.fits then .ok n else .error .capacity := by
  obtain ⟨ids, hids⟩ : ∃ ids, IdSource.snowflake? c.workerId .wall = .ok ids := by
    have hworker : 0 ≤ c.workerId ∧ c.workerId ≤ 1023 := h.worker
    unfold IdSource.snowflake? Snowflake.new?
    rw [dif_pos hworker]
    exact ⟨_, rfl⟩
  obtain ⟨hub, hhub⟩ : ∃ hub, Hub.new Registry.spread c.channelBuckets c.channelSettings true
      (.new now ids store) = .ok hub := by
    unfold Hub.new Registry.new
    rw [if_pos h.buckets]
    exact ⟨_, if_neg fun hmissing => Bool.noConfusion hmissing.2⟩
  unfold Node.withStore
  simp only [hids, Option.isSome_some, Option.getD_some, hhub]
  exact ⟨_, rfl⟩

theorem Valid.queue (h : c.Valid) : 0 < c.connectionQueueDepth := by
  have hdepth : 0 < c.connQueueDepth :=
    h.positives (.connQueueDepth, c.connQueueDepth) (by simp [Config.positives])
  unfold connectionQueueDepth Numeral.wordBound
  omega

theorem Valid.runnable (h : c.Valid) (hash : String → UInt32) : c.Runnable hash where
  starts := by
    intro hfits store now
    obtain ⟨n, hn⟩ := h.withStore hash store now
    rw [hfits, if_pos rfl] at hn
    obtain ⟨hconfig, hring⟩ := Node.made_config hn
    refine ⟨n, hn, hring ▸ Ring.mem_sortNames.2 h.self, fun vnodes _ => ?_⟩
    exact ⟨_, congrArg Prod.fst (Node.migrate_ok (hconfig ▸ h.self) vnodes)⟩
  stops := by
    intro hfits store now
    obtain ⟨n, hn⟩ := h.withStore hash store now
    rwa [hfits, if_neg Bool.false_ne_true] at hn
  heartbeat := ⟨c.defaultHeartbeatSecs, if_pos rfl, h.heartbeat⟩
  limits := h.positives
  queue := h.queue

/-- Whatever the environment and the file say: a configuration that is accepted can be run, unless it wants
more buckets or points than there can be a list of, and the interval at which members are asked for is zero
exactly if the environment says so and no file says otherwise. -/
theorem runnable_of_load (h : load env readFile = .ok c) (hash : String → UInt32) :
    c.Runnable hash ∧
      (c.membershipPollMs = 0 ↔ env.nat "COMET_MEMBERSHIP_POLL_MS" 2000 = 0 ∧
        ∀ o ∈ file? env readFile, ∀ ms ∈ o.membershipPollMs, ms = 0) :=
  ⟨(valid_of_validate (accepted h).1).runnable hash, poll_zero_iff h⟩

/-- The file sets the interval that the environment has set to zero. -/
theorem runnable_of_load_two_sources :
    let env : Environment := [("COMET_NODE_ID", "2"), ("COMET_NODES", "1, 2"),
      ("COMET_MEMBERSHIP_POLL_MS", "0"), ("COMET_CONFIG", "comet.yaml")]
    let readFile := fun _ => some ("channel_kind: outer\nmessage_store_url: 'http://store'\n" ++
      "worker_id: 1023\nmembership_poll_ms: 250\n")
    let c := { defaults with
      nodeId := "2", nodes := ["1", "2"], channelKind := .outer, messageStoreUrl := some "http://store"
      workerId := 1023, membershipPollMs := 250 }
    load env readFile = .ok c ∧ c.Runnable Ring.position ∧ c.fits = true ∧
      ∃ o ∈ file? env readFile, ∃ ms ∈ o.membershipPollMs, ms ≠ 0 := by
  intro env readFile c
  have hload : load env readFile = .ok c := by decide +kernel
  obtain ⟨hrun, hpoll⟩ := runnable_of_load hload Ring.position
  refine ⟨hload, hrun, fits_of_length (by decide) (by decide), ?_⟩
  have hne := mt hpoll.2 (show c.membershipPollMs ≠ 0 by decide)
  have hzero : env.nat "COMET_MEMBERSHIP_POLL_MS" 2000 = 0 := by decide +kernel
  refine Classical.byContradiction fun hno => hne ⟨hzero, fun o ho ms hms => ?_⟩
  exact Classical.byContradiction fun h => hno ⟨o, ho, ms, hms, h⟩

/-- An interval of zero is accepted from the environment, while a file does not set one.  More points or
buckets are accepted than there can be a list of. -/
theorem zero_poll_accepted :
    let env : Environment := [("COMET_MEMBERSHIP_POLL_MS", "0")]
    let c := { defaults with membershipPollMs := 0 }
    let vast := { defaults with vnodes := 0xffffffffffffffff }
    let wide := { defaults with channelBuckets := 0x8000000000000000 }
    load env (fun _ => none) = .ok c ∧ ¬ 1 ≤ c.membershipPollMs ∧
      load [("COMET_CONFIG", "comet.yaml")] (fun _ => some "membership_poll_ms: 0\n") = .ok defaults ∧
      load [("COMET_VNODES", "18446744073709551615")] (fun _ => none) = .ok vast ∧ vast.fits = false ∧
      load [("COMET_CHANNEL_BUCKETS", "9223372036854775808")] (fun _ => none) = .ok wide ∧
      wide.fits = false :=
  ⟨by decide +kernel, by decide, by decide +kernel, by decide +kernel,
    Bool.and_eq_false_imp.2 fun _ => Ring.not_fits (List.cons_ne_nil _ _) (by decide),
    by decide +kernel, rfl⟩

end Config

end PushRelay
