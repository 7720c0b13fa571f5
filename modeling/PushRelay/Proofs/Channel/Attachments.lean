import PushRelay.Proofs.Channel.Calls

/-!
# Who is attached

Of the calls on a channel only two concern who is attached to it: `attach` takes a connection up, if it is
not refused, and `detach` lets one go.  No call is noticed by another connection than its own, and none
takes a channel beyond its limit.

    call.isQuiet = true → (call.act ch h).1.attached.contains c = ch.attached.contains c   (act_contains)
    ch.Bounded → (call.act ch h).1.Bounded                                                  (Bounded.act)
-/

namespace PushRelay

/-! ## Sizes of tables -/

namespace Table

variable {K V W : Type} {t : Table K V} {u : Table K W} {k : K}

theorem length_keys (t : Table K V) : t.keys.length = t.size := List.length_map _

variable [DecidableEq K]

theorem mem_keys : k ∈ t.keys ↔ t.contains k = true := by
  unfold contains get?
  cases hf : find k t.entries with
  | none => simp [keys, find_eq_none.1 hf]
  | some v =>
    have hk : k ∈ t.keys := Decidable.byContradiction fun hn => by
      rw [find_eq_none.2 hn] at hf
      cases hf
    simp [hk]

theorem size_le (h : ∀ k, t.contains k = true → u.contains k = true) : t.size ≤ u.size := by
  rw [← length_keys t, ← length_keys u]
  exact t.distinct.length_le_of_subset fun k hk => mem_keys.2 (h k (mem_keys.1 hk))

/-- A table with the keys of another and one more at most. -/
theorem size_le_succ (a : K) (h : ∀ k, t.contains k = true → k = a ∨ u.contains k = true) :
    t.size ≤ u.size + 1 := by
  rw [← length_keys t, ← length_keys u]
  have hsub : t.keys ⊆ a :: u.keys := fun k hk =>
    List.mem_cons.2 ((h k (mem_keys.1 hk)).imp_right mem_keys.2)
  exact t.distinct.length_le_of_subset hsub

theorem size_congr (h : ∀ k, t.contains k = u.contains k) : t.size = u.size :=
  Nat.le_antisymm (size_le fun k hk => h k ▸ hk) (size_le fun k hk => (h k).symm ▸ hk)

end Table

/-- The call attaches no connection and lets none go. -/
def ChannelCall.isQuiet : ChannelCall → Bool
  | .attach .. | .detach _ => false
  | _ => true

/-- The call may reach the connection. -/
def ChannelCall.concerns (c : ConnId) : ChannelCall → Bool
  | .push .. => true
  | .attach _ c' _ | .replay c' _ | .detach c' => decide (c = c')
  | _ => false

/-- The deadline that the call sets. -/
def ChannelCall.deadline? : ChannelCall → Option Int
  | .setDeadline deadline => some deadline
  | _ => none

theorem Host.get?_updateConn_of_ne (h : Host) {c c' : ConnId} (hne : c' ≠ c)
    (f : Connection Push → Connection Push) : (h.updateConn c f).conns.get? c' = h.conns.get? c' :=
  (Table.get?_modify _ _ _ _).trans (if_neg hne)

namespace Channel

variable {ch : Channel} {h : Host} {key : String} {c c' : ConnId} {lastId : Int}

/-! ## Attached connections -/

theorem push_contains (ch : Channel) (h : Host) (key : String) (m : Message) (c : ConnId) :
    (ch.push h key m).channel.attached.contains c = ch.attached.contains c := by
  cases hres : (ch.push h key m).result with
  | error e => rw [(push_error hres).1]
  | ok id =>
    unfold Table.contains
    rw [push_attached hres, Option.isSome_map]

theorem replay_contains (ch : Channel) (h : Host) (c : ConnId) (since : Int) (c' : ConnId) :
    (ch.replay h c since).channel.attached.contains c' = ch.attached.contains c' := by
  unfold Table.contains
  have hp := replay_replayed ch h c since
  generalize ch.replay h c since = out at hp
  cases hp with
  | quiet => rfl
  | tried ht =>
    rw [ht.attached]
    split
    · next hc => rw [hc, Option.isSome_map]
    · rfl

/-- Calls that attach no connection and let none go leave attached who is. -/
theorem act_contains {call : ChannelCall} (hq : call.isQuiet = true) (ch : Channel) (h : Host)
    (c : ConnId) : (call.act ch h).1.attached.contains c = ch.attached.contains c := by
  cases call with
  | push key m => exact push_contains ch h key m c
  | attach key c lastId => cases hq
  | replay c' since => exact replay_contains ch h c' since c
  | detach c => cases hq
  | setDeadline deadline => rfl
  | addToken ticket =>
    obtain ⟨tokens, ht⟩ := act_addToken ch h ticket
    rw [ht]
  | authToken ticket =>
    obtain ⟨tokens, ht⟩ := act_authToken ch h ticket
    rw [ht]

/-- A connection that is taken up is attached, whoever else is. -/
theorem attach_contains_ok (hok : (ch.attach h key c lastId).result = .ok ()) (c' : ConnId) :
    (ch.attach h key c lastId).channel.attached.contains c' = true ↔
      c' = c ∨ ch.attached.contains c' = true := by
  have hp := attach_taken ch h key c lastId
  generalize ch.attach h key c lastId = out at hp hok
  unfold Table.contains
  cases hp with
  | refused => cases hok
  | joined =>
    rw [Table.get?_insert]
    by_cases hc : c' = c <;> simp [hc]
  | @fed ms ws b out hf =>
    have hfailure : b.failure = none := by
      have hresult := hf.result
      rw [hok] at hresult
      cases hb : b.failure with
      | none => rfl
      | some e => rw [hb] at hresult; cases hresult
    rw [hf.attached, if_pos hfailure]
    by_cases hc : c' = c <;> simp [hc]

/-- A connection that is refused is not attached, and the others are as before. -/
theorem attach_contains_error {e : ChannelError} (he : (ch.attach h key c lastId).result = .error e)
    (hc : ch.attached.contains c = false) (c' : ConnId) :
    (ch.attach h key c lastId).channel.attached.contains c' = ch.attached.contains c' := by
  have hp := attach_taken ch h key c lastId
  generalize ch.attach h key c lastId = out at hp he
  cases hp with
  | refused => rfl
  | joined => cases he
  | @fed ms ws b out hf =>
    have hfailure : b.failure ≠ none := by
      intro hb
      have hresult := hf.result
      rw [he, hb] at hresult
      cases hresult
    unfold Table.contains at hc ⊢
    rw [hf.attached, if_neg hfailure]
    split
    · next h => rw [h, hc]; rfl
    · rfl

theorem attach_contains_le (ch : Channel) (h : Host) (key : String) (c : ConnId) (lastId : Int)
    (c' : ConnId) (hc' : (ch.attach h key c lastId).channel.attached.contains c' = true) :
    c' = c ∨ ch.attached.contains c' = true := by
  have hp := attach_taken ch h key c lastId
  generalize ch.attach h key c lastId = out at hp hc'
  unfold Table.contains at hc' ⊢
  cases hp with
  | refused => exact Or.inr hc'
  | joined =>
    rw [Table.get?_insert] at hc'
    split at hc'
    · next heq => exact Or.inl heq
    · exact Or.inr hc'
  | fed hf =>
    rw [hf.attached] at hc'
    split at hc'
    · next heq => exact Or.inl heq
    · exact Or.inr hc'

theorem detach_contains (ch : Channel) (c c' : ConnId) :
    (ch.detach c).attached.contains c' = true ↔ c' ≠ c ∧ ch.attached.contains c' = true := by
  unfold Table.contains
  rw [detach_attached]
  by_cases hc : c' = c <;> simp [hc]

/-! ## What no call changes -/

theorem keep_rest (ch : Channel) (h : Host) (key : String) (m : Message) :
    ((ch.keep h key m).channel.maxConns = ch.maxConns ∧
        (ch.keep h key m).channel.deadline = ch.deadline) ∧
      (ch.keep h key m).host.metrics = h.metrics := by
  have hk := keep_kept ch h key m
  generalize ch.keep h key m = out at hk
  cases hk <;> exact ⟨⟨rfl, rfl⟩, rfl⟩

theorem push_rest (ch : Channel) (h : Host) (key : String) (m : Message) :
    ((ch.push h key m).channel.maxConns = ch.maxConns ∧
        (ch.push h key m).channel.deadline = ch.deadline) ∧
      (ch.push h key m).host.metrics.connections = h.metrics.connections := by
  obtain ⟨hterms, hmetrics⟩ := keep_rest ch h key m
  have hconns := congrArg Metrics.connections hmetrics
  simp only [push]
  split
  · exact ⟨⟨rfl, rfl⟩, rfl⟩
  · split
    · exact ⟨⟨rfl, rfl⟩, rfl⟩
    · split
      · exact ⟨hterms, hconns⟩
      · exact ⟨hterms, hconns⟩

/-- A replay reaches its own connection only. -/
theorem replay_rest (ch : Channel) (h : Host) (c : ConnId) (since : Int) :
    ((ch.replay h c since).channel.maxConns = ch.maxConns ∧
        (ch.replay h c since).channel.deadline = ch.deadline) ∧
      (ch.replay h c since).host.metrics.connections = h.metrics.connections ∧
      ∀ c', c' ≠ c → (ch.replay h c since).host.conns.get? c' = h.conns.get? c' := by
  unfold replay
  split
  · exact ⟨⟨rfl, rfl⟩, rfl, fun _ _ => rfl⟩
  · split
    · exact ⟨⟨rfl, rfl⟩, rfl, fun _ _ => rfl⟩
    · split
      · exact ⟨⟨rfl, rfl⟩, rfl, fun _ _ => rfl⟩
      · simp only
        split
        · exact ⟨⟨rfl, rfl⟩, rfl, fun _ hne => h.get?_updateConn_of_ne hne _⟩
        · exact ⟨⟨rfl, rfl⟩, rfl, fun _ hne => h.get?_updateConn_of_ne hne _⟩

/-- A connection that is attached, or is not, is the only one to notice it. -/
theorem attach_rest (ch : Channel) (h : Host) (key : String) (c : ConnId) (lastId : Int) :
    ((ch.attach h key c lastId).channel.maxConns = ch.maxConns ∧
        (ch.attach h key c lastId).channel.deadline = ch.deadline) ∧
      (ch.attach h key c lastId).host.metrics.connections = h.metrics.connections ∧
      ∀ c', c' ≠ c → (ch.attach h key c lastId).host.conns.get? c' = h.conns.get? c' := by
  have hconns : (h.history key lastId).2.conns = h.conns := rfl
  have hmetrics : (h.history key lastId).2.metrics = h.metrics := rfl
  unfold attach
  split
  · exact ⟨⟨rfl, rfl⟩, rfl, fun _ _ => rfl⟩
  · split
    · exact ⟨⟨rfl, rfl⟩, rfl, fun _ _ => rfl⟩
    · split
      · exact ⟨⟨rfl, rfl⟩, rfl, fun _ _ => rfl⟩
      · split
        · next he =>
          rw [he] at hconns hmetrics
          exact ⟨⟨rfl, rfl⟩, congrArg Metrics.connections hmetrics, fun c' _ => congrArg (·.get? c') hconns⟩
        · next h' he =>
          rw [he] at hconns hmetrics
          have hcount := congrArg Metrics.connections hmetrics
          split
          · exact ⟨⟨rfl, rfl⟩, hcount, fun c' _ => congrArg (·.get? c') hconns⟩
          · have hother (c' : ConnId) (hne : c' ≠ c) (f : Connection Push → Connection Push) :
                (h'.updateConn c f).conns.get? c' = h.conns.get? c' :=
              (h'.get?_updateConn_of_ne hne f).trans (congrArg (·.get? c') hconns)
            simp only
            split
            · exact ⟨⟨rfl, rfl⟩, hcount, fun c' hne => hother c' hne _⟩
            · exact ⟨⟨rfl, rfl⟩, hcount, fun c' hne => hother c' hne _⟩

/-- No call moves the limit of the channel, or counts anybody as connected. -/
theorem act_rest (ch : Channel) (h : Host) (call : ChannelCall) :
    (call.act ch h).1.maxConns = ch.maxConns ∧
      (call.act ch h).2.metrics.connections = h.metrics.connections := by
  cases call with
  | push key m => exact ⟨(push_rest ch h key m).1.1, (push_rest ch h key m).2⟩
  | attach key c lastId => exact ⟨(attach_rest ch h key c lastId).1.1, (attach_rest ch h key c lastId).2.1⟩
  | replay c since => exact ⟨(replay_rest ch h c since).1.1, (replay_rest ch h c since).2.1⟩
  | detach c => exact ⟨rfl, rfl⟩
  | setDeadline deadline => exact ⟨rfl, rfl⟩
  | addToken ticket =>
    obtain ⟨tokens, ht⟩ := act_addToken ch h ticket
    rw [ht]
    exact ⟨rfl, rfl⟩
  | authToken ticket =>
    obtain ⟨tokens, ht⟩ := act_authToken ch h ticket
    rw [ht]
    exact ⟨rfl, rfl⟩

/-- Only the call that sets the deadline of the channel moves it. -/
theorem act_deadline (ch : Channel) (h : Host) (call : ChannelCall) :
    (call.act ch h).1.deadline = call.deadline?.getD ch.deadline := by
  cases call with
  | push key m => exact (push_rest ch h key m).1.2
  | attach key c lastId => exact (attach_rest ch h key c lastId).1.2
  | replay c since => exact (replay_rest ch h c since).1.2
  | detach c => rfl
  | setDeadline deadline => rfl
  | addToken ticket =>
    obtain ⟨tokens, ht⟩ := act_addToken ch h ticket
    rw [ht]
    rfl
  | authToken ticket =>
    obtain ⟨tokens, ht⟩ := act_authToken ch h ticket
    rw [ht]
    rfl

/-- A call that does not concern a connection leaves it, and what the channel knows of it, as they are. -/
theorem act_unconcerned {call : ChannelCall} (hn : call.concerns c = false) (ch : Channel) (h : Host) :
    (call.act ch h).1.attached.get? c = ch.attached.get? c ∧
      (call.act ch h).2.conns.get? c = h.conns.get? c := by
  cases call with
  | push key m => cases hn
  | attach key c' lastId =>
    have hne : c ≠ c' := by simpa [ChannelCall.concerns] using hn
    refine ⟨?_, (attach_rest ch h key c' lastId).2.2 c hne⟩
    show (ch.attach h key c' lastId).channel.attached.get? c = _
    have hp := attach_taken ch h key c' lastId
    generalize ch.attach h key c' lastId = out at hp
    cases hp with
    | refused => rfl
    | joined => exact (Table.get?_insert _ _ _ _).trans (if_neg hne)
    | fed hf => rw [hf.attached, if_neg hne]
  | replay c' since =>
    have hne : c ≠ c' := by simpa [ChannelCall.concerns] using hn
    refine ⟨?_, (replay_rest ch h c' since).2.2 c hne⟩
    show (ch.replay h c' since).channel.attached.get? c = _
    have hp := replay_replayed ch h c' since
    generalize ch.replay h c' since = out at hp
    cases hp with
    | quiet => rfl
    | tried ht => rw [ht.attached, if_neg hne]
  | detach c' =>
    have hne : c ≠ c' := by simpa [ChannelCall.concerns] using hn
    exact ⟨(ch.detach_attached c' c).trans (if_neg hne), rfl⟩
  | setDeadline deadline => exact ⟨rfl, rfl⟩
  | addToken ticket =>
    obtain ⟨tokens, ht⟩ := act_addToken ch h ticket
    rw [ht]
    exact ⟨rfl, rfl⟩
  | authToken ticket =>
    obtain ⟨tokens, ht⟩ := act_authToken ch h ticket
    rw [ht]
    exact ⟨rfl, rfl⟩

/-! ## The limit -/

/-- There are no more connections than the channel takes. -/
def Bounded (ch : Channel) : Prop := ch.connCount ≤ ch.maxConns

theorem attach_full (hf : ch.isFull c = true) : (ch.attach h key c lastId).channel = ch := by
  simp only [attach, hf]
  split
  · rfl
  · rfl

theorem attach_bounded (hb : ch.Bounded) (h : Host) (key : String) (c : ConnId) (lastId : Int) :
    (ch.attach h key c lastId).channel.connCount ≤ ch.maxConns := by
  have hle := attach_contains_le ch h key c lastId
  cases hf : ch.isFull c with
  | true =>
    rw [attach_full hf]
    exact hb
  | false =>
    cases hc : ch.attached.contains c with
    | true =>
      -- a connection that was attached already takes no other place
      refine Nat.le_trans (Table.size_le fun c' hc' => ?_) hb
      rcases hle c' hc' with rfl | hc'
      · exact hc
      · exact hc'
    | false =>
      have hroom : ch.attached.size < ch.maxConns := by simpa [isFull, hc] using hf
      exact Nat.le_trans (Table.size_le_succ c hle) hroom

theorem Bounded.act (hb : ch.Bounded) (h : Host) (call : ChannelCall) : (call.act ch h).1.Bounded := by
  unfold Bounded
  rw [(act_rest ch h call).1]
  cases call with
  | attach key c lastId => exact attach_bounded hb h key c lastId
  | detach c => exact Nat.le_trans (Table.size_le fun c' hc' => ((ch.detach_contains c c').1 hc').2) hb
  | _ => exact Nat.le_trans (Nat.le_of_eq (Table.size_congr (act_contains rfl ch h))) hb

end Channel

end PushRelay
