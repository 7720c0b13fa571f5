import PushRelay.Proofs.Channel.Steps

/-!
# Calls on a channel

A `ChannelCall` is what can be done with a channel by whoever has got hold of it.  No call opens or
closes a channel, and a channel that is closed does not do anything for its callers any more.

    (call.act ch h).1.closed = ch.closed                                           (act_closed)
    ch.Emptied → (call.act ch h).1.Emptied ∧ (call.act ch h).2 = h                   (act_idle)

`Host.Onward` says that connections stay, and that a request to close one is never taken back.
-/

namespace PushRelay

/-! ## Connections that stay -/

namespace Host

/-- Numbers from `nextConn` on have not been given away. -/
def Numbered (h : Host) : Prop := ∀ c, h.nextConn ≤ c → h.conns.get? c = none

/-- From `h` to `h'` connections stay, and so do requests to close them. -/
structure Onward (h h' : Host) : Prop where
  next : h.nextConn ≤ h'.nextConn
  fresh : h.Numbered → h'.Numbered
  kept : ∀ c conn, h.conns.get? c = some conn → ∃ conn', h'.conns.get? c = some conn' ∧
    (conn.closeRequested = true → conn'.closeRequested = true)

variable {h h' h'' : Host} {c : ConnId}

theorem Onward.congr (hc : h'.conns = h.conns) (hn : h'.nextConn = h.nextConn) : Onward h h' where
  next := Nat.le_of_eq hn.symm
  fresh := by
    intro hnum c hle
    rw [hn] at hle
    rw [hc]
    exact hnum c hle
  kept := by
    intro c conn hget
    rw [hc]
    exact ⟨conn, hget, id⟩

theorem Onward.refl (h : Host) : Onward h h := .congr rfl rfl

theorem Onward.trans (h₁ : Onward h h') (h₂ : Onward h' h'') : Onward h h'' where
  next := Nat.le_trans h₁.next h₂.next
  fresh := fun hn => h₂.fresh (h₁.fresh hn)
  kept := by
    intro c conn hget
    obtain ⟨conn', hget', hclose⟩ := h₁.kept c conn hget
    obtain ⟨conn'', hget'', hclose'⟩ := h₂.kept c conn' hget'
    exact ⟨conn'', hget'', fun hr => hclose' (hclose hr)⟩

/-- Every connection becomes one that is asked to close if it was before. -/
theorem Onward.map (f : ConnId → Connection Push → Connection Push)
    (hc : ∀ c, h'.conns.get? c = (h.conns.get? c).map (f c)) (hn : h'.nextConn = h.nextConn)
    (hf : ∀ c conn, h.conns.get? c = some conn → conn.closeRequested = true →
      (f c conn).closeRequested = true) : Onward h h' where
  next := Nat.le_of_eq hn.symm
  fresh := by
    intro hnum c hle
    rw [hn] at hle
    rw [hc, hnum c hle]
    rfl
  kept := by
    intro c conn hget
    rw [hc, hget]
    exact ⟨f c conn, rfl, hf c conn hget⟩

theorem Onward.updateConn (h : Host) (c : ConnId) (f : Connection Push → Connection Push)
    (hf : ∀ conn, h.conns.get? c = some conn → conn.closeRequested = true →
      (f conn).closeRequested = true) : Onward h (h.updateConn c f) := by
  refine .map (fun c' conn => if c' = c then f conn else conn) (fun c' => ?_) rfl
    fun c' conn hget hr => ?_
  · unfold Host.updateConn
    rw [Table.get?_modify]
    split
    · rfl
    · exact Option.map_id'.symm
  · split
    · next hc => exact hf conn (hc ▸ hget) hr
    · exact hr

/-- A new connection gets a number that no connection has had. -/
theorem Numbered.connect (hn : h.Numbered) (depth : Nat) : Onward h (h.connect depth).2 where
  next := Nat.le_succ _
  fresh := by
    intro _ c hle
    have hlt : h.nextConn < c := hle
    show (h.conns.insert h.nextConn _).get? c = none
    rw [Table.get?_insert, if_neg (Nat.ne_of_gt hlt)]
    exact hn c (Nat.le_of_lt hlt)
  kept := by
    intro c conn hget
    have hne : c ≠ h.nextConn := by
      rintro rfl
      rw [hn _ (Nat.le_refl _)] at hget
      cases hget
    refine ⟨conn, ?_, id⟩
    show (h.conns.insert h.nextConn _).get? c = _
    rw [Table.get?_insert, if_neg hne]
    exact hget

end Host

/-! ## Calls -/

/-- What can be done with a channel by whoever has got hold of it. -/
inductive ChannelCall where
  | push (key : String) (m : Message)
  | attach (key : String) (c : ConnId) (lastId : Int)
  | replay (c : ConnId) (since : Int)
  | detach (c : ConnId)
  | setDeadline (deadline : Int)
  | addToken (ticket : String)
  | authToken (ticket : String)

/-- What becomes of the channel and the host. -/
def ChannelCall.act (ch : Channel) (h : Host) : ChannelCall → Channel × Host
  | .push key m => ((ch.push h key m).channel, (ch.push h key m).host)
  | .attach key c lastId => ((ch.attach h key c lastId).channel, (ch.attach h key c lastId).host)
  | .replay c since => ((ch.replay h c since).channel, (ch.replay h c since).host)
  | .detach c => (ch.detach c, h)
  | .setDeadline deadline => (ch.setDeadline deadline, h)
  | .addToken ticket => ((ch.addToken ticket h.now).2, h)
  | .authToken ticket => ((ch.authToken ticket h.now).2, h)

namespace Channel

variable {ch : Channel} {h : Host} {key : String} {m : Message} {c : ConnId}

/-- Tickets are the only thing that a step of the ticket registry changes. -/
theorem onTokens_frame (ch : Channel)
    (f : TokenRegistry → Except TokenError Unit × TokenRegistry) :
    ∃ tokens, (ch.onTokens f).2 = { ch with tokens } := by
  unfold onTokens
  split
  · exact ⟨ch.tokens, rfl⟩
  · next tokens _ => exact ⟨some (f tokens).2, rfl⟩

theorem act_addToken (ch : Channel) (h : Host) (ticket : String) :
    ∃ tokens, (ChannelCall.addToken ticket).act ch h = ({ ch with tokens }, h) := by
  obtain ⟨tokens, ht⟩ := ch.onTokens_frame fun tokens => tokens.add ticket h.now
  exact ⟨tokens, congrArg (·, h) ht⟩

theorem act_authToken (ch : Channel) (h : Host) (ticket : String) :
    ∃ tokens, (ChannelCall.authToken ticket).act ch h = ({ ch with tokens }, h) := by
  obtain ⟨tokens, ht⟩ := ch.onTokens_frame fun tokens => tokens.auth ticket h.now
  exact ⟨tokens, congrArg (·, h) ht⟩

theorem push_closed (ch : Channel) (h : Host) (key : String) (m : Message) :
    (ch.push h key m).channel.closed = ch.closed := by
  obtain ⟨-, hkc, -, -⟩ := keep_frame ch h key m
  have hp := push_pushed ch h key m
  generalize ch.push h key m = out at hp
  cases hp with
  | refused => rfl
  | accepted => exact hkc

theorem replay_closed (ch : Channel) (h : Host) (c : ConnId) (since : Int) :
    (ch.replay h c since).channel.closed = ch.closed := by
  have hp := replay_replayed ch h c since
  generalize ch.replay h c since = out at hp
  cases hp with
  | quiet => rfl
  | tried ht => exact ht.closed

theorem attach_closed (ch : Channel) (h : Host) (key : String) (c : ConnId) (lastId : Int) :
    (ch.attach h key c lastId).channel.closed = ch.closed := by
  have hp := attach_taken ch h key c lastId
  generalize ch.attach h key c lastId = out at hp
  cases hp with
  | refused => rfl
  | joined => rfl
  | fed hf => exact hf.closed

/-- No call opens or closes a channel. -/
theorem act_closed (ch : Channel) (h : Host) (call : ChannelCall) :
    (call.act ch h).1.closed = ch.closed := by
  cases call with
  | push key m => exact push_closed ch h key m
  | attach key c lastId => exact attach_closed ch h key c lastId
  | replay c since => exact replay_closed ch h c since
  | detach c => rfl
  | setDeadline deadline => rfl
  | addToken ticket =>
    obtain ⟨tokens, ht⟩ := act_addToken ch h ticket
    rw [ht]
  | authToken ticket =>
    obtain ⟨tokens, ht⟩ := act_authToken ch h ticket
    rw [ht]

/-! ## Calls on a closed channel -/

/-- A closed channel refuses every message. -/
theorem push_refused (hc : ch.closed = true) (h : Host) (key : String) (m : Message) :
    ∃ e, ch.push h key m = ⟨.error e, ch, h⟩ ∧ (e = .closed ∨ e = .messageExpired) := by
  unfold push
  rw [hc]
  split
  · exact ⟨_, rfl, Or.inr rfl⟩
  · exact ⟨_, rfl, Or.inl rfl⟩

/-- A closed channel refuses every connection. -/
theorem attach_refused (hc : ch.closed = true) (h : Host) (key : String) (c : ConnId)
    (lastId : Int) : ch.attach h key c lastId = ⟨.error .closed, ch, h⟩ := by
  simp only [attach, hc, if_true]

theorem replay_idle (hc : ch.closed = true) (h : Host) (c : ConnId) (since : Int) :
    (ch.replay h c since).channel = ch ∧ (ch.replay h c since).host = h := by
  unfold replay
  split
  · exact ⟨rfl, rfl⟩
  · rw [if_pos hc]
    exact ⟨rfl, rfl⟩

/-- A closed channel has let go of its connections and of the messages it retained. -/
structure Emptied (ch : Channel) : Prop where
  closed : ch.closed = true
  attached : ch.attached = .empty
  retained : ch.retained = []

theorem emptied_close (ch : Channel) (h : Host) : (ch.close h).1.Emptied :=
  ⟨rfl, rfl, (close_retains ch h).2⟩

/-- Calls on a closed channel reach neither the host nor a connection. -/
theorem act_idle (he : ch.Emptied) (h : Host) (call : ChannelCall) :
    (call.act ch h).1.Emptied ∧ (call.act ch h).2 = h := by
  cases call with
  | push key m =>
    obtain ⟨e, hp, -⟩ := push_refused he.closed h key m
    simp only [ChannelCall.act, hp]
    exact ⟨he, trivial⟩
  | attach key c lastId =>
    simp only [ChannelCall.act, attach_refused he.closed]
    exact ⟨he, trivial⟩
  | replay c since =>
    obtain ⟨hch, hh⟩ := replay_idle he.closed h c since
    refine ⟨?_, hh⟩
    show (ch.replay h c since).channel.Emptied
    rw [hch]
    exact he
  | detach c =>
    refine ⟨⟨he.closed, ?_, he.retained⟩, rfl⟩
    show ch.attached.erase c = .empty
    rw [he.attached]
    rfl
  | setDeadline deadline => exact ⟨⟨he.closed, he.attached, he.retained⟩, rfl⟩
  | addToken ticket =>
    obtain ⟨tokens, ht⟩ := act_addToken ch h ticket
    rw [ht]
    exact ⟨⟨he.closed, he.attached, he.retained⟩, rfl⟩
  | authToken ticket =>
    obtain ⟨tokens, ht⟩ := act_authToken ch h ticket
    rw [ht]
    exact ⟨⟨he.closed, he.attached, he.retained⟩, rfl⟩

/-! ## Connections under calls -/

theorem keep_nextConn (ch : Channel) (h : Host) (key : String) (m : Message) :
    (ch.keep h key m).host.nextConn = h.nextConn := by
  have hk := keep_kept ch h key m
  generalize ch.keep h key m = out at hk
  cases hk <;> rfl

theorem push_onward (ch : Channel) (h : Host) (key : String) (m : Message) :
    h.Onward (ch.push h key m).host := by
  obtain ⟨-, -, hkc, -⟩ := keep_frame ch h key m
  have hkn := keep_nextConn ch h key m
  have hkept : h.Onward (ch.keep h key m).host := .congr hkc hkn
  have hp := push_pushed ch h key m
  generalize ch.push h key m = out at hp
  cases hp with
  | refused hc hn hk =>
    rcases hk with rfl | ⟨rfl, -⟩
    · exact .refl _
    · exact hkept
  | @accepted k f =>
    refine hkept.trans (.map (fun c conn => if (ch.keep h key m).channel.reaches
      (ch.keep h key m).host k.push.id c then conn.enqueue k.push else conn)
      (fun c => Table.get?_mapValues _ _ _) rfl fun c conn _ hr => ?_)
    split <;> exact hr

theorem writeBacklog_closeRequested (now : Int) (ms : List Message) (conn : Connection Push)
    (last : Int) : (writeBacklog now ms conn last).conn.closeRequested = conn.closeRequested := by
  induction ms generalizing conn last with
  | nil => rfl
  | cons m ms ih =>
    simp only [writeBacklog]
    split
    · exact ih conn last
    · split
      · exact ih conn last
      · split
        · rfl
        · next conn' hw =>
          rw [Connection.write_ok hw]
          exact ih _ m.id

/-- Writing a backlog to a connection takes back no request to close it. -/
theorem backlog_onward {conn : Connection Push} (hc : h.conns.get? c = some conn) (now : Int)
    (ms : List Message) (last : Int) :
    h.Onward (h.updateConn c fun _ => (writeBacklog now ms conn last).conn) := by
  refine .updateConn h c _ fun conn' hc' hr => ?_
  rw [hc] at hc'
  cases hc'
  rw [writeBacklog_closeRequested]
  exact hr

theorem replay_onward (ch : Channel) (h : Host) (c : ConnId) (since : Int) :
    h.Onward (ch.replay h c since).host := by
  unfold replay
  split
  · exact .refl h
  · split
    · exact .refl h
    · split
      · exact .refl h
      · next conn hc =>
        have hb := backlog_onward hc
        simp only
        split
        · exact hb _ _ _
        · exact (hb _ _ _).trans (.congr rfl rfl)

theorem attach_onward (ch : Channel) (h : Host) (key : String) (c : ConnId) (lastId : Int) :
    h.Onward (ch.attach h key c lastId).host := by
  have hh : h.Onward (h.history key lastId).2 := .congr rfl rfl
  unfold attach
  split
  · exact .refl h
  · split
    · exact .refl h
    · split
      · exact .refl h
      · split
        · next heq =>
          rw [heq] at hh
          exact hh
        · next h' heq =>
          rw [heq] at hh
          split
          · exact hh
          · next conn hc =>
            have hb := backlog_onward hc
            simp only
            split
            · exact hh.trans (hb _ _ _)
            · exact (hh.trans (hb _ _ _)).trans (.congr rfl rfl)

theorem act_onward (ch : Channel) (h : Host) (call : ChannelCall) :
    h.Onward (call.act ch h).2 := by
  cases call with
  | push key m => exact push_onward ch h key m
  | attach key c lastId => exact attach_onward ch h key c lastId
  | replay c since => exact replay_onward ch h c since
  | detach c => exact .refl h
  | setDeadline deadline => exact .refl h
  | addToken ticket => exact .refl h
  | authToken ticket => exact .refl h

end Channel

end PushRelay
