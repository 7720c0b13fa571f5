import PushRelay.Proofs.Channel.Backlog
import PushRelay.Proofs.Log

/-!
# What the steps of a channel do

One lemma for each step says what becomes of the attachments, of what is retained and of what waits on
the connections; nothing else needs to open the steps.

* `push_error`, `push_attached`, `push_waiting`: a push that is refused touches nothing; one that is
  accepted goes to exactly the connections that it `reaches`.
* `replay_replayed`, `attach_taken`: what a backlog adds, by `Wrote`.
* `close_waiting`, `close_attached`: closing takes nothing off a queue and lets go of everything.
-/

namespace PushRelay

namespace Host

/-- What waits on a connection. -/
def waiting (h : Host) (c : ConnId) : List Push := ((h.conns.get? c).map (·.waiting)).getD []

theorem waiting_of_get? {h : Host} {c : ConnId} {conn : Connection Push}
    (hc : h.conns.get? c = some conn) : h.waiting c = conn.waiting := by
  simp [waiting, hc]

theorem waiting_congr {h h' : Host} (hc : h'.conns = h.conns) (c : ConnId) :
    h'.waiting c = h.waiting c := by
  unfold waiting
  rw [hc]

theorem hasRoom_congr {h h' : Host} (hc : h'.conns = h.conns) (c : ConnId) :
    h'.hasRoom c = h.hasRoom c := by
  unfold hasRoom
  rw [hc]

theorem hasRoom_iff {h : Host} {c : ConnId} :
    h.hasRoom c = true ↔ ∃ conn, h.conns.get? c = some conn ∧ conn.hasRoom = true := by
  unfold hasRoom
  cases h.conns.get? c <;> simp

theorem waiting_updateConn (h : Host) (c c' : ConnId) (f : Connection Push → Connection Push) :
    (h.updateConn c f).waiting c' =
      if c' = c then ((h.conns.get? c).map fun conn => (f conn).waiting).getD [] else h.waiting c' := by
  unfold waiting updateConn
  rw [Table.get?_modify]
  by_cases hc : c' = c
  · subst hc
    rw [if_pos rfl, if_pos rfl, Option.map_map]
    rfl
  · rw [if_neg hc, if_neg hc]

@[simp] theorem history_conns (h : Host) (key : String) (since : Int) :
    (h.history key since).2.conns = h.conns := rfl

/-- Drawing an id may take time. -/
theorem le_now_drawWithin (waits : Nat) (s : IdSource) (now : Int) :
    now ≤ (s.drawWithin waits now).2.2 := by
  induction waits generalizing s now with
  | zero => simp [IdSource.drawWithin]
  | succ waits ih =>
    unfold IdSource.drawWithin
    split
    · next hw _ =>
      cases hw
      exact Int.le_trans (by omega : now ≤ now + 1000000) (ih _ (now + 1000000))
    · exact Int.le_refl now

theorem le_now_drawId (h : Host) : h.now ≤ h.drawId.2.now := le_now_drawWithin _ _ _

end Host

namespace Channel

variable {ch : Channel} {h : Host} {key : String} {m k : Message} {c c' : ConnId} {id since : Int}

/-! ## Keeping -/

/-- The outcomes of keeping a message. -/
inductive Kept (ch : Channel) (h : Host) (key : String) (m : Message) : Outcome Message → Prop
  | refused {messages : MessageLog} {max : Nat} {e : ChannelError}
      (hr : ch.retention = .log messages max) : Kept ch h key m ⟨.error e, ch, h⟩
  | retained {messages log : MessageLog} {max : Nat} {out : List Message}
      (hr : ch.retention = .log messages max)
      (hi : messages.insertBounded m max = .ok (out, log)) :
      Kept ch h key m ⟨.ok m, { ch with retention := .log log max }, h⟩
  | passed (hr : ch.retention = .store) (hm : m.group = .broadcast) : Kept ch h key m ⟨.ok m, ch, h⟩
  | undrawn {e : IdError} (hr : ch.retention = .store) (hm : m.group = .personal)
      (hd : h.drawId.1 = .error e) : Kept ch h key m ⟨.error (.noId e), ch, h.drawId.2⟩
  | unsaved {id : Int} {e : StoreError} (hr : ch.retention = .store) (hm : m.group = .personal)
      (hd : h.drawId.1 = .ok id) (hs : (h.drawId.2.save key (m.withId id)).1 = .error e) :
      Kept ch h key m ⟨.error (.store e), ch, (h.drawId.2.save key (m.withId id)).2⟩
  | saved {id : Int} (hr : ch.retention = .store) (hm : m.group = .personal)
      (hd : h.drawId.1 = .ok id) (hs : (h.drawId.2.save key (m.withId id)).1 = .ok ()) :
      Kept ch h key m ⟨.ok (m.withId id), ch, (h.drawId.2.save key (m.withId id)).2⟩

/-- A channel that persists its messages keeps one for one subscriber by drawing an id and saving it. -/
theorem keep_store_personal (hr : ch.retention = .store) (hm : m.group = .personal) :
    ch.keep h key m = match h.drawId.1 with
      | .error e => ⟨.error (.noId e), ch, h.drawId.2⟩
      | .ok id => match (h.drawId.2.save key (m.withId id)).1 with
        | .error e => ⟨.error (.store e), ch, (h.drawId.2.save key (m.withId id)).2⟩
        | .ok () => ⟨.ok (m.withId id), ch, (h.drawId.2.save key (m.withId id)).2⟩ := by
  simp only [keep, hr, hm]
  rcases h.drawId with ⟨_ | id, h'⟩
  · rfl
  · simp only
    rcases h'.save key (m.withId id) with ⟨_ | _, _⟩ <;> rfl

theorem keep_kept (ch : Channel) (h : Host) (key : String) (m : Message) :
    Kept ch h key m (ch.keep h key m) := by
  cases hr : ch.retention with
  | log messages max =>
    simp only [keep, hr]
    split
    · next hi => exact .retained hr hi
    · exact .refused hr
    · exact .refused hr
  | store =>
    cases hm : m.group with
    | broadcast =>
      simp only [keep, hr, hm]
      exact .passed hr hm
    | personal =>
      rw [keep_store_personal hr hm]
      split
      · next hd => exact .undrawn hr hm hd
      · next hd =>
        split
        · next hs => exact .unsaved hr hm hd hs
        · next hs => exact .saved hr hm hd hs

/-- Keeping a message concerns neither the attachments nor the connections. -/
theorem keep_frame (ch : Channel) (h : Host) (key : String) (m : Message) :
    (ch.keep h key m).channel.attached = ch.attached ∧
      (ch.keep h key m).channel.closed = ch.closed ∧
      (ch.keep h key m).host.conns = h.conns ∧ h.now ≤ (ch.keep h key m).host.now := by
  have hd := h.le_now_drawId
  have hk := keep_kept ch h key m
  generalize ch.keep h key m = out at hk
  cases hk with
  | refused => exact ⟨rfl, rfl, rfl, Int.le_refl _⟩
  | retained => exact ⟨rfl, rfl, rfl, Int.le_refl _⟩
  | passed => exact ⟨rfl, rfl, rfl, Int.le_refl _⟩
  | undrawn => exact ⟨rfl, rfl, rfl, hd⟩
  | unsaved => exact ⟨rfl, rfl, rfl, hd⟩
  | saved => exact ⟨rfl, rfl, rfl, hd⟩

/-- A message that is not kept leaves the channel as it is. -/
theorem keep_error {e : ChannelError} (he : (ch.keep h key m).result = .error e) :
    (ch.keep h key m).channel = ch := by
  have hk := keep_kept ch h key m
  generalize ch.keep h key m = out at hk he
  cases hk with
  | retained => cases he
  | _ => rfl

/-- What is kept is the message, under the id it is kept with. -/
theorem keep_withId (hok : (ch.keep h key m).result = .ok k) : k = m.withId k.id := by
  have hk := keep_kept ch h key m
  generalize ch.keep h key m = out at hk hok
  cases hk with
  | refused => cases hok
  | undrawn => cases hok
  | unsaved => cases hok
  | _ =>
    cases hok
    rfl

/-! ## Pushing -/

theorem reaches_iff :
    ch.reaches h id c = true ↔ ∃ a, ch.attached.get? c = some a ∧ a.awaitingReplay = false ∧
      a.lastId < id ∧ h.hasRoom c = true := by
  unfold reaches Attachment.isDue
  cases ch.attached.get? c <;> simp [and_assoc]

theorem reaches_congr {ch' : Channel} {h' : Host} (ha : ch'.attached = ch.attached)
    (hc : h'.conns = h.conns) (id : Int) (c : ConnId) :
    ch'.reaches h' id c = ch.reaches h id c := by
  unfold reaches
  rw [ha, Host.hasRoom_congr hc]

theorem fanOut_attached (ch : Channel) (h : Host) (p : Push) (c : ConnId) :
    (ch.fanOut h p).1.attached.get? c = (ch.attached.get? c).map fun a =>
      if ch.reaches h p.id c then { a with lastId := p.id } else a :=
  Table.get?_mapValues _ _ _

theorem fanOut_waiting (ch : Channel) (h : Host) (p : Push) (c : ConnId) :
    (ch.fanOut h p).2.waiting c = h.waiting c ++ if ch.reaches h p.id c then [p] else [] := by
  unfold Host.waiting fanOut
  simp only [Table.get?_mapValues, Option.map_map]
  by_cases hr : ch.reaches h p.id c = true
  · obtain ⟨a, -, -, -, hroom⟩ := reaches_iff.1 hr
    obtain ⟨conn, hconn, -⟩ := Host.hasRoom_iff.1 hroom
    simp [hconn, hr, Connection.enqueue]
  · simp only [hr, Bool.false_eq_true, if_false, List.append_nil]
    rfl

/-- A push that is refused, and one that is accepted: then the message has been kept, and is passed
on as it was kept. -/
inductive Pushed (ch : Channel) (h : Host) (key : String) (m : Message) : Outcome Int → Prop
  | refused {e : ChannelError} {h' : Host} (hc : h'.conns = h.conns) (hn : h.now ≤ h'.now)
      (hk : h' = h ∨ h' = (ch.keep h key m).host ∧ (ch.keep h key m).result = .error e) :
      Pushed ch h key m ⟨.error e, ch, h'⟩
  | accepted {k : Message} {f : Metrics → Metrics} (hx : m.isExpired h.now = false)
      (ho : ch.closed = false) (hk : (ch.keep h key m).result = .ok k) :
      Pushed ch h key m ⟨.ok k.id, ((ch.keep h key m).channel.fanOut (ch.keep h key m).host k.push).1,
        ((ch.keep h key m).channel.fanOut (ch.keep h key m).host k.push).2.count f⟩

theorem push_pushed (ch : Channel) (h : Host) (key : String) (m : Message) :
    Pushed ch h key m (ch.push h key m) := by
  obtain ⟨-, -, hc, hn⟩ := keep_frame ch h key m
  simp only [push]
  split
  · exact .refused rfl (Int.le_refl _) (Or.inl rfl)
  · next hx =>
    split
    · exact .refused rfl (Int.le_refl _) (Or.inl rfl)
    · next ho =>
      split
      · next hk =>
        rw [keep_error hk]
        exact .refused hc hn (Or.inr ⟨rfl, hk⟩)
      · next hk => exact .accepted (Bool.eq_false_iff.2 hx) (Bool.eq_false_iff.2 ho) hk

/-- A push that is refused touches neither the channel nor a connection. -/
theorem push_error {e : ChannelError} (he : (ch.push h key m).result = .error e) :
    (ch.push h key m).channel = ch ∧ (ch.push h key m).host.conns = h.conns := by
  have hp := push_pushed ch h key m
  generalize ch.push h key m = out at hp he
  cases hp with
  | refused hc => exact ⟨rfl, hc⟩
  | accepted => cases he

/-- What an accepted push was kept as. -/
theorem push_ok (hok : (ch.push h key m).result = .ok id) :
    m.isExpired h.now = false ∧ ch.closed = false ∧
      (ch.keep h key m).result = .ok (m.withId id) ∧
      (ch.push h key m).channel.retention = (ch.keep h key m).channel.retention ∧
      (ch.push h key m).host.store = (ch.keep h key m).host.store := by
  have hp := push_pushed ch h key m
  generalize ch.push h key m = out at hp hok
  cases hp with
  | refused => cases hok
  | accepted hx ho hk =>
    cases hok
    rw [← keep_withId hk]
    exact ⟨hx, ho, hk, rfl, rfl⟩

theorem le_now_push (ch : Channel) (h : Host) (key : String) (m : Message) :
    h.now ≤ (ch.push h key m).host.now := by
  obtain ⟨-, -, -, hkn⟩ := keep_frame ch h key m
  have hp := push_pushed ch h key m
  generalize ch.push h key m = out at hp
  cases hp with
  | refused hc hn => exact hn
  | accepted => exact hkn

/-- An accepted push counts as seen by exactly the connections that it reaches. -/
theorem push_attached (hok : (ch.push h key m).result = .ok id) (c : ConnId) :
    (ch.push h key m).channel.attached.get? c = (ch.attached.get? c).map fun a =>
      if ch.reaches h id c then { a with lastId := id } else a := by
  obtain ⟨ha, -, hc, -⟩ := keep_frame ch h key m
  have hp := push_pushed ch h key m
  generalize ch.push h key m = out at hp hok
  cases hp with
  | refused => cases hok
  | @accepted k f hx ho hk =>
    cases hok
    have hf := fanOut_attached (ch.keep h key m).channel (ch.keep h key m).host k.push c
    rw [reaches_congr ha hc, ha] at hf
    exact hf

/-- An accepted push is written to exactly the connections that it reaches. -/
theorem push_waiting (hok : (ch.push h key m).result = .ok id) (c : ConnId) :
    (ch.push h key m).host.waiting c =
      h.waiting c ++ if ch.reaches h id c then [(m.withId id).push] else [] := by
  obtain ⟨ha, -, hc, -⟩ := keep_frame ch h key m
  have hp := push_pushed ch h key m
  generalize ch.push h key m = out at hp hok
  cases hp with
  | refused => cases hok
  | @accepted k f hx ho hk =>
    cases hok
    rw [← keep_withId hk]
    have hf := fanOut_waiting (ch.keep h key m).channel (ch.keep h key m).host k.push c
    rw [reaches_congr ha hc, Host.waiting_congr hc] at hf
    exact hf

/-! ## Catching up -/

/-- A backlog `b` has been written out of the retained `messages`, from where the connection stands. -/
structure Replay (ch : Channel) (h : Host) (c : ConnId) (since : Int) (messages : MessageLog)
    (b : Backlog) (ws : List Message) (out : Outcome Nat) : Prop where
  opened : ch.closed = false
  source : ∃ bound, ch.retention = .log messages bound ∧
    out.channel.retention = .log (messages.remove fun m => b.expired.contains m.id) bound
  wrote : ∃ conn, h.conns.get? c = some conn ∧
    Wrote h.now (messages.after (ch.replayStart c since)) conn (ch.replayStart c since) b ws
  result : out.result = match b.failure with
    | none => .ok b.sent
    | some e => .error (.write e)
  closed : out.channel.closed = ch.closed
  attached : ∀ c', out.channel.attached.get? c' =
    if c' = c then (ch.attached.get? c).map fun a =>
      ⟨max a.lastId b.last, a.awaitingReplay && b.failure.isSome⟩
    else ch.attached.get? c'
  waiting : ∀ c', out.host.waiting c' = h.waiting c' ++ if c' = c then ws.map Message.push else []
  now : out.host.now = h.now

/-- A replay that is refused, or has nothing to do, changes nothing. -/
inductive Replayed (ch : Channel) (h : Host) (c : ConnId) (since : Int) : Outcome Nat → Prop
  | quiet {r : Except ChannelError Nat} (hq : ch.retention = .store ∨ ∃ e, r = .error e) :
      Replayed ch h c since ⟨r, ch, h⟩
  | tried {messages : MessageLog} {b : Backlog} {ws : List Message} {out : Outcome Nat}
      (ht : Replay ch h c since messages b ws out) : Replayed ch h c since out

theorem waiting_wrote {b : Backlog} {ws ms : List Message} {last now : Int} {conn : Connection Push}
    (hc : h.conns.get? c = some conn) (hw : Wrote now ms conn last b ws) (c' : ConnId) :
    (h.updateConn c fun _ => b.conn).waiting c' =
      h.waiting c' ++ if c' = c then ws.map Message.push else [] := by
  rw [Host.waiting_updateConn]
  by_cases e : c' = c
  · subst e
    simp [hc, hw.waiting, Host.waiting_of_get? hc]
  · simp [e]

theorem replay_replayed (ch : Channel) (h : Host) (c : ConnId) (since : Int) :
    Replayed ch h c since (ch.replay h c since) := by
  cases hr : ch.retention with
  | store =>
    simp only [replay, hr]
    exact .quiet (Or.inl hr)
  | log messages max =>
    cases ho : ch.closed with
    | true =>
      simp only [replay, hr, ho, if_true]
      exact .quiet (Or.inr ⟨_, rfl⟩)
    | false =>
      cases hc : h.conns.get? c with
      | none =>
        simp only [replay, hr, ho, hc, Bool.false_eq_true, if_false]
        exact .quiet (Or.inr ⟨_, rfl⟩)
      | some conn =>
        obtain ⟨ws, hw⟩ := writeBacklog_wrote h.now (messages.after (ch.replayStart c since)) conn
          (ch.replayStart c since)
        have hwait := waiting_wrote hc hw
        simp only [replay, hr, ho, hc, Bool.false_eq_true, if_false]
        generalize writeBacklog h.now (messages.after (ch.replayStart c since)) conn
          (ch.replayStart c since) = b at hw hwait
        cases hf : b.failure with
        | some e =>
          refine .tried ⟨ho, ⟨max, hr, rfl⟩, ⟨conn, hc, hw⟩, by simp only [hf], ho.symm, fun c' => ?_,
            hwait, rfl⟩
          simp only [advance, Table.get?_modify, hf]
          by_cases e : c' = c
          · subst e
            simp
          · simp [e]
        | none =>
          refine .tried ⟨ho, ⟨max, hr, rfl⟩, ⟨conn, hc, hw⟩, by simp only [hf], ho.symm, fun c' => ?_,
            hwait, rfl⟩
          simp only [advance, finishReplay, Table.get?_modify, hf]
          by_cases e : c' = c
          · subst e
            cases ch.attached.get? c' <;> simp
          · simp [e]

/-! ## Attaching -/

/-- A backlog `b` has been written out of the messages `ms` that the store has for the connection.  If
that failed, the connection is let go again. -/
structure Feed (ch : Channel) (h : Host) (key : String) (c : ConnId) (lastId : Int)
    (ms : List Message) (b : Backlog) (ws : List Message) (out : Outcome Unit) : Prop where
  source : ch.retention = .store ∧ (h.history key lastId).1 = .ok ms
  wrote : ∃ conn, h.conns.get? c = some conn ∧ Wrote h.now ms conn lastId b ws
  result : out.result = match b.failure with
    | none => .ok ()
    | some e => .error (.write e)
  retention : out.channel.retention = ch.retention
  closed : out.channel.closed = ch.closed
  attached : ∀ c', out.channel.attached.get? c' =
    if c' = c then (if b.failure = none then some ⟨b.last, false⟩ else none)
    else ch.attached.get? c'
  waiting : ∀ c', out.host.waiting c' = h.waiting c' ++ if c' = c then ws.map Message.push else []
  now : out.host.now = h.now
  store : out.host.store = (h.history key lastId).2.store

/-- A connection is refused, or is taken up: by a channel that retains messages without them, by one
that persists them with those in the store. -/
inductive Taken (ch : Channel) (h : Host) (key : String) (c : ConnId) (lastId : Int) :
    Outcome Unit → Prop
  | refused {e : ChannelError} {h' : Host} (hh : h' = h ∨ h' = (h.history key lastId).2) :
      Taken ch h key c lastId ⟨.error e, ch, h'⟩
  | joined {messages : MessageLog} {max : Nat} (hr : ch.retention = .log messages max)
      (ho : ch.closed = false) :
      Taken ch h key c lastId ⟨.ok (), { ch with attached := ch.attached.insert c ⟨lastId, true⟩ }, h⟩
  | fed {ms ws : List Message} {b : Backlog} {out : Outcome Unit}
      (hf : Feed ch h key c lastId ms b ws out) : Taken ch h key c lastId out

/-- Being refused is not noticed on any queue. -/
theorem conns_of_refused {h' : Host} {lastId : Int}
    (hh : h' = h ∨ h' = (h.history key lastId).2) : h'.conns = h.conns := by
  rcases hh with rfl | rfl
  · rfl
  · exact Host.history_conns h key lastId

/-- A channel that persists its messages writes what the store has to a connection it takes up. -/
theorem attach_store_eq {lastId : Int} (ho : ch.closed = false) (hf : ch.isFull c = false)
    (hr : ch.retention = .store) :
    ch.attach h key c lastId = match (h.history key lastId).1 with
      | .error e => ⟨.error (.store e), ch, (h.history key lastId).2⟩
      | .ok ms => match h.conns.get? c with
        | none => ⟨.error (.write .closed), ch, (h.history key lastId).2⟩
        | some conn =>
          let b := writeBacklog h.now ms conn lastId
          let h := (h.history key lastId).2.updateConn c fun _ => b.conn
          match b.failure with
          | some e => ⟨.error (.write e), { ch with attached := ch.attached.erase c }, h⟩
          | none => ⟨.ok (), { ch with attached := ch.attached.insert c ⟨b.last, false⟩ },
              h.count fun n => { n with replayed := n.replayed + b.sent }⟩ := by
  have hconns := Host.history_conns h key lastId
  have hnow : (h.history key lastId).2.now = h.now := rfl
  simp only [attach, ho, hf, hr, Bool.false_eq_true, if_false]
  rw [← hconns, ← hnow]
  rcases h.history key lastId with ⟨_ | ms, h'⟩ <;> rfl

theorem attach_taken (ch : Channel) (h : Host) (key : String) (c : ConnId) (lastId : Int) :
    Taken ch h key c lastId (ch.attach h key c lastId) := by
  cases ho : ch.closed with
  | true =>
    simp only [attach, ho, if_true]
    exact .refused (Or.inl rfl)
  | false =>
    cases hf : ch.isFull c with
    | true =>
      simp only [attach, ho, hf, Bool.false_eq_true, if_false, if_true]
      exact .refused (Or.inl rfl)
    | false =>
      cases hr : ch.retention with
      | log messages max =>
        simp only [attach, ho, hf, hr, Bool.false_eq_true, if_false]
        have hj : Taken ch h key c lastId _ := .joined hr ho
        simpa only [hr, ho] using hj
      | store =>
        rw [attach_store_eq ho hf hr]
        split
        · exact .refused (Or.inr rfl)
        · next ms hh =>
          split
          · exact .refused (Or.inr rfl)
          · next conn hc =>
            obtain ⟨ws, hw⟩ := writeBacklog_wrote h.now ms conn lastId
            have hwait := waiting_wrote (h := (h.history key lastId).2) hc hw
            simp only
            generalize writeBacklog h.now ms conn lastId = b at hw hwait
            split
            · next e hfl =>
              refine .fed ⟨⟨hr, hh⟩, ⟨conn, hc, hw⟩, by simp only [hfl], rfl, rfl, fun c' => ?_, hwait,
                rfl, rfl⟩
              simp [Table.get?_erase, hfl]
            · next hfl =>
              refine .fed ⟨⟨hr, hh⟩, ⟨conn, hc, hw⟩, by simp only [hfl], rfl, rfl, fun c' => ?_, hwait,
                rfl, rfl⟩
              simp [Table.get?_insert, hfl]

/-! ## Letting go -/

theorem detach_attached (ch : Channel) (c c' : ConnId) :
    (ch.detach c).attached.get? c' = if c' = c then none else ch.attached.get? c' :=
  Table.get?_erase _ _ _

theorem close_attached (ch : Channel) (h : Host) (c : ConnId) :
    (ch.close h).1.attached.get? c = none := rfl

theorem close_waiting (ch : Channel) (h : Host) (c : ConnId) :
    (ch.close h).2.waiting c = h.waiting c := by
  unfold Host.waiting close
  simp only [Table.get?_mapValues, Option.map_map]
  congr 2
  funext conn
  simp only [Function.comp_apply]
  split <;> rfl

/-! ## What is retained -/

/-- Whether the channel retains messages itself. -/
def retains (ch : Channel) : Bool :=
  match ch.retention with
  | .log .. => true
  | .store => false

theorem retains_congr {ch' : Channel} (hr : ch'.retention = ch.retention) :
    ch'.retains = ch.retains := by
  unfold retains
  rw [hr]

theorem retained_congr {ch' : Channel} (hr : ch'.retention = ch.retention) :
    ch'.retained = ch.retained := by
  unfold retained
  rw [hr]

theorem retained_log {messages : MessageLog} {bound : Nat} (hr : ch.retention = .log messages bound) :
    ch.retained = messages.entries := by
  simp only [retained, hr]

/-- A push adds at most its own message to what is retained. -/
theorem push_retains (ch : Channel) (h : Host) (key : String) (m : Message) :
    (ch.push h key m).channel.retains = ch.retains ∧
      ∀ a ∈ (ch.push h key m).channel.retained, a ∈ ch.retained ∨
        ∃ id, (ch.push h key m).result = .ok id ∧ a = m.withId id := by
  cases hres : (ch.push h key m).result with
  | error e =>
    rw [(push_error hres).1]
    exact ⟨rfl, fun a ha => Or.inl ha⟩
  | ok id =>
    obtain ⟨-, -, hok, hret, -⟩ := push_ok hres
    rw [retains_congr hret, retained_congr hret]
    have hk := keep_kept ch h key m
    generalize ch.keep h key m = out at hk hok
    cases hk with
    | refused => cases hok
    | undrawn => cases hok
    | unsaved => cases hok
    | passed => exact ⟨rfl, fun a ha => Or.inl ha⟩
    | saved => exact ⟨rfl, fun a ha => Or.inl ha⟩
    | retained hr hi =>
      have hm := Except.ok.inj hok
      refine ⟨by simp only [retains, hr], fun a ha => ?_⟩
      rw [retained_log rfl] at ha
      rw [retained_log hr]
      rcases MessageLog.mem_of_insertBounded hi ha with rfl | ha
      · exact Or.inr ⟨id, rfl, hm⟩
      · exact Or.inl ha

theorem replay_retains (ch : Channel) (h : Host) (c : ConnId) (since : Int) :
    (ch.replay h c since).channel.retains = ch.retains ∧
      ∀ a ∈ (ch.replay h c since).channel.retained, a ∈ ch.retained := by
  have hp := replay_replayed ch h c since
  generalize ch.replay h c since = out at hp
  cases hp with
  | quiet => exact ⟨rfl, fun a ha => ha⟩
  | tried ht =>
    obtain ⟨bound, hr, retention⟩ := ht.source
    refine ⟨by simp only [retains, hr, retention], fun a ha => ?_⟩
    rw [retained_log retention, MessageLog.mem_remove] at ha
    rw [retained_log hr]
    exact ha.1

theorem attach_retention (ch : Channel) (h : Host) (key : String) (c : ConnId) (lastId : Int) :
    (ch.attach h key c lastId).channel.retention = ch.retention := by
  have hp := attach_taken ch h key c lastId
  generalize ch.attach h key c lastId = out at hp
  cases hp with
  | refused => rfl
  | joined => rfl
  | fed hf => exact hf.retention

theorem close_retains (ch : Channel) (h : Host) :
    (ch.close h).1.retains = ch.retains ∧ (ch.close h).1.retained = [] := by
  unfold retains retained close
  cases ch.retention <;> exact ⟨rfl, rfl⟩

end Channel

end PushRelay
