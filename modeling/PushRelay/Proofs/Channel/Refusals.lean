import PushRelay.Proofs.Channel.Steps
import PushRelay.Proofs.Store

/-!
# Messages and connections that are refused

A message is refused because it or the channel is past, or because it cannot be kept for later
(`PushRefused`, `Unkept`).  Then nothing has come of it, but that drawing an id for it may have taken time.

    (ch.push h key m).result = .error e ↔ ch.PushRefused h key m e                      (push_error_iff)
    (ch.push h key m).result = .error e → (ch.push h key m).channel = ch          (refused_push_leaves_all)

A connection is refused for one of the causes in `AttachRefused`.  That changes nothing either, with one
exception: a connection that was attached before and is sent a backlog that does not get through to it
(`Unfed`) is let go.

    (ch.attach h key c lastId).result = .error e ↔ ch.AttachRefused h key c lastId e   (attach_error_iff)
    (ch.attach h key c lastId).result = .error e →
      ((ch.attach h key c lastId).channel = ch ↔
        ¬ (ch.attached.contains c = true ∧ Unfed h c e))                   (refused_attach_loses_own_only)
-/

namespace PushRelay

namespace MessageLog

/-- A message is put into a log unless the log has its id, whether or not there is room. -/
theorem insertBounded_error_iff {log : MessageLog} {m : Message} {bound : Nat} {e : StoreError} :
    log.insertBounded m bound = .error e ↔ e = .duplicate m.id ∧ ∃ a ∈ log.entries, a.id = m.id := by
  by_cases hold : ∃ a ∈ log.entries, a.id = m.id
  · rw [insertBounded_again bound hold, Except.error.injEq, and_iff_left hold]
    exact eq_comm
  · have hnew : log.contains m.id = false := contains_eq_false.2 fun a ha he => hold ⟨a, ha, he⟩
    rw [insertBounded, dif_pos hnew]
    simp only [hold, and_false, iff_false]
    intro hi
    split at hi <;> cases hi

end MessageLog

namespace Table

variable {K V : Type} [DecidableEq K] {t : Table K V} {k : K}

theorem erase_absent (hk : t.contains k = false) : t.erase k = t := by
  have hall : t.entries.filter (fun e => decide (e.1 ≠ k)) = t.entries := by
    refine List.filter_eq_self.2 fun e he => decide_eq_true ?_
    rintro rfl
    rw [contains, get?_eq_some.2 he] at hk
    cases hk
  simp only [erase, filter, hall]

theorem erase_eq_self_iff : t.erase k = t ↔ t.contains k = false := by
  refine ⟨fun he => ?_, erase_absent⟩
  rw [← he, contains, get?_erase, if_pos rfl]
  rfl

end Table

namespace Channel

variable {ch : Channel} {h : Host} {key : String} {m : Message} {c : ConnId} {lastId : Int}
  {e : ChannelError}

/-! ## Messages -/

/-- Why a message is not kept for later: its id is retained, or there is no new id for it, or it is not
saved under that. -/
inductive Unkept (ch : Channel) (h : Host) (key : String) (m : Message) : ChannelError → Prop
  | retained {messages : MessageLog} {bound : Nat} (hr : ch.retention = .log messages bound)
      (hold : ∃ a ∈ messages.entries, a.id = m.id) : Unkept ch h key m (.duplicateMessage m.id)
  | undrawn {e : IdError} (hr : ch.retention = .store) (hm : m.group = .personal)
      (hd : h.drawId.1 = .error e) : Unkept ch h key m (.noId e)
  | unsaved {id : Int} {e : StoreError} (hr : ch.retention = .store) (hm : m.group = .personal)
      (hd : h.drawId.1 = .ok id) (hs : (h.drawId.2.save key (m.withId id)).1 = .error e) :
      Unkept ch h key m (.store e)

/-- Why a message is refused, the first cause that there is. -/
inductive PushRefused (ch : Channel) (h : Host) (key : String) (m : Message) : ChannelError → Prop
  | expired (hx : m.isExpired h.now = true) : PushRefused ch h key m .messageExpired
  | closed (hx : m.isExpired h.now = false) (hc : ch.closed = true) : PushRefused ch h key m .closed
  | unkept {e : ChannelError} (hx : m.isExpired h.now = false) (ho : ch.closed = false)
      (hk : ch.Unkept h key m e) : PushRefused ch h key m e

theorem keep_log_error_iff {messages : MessageLog} {bound : Nat}
    (hr : ch.retention = .log messages bound) :
    (ch.keep h key m).result = .error e ↔
      e = .duplicateMessage m.id ∧ ∃ a ∈ messages.entries, a.id = m.id := by
  cases hi : messages.insertBounded m bound with
  | error cause =>
    obtain ⟨rfl, hold⟩ := MessageLog.insertBounded_error_iff.1 hi
    simp only [keep, hr, hi, Except.error.injEq, and_iff_left hold]
    exact eq_comm
  | ok out =>
    have hnew : ¬ ∃ a ∈ messages.entries, a.id = m.id := by
      intro hold
      rw [MessageLog.insertBounded_again bound hold] at hi
      cases hi
    simp only [keep, hr, hi, hnew, and_false, iff_false]
    intro hk
    cases hk

theorem keep_error_iff : (ch.keep h key m).result = .error e ↔ ch.Unkept h key m e := by
  cases hr : ch.retention with
  | log messages bound =>
    rw [keep_log_error_iff hr]
    constructor
    · rintro ⟨rfl, hold⟩
      exact .retained hr hold
    · intro hu
      cases hu with
      | retained hr' hold =>
        cases hr.symm.trans hr'
        exact ⟨rfl, hold⟩
      | undrawn hr' => cases hr.symm.trans hr'
      | unsaved hr' => cases hr.symm.trans hr'
  | store =>
    constructor
    · intro he
      have hk := keep_kept ch h key m
      generalize ch.keep h key m = out at hk he
      cases hk with
      | refused hr' => cases hr.symm.trans hr'
      | retained => cases he
      | passed => cases he
      | undrawn hr' hm hd =>
        cases he
        exact .undrawn hr' hm hd
      | unsaved hr' hm hd hs =>
        cases he
        exact .unsaved hr' hm hd hs
      | saved => cases he
    · intro hu
      cases hu with
      | retained hr' => cases hr.symm.trans hr'
      | undrawn _ hm hd => simp only [keep_store_personal hr hm, hd]
      | unsaved _ hm hd hs => simp only [keep_store_personal hr hm, hd, hs]

theorem push_error_iff : (ch.push h key m).result = .error e ↔ ch.PushRefused h key m e := by
  constructor
  · intro he
    simp only [push] at he
    split at he
    · next hx =>
      cases he
      exact .expired hx
    · next hx =>
      split at he
      · next hc =>
        cases he
        exact .closed (Bool.eq_false_iff.2 hx) hc
      · next hc =>
        split at he
        · next hk =>
          cases he
          exact .unkept (Bool.eq_false_iff.2 hx) (Bool.eq_false_iff.2 hc) (keep_error_iff.1 hk)
        · cases he
  · intro hp
    cases hp with
    | expired hx => simp only [push, hx, if_true]
    | closed hx hc => simp only [push, hx, hc, Bool.false_eq_true, if_false, if_true]
    | unkept hx ho hk =>
      have hk := keep_error_iff.2 hk
      simp only [push, hx, ho, hk, Bool.false_eq_true, if_false]

/-- Not keeping a message leaves everything on the host as it is but the time and the source of ids. -/
theorem keep_error_host (he : (ch.keep h key m).result = .error e) :
    (ch.keep h key m).host =
      { h with now := (ch.keep h key m).host.now, ids := (ch.keep h key m).host.ids } := by
  have hk := keep_kept ch h key m
  generalize ch.keep h key m = out at hk he
  cases hk with
  | refused => rfl
  | retained => cases he
  | passed => cases he
  | undrawn => rfl
  | @unsaved id _ _ _ _ hs =>
    have hstore : (h.drawId.2.save key (m.withId id)).2.store = h.store := Store.save_error hs
    exact congrArg (fun store => { h.drawId.2 with store }) hstore
  | saved => cases he

theorem push_error_host (he : (ch.push h key m).result = .error e) :
    (ch.push h key m).host =
      { h with now := (ch.push h key m).host.now, ids := (ch.push h key m).host.ids } := by
  have hp := push_pushed ch h key m
  generalize ch.push h key m = out at hp he
  cases hp with
  | accepted => cases he
  | refused _ _ hk =>
    rcases hk with rfl | ⟨rfl, hk⟩
    · rfl
    · exact keep_error_host hk

/-- A push is refused for the causes in `PushRefused` alone, and then leaves the channel and all of the
host as they are, but that drawing an id may have taken time.  A message that a channel retains already
is refused at once, however many others it retains; one for a subscriber of a channel that persists its
messages, whenever there is no id for it or it is not saved. -/
theorem refused_push_leaves_all (ch : Channel) (h : Host) (key : String) (m : Message) :
    (∀ e, (ch.push h key m).result = .error e ↔ ch.PushRefused h key m e) ∧
    (∀ e, (ch.push h key m).result = .error e → (ch.push h key m).channel = ch ∧
      (ch.push h key m).host =
        { h with now := (ch.push h key m).host.now, ids := (ch.push h key m).host.ids }) ∧
    (∀ messages bound, ch.retention = .log messages bound → m.isExpired h.now = false →
      ch.closed = false → (∃ a ∈ messages.entries, a.id = m.id) →
        ch.push h key m = ⟨.error (.duplicateMessage m.id), ch, h⟩) ∧
    (ch.retention = .store → m.group = .personal →
      ((∃ e, h.drawId.1 = .error e) ∨
        ∃ id e, h.drawId.1 = .ok id ∧ (h.drawId.2.save key (m.withId id)).1 = .error e) →
        ∃ e, (ch.push h key m).result = .error e) := by
  refine ⟨fun e => push_error_iff, fun e he => ⟨(push_error he).1, push_error_host he⟩, ?_, ?_⟩
  · intro messages bound hr hx ho hold
    have hi := MessageLog.insertBounded_again bound hold
    simp only [push, keep, hr, hi, hx, ho, Bool.false_eq_true, if_false]
  · intro hr hm hfail
    cases hx : m.isExpired h.now with
    | true => exact ⟨_, push_error_iff.2 (.expired hx)⟩
    | false =>
      cases ho : ch.closed with
      | true => exact ⟨_, push_error_iff.2 (.closed hx ho)⟩
      | false =>
        rcases hfail with ⟨e, hd⟩ | ⟨id, e, hd, hs⟩
        · exact ⟨_, push_error_iff.2 (.unkept hx ho (.undrawn hr hm hd))⟩
        · exact ⟨_, push_error_iff.2 (.unkept hx ho (.unsaved hr hm hd hs))⟩

/-- A channel that may retain one message and does refuses another with the same id.  A channel that
persists its messages refuses one when the clock has gone back, and one that the store does not take. -/
theorem refused_push_leaves_all_of_full :
    let m : Message := ⟨7, [], .personal, 9000000⟩
    let full : Channel := ⟨.log ⟨[m], List.pairwise_singleton _ _⟩ 1, .empty, none, false, 0, 1⟩
    let outer : Channel := ⟨.store, .empty, none, false, 0, 1⟩
    let behind := Host.new 4000000 ⟨.snowflake ⟨0, 5, 0⟩, .wall⟩ (.ofMemory .new)
    let down := Host.new 4000000 ⟨.snowflake ⟨0, 3, 0⟩, .wall⟩
      ⟨.memory .new, ⟨some (.unavailable "down"), none, none⟩⟩
    full.push behind "k" m = ⟨.error (.duplicateMessage 7), full, behind⟩ ∧
      (∃ e, (outer.push behind "k" m).result = .error e) ∧
      ∃ e, (outer.push down "k" m).result = .error e :=
  ⟨(refused_push_leaves_all _ _ _ _).2.2.1 _ _ rfl (by decide) rfl ⟨_, List.mem_singleton_self _, rfl⟩,
    (refused_push_leaves_all _ _ _ _).2.2.2 rfl rfl (.inl ⟨_, rfl⟩),
    (refused_push_leaves_all _ _ _ _).2.2.2 rfl rfl (.inr ⟨_, _, rfl, rfl⟩)⟩

/-! ## Connections -/

/-- Why a connection is refused, the first cause that there is. -/
inductive AttachRefused (ch : Channel) (h : Host) (key : String) (c : ConnId) (lastId : Int) :
    ChannelError → Prop
  | closed (hc : ch.closed = true) : AttachRefused ch h key c lastId .closed
  | full (ho : ch.closed = false) (hf : ch.isFull c = true) :
      AttachRefused ch h key c lastId (.maxConn ch.maxConns)
  | unread {e : StoreError} (ho : ch.closed = false) (hf : ch.isFull c = false)
      (hr : ch.retention = .store) (hh : (h.history key lastId).1 = .error e) :
      AttachRefused ch h key c lastId (.store e)
  | unknown {ms : List Message} (ho : ch.closed = false) (hf : ch.isFull c = false)
      (hr : ch.retention = .store) (hh : (h.history key lastId).1 = .ok ms)
      (hc : h.conns.get? c = none) : AttachRefused ch h key c lastId (.write .closed)
  | unwritten {ms : List Message} {conn : Connection Push} {e : WriteError} (ho : ch.closed = false)
      (hf : ch.isFull c = false) (hr : ch.retention = .store)
      (hh : (h.history key lastId).1 = .ok ms) (hc : h.conns.get? c = some conn)
      (hw : (writeBacklog h.now ms conn lastId).failure = some e) :
      AttachRefused ch h key c lastId (.write e)

theorem attach_error_iff :
    (ch.attach h key c lastId).result = .error e ↔ ch.AttachRefused h key c lastId e := by
  constructor
  · intro he
    cases ho : ch.closed with
    | true =>
      simp only [attach, ho, if_true] at he
      cases he
      exact .closed ho
    | false =>
      cases hf : ch.isFull c with
      | true =>
        simp only [attach, ho, hf, Bool.false_eq_true, if_false, if_true] at he
        cases he
        exact .full ho hf
      | false =>
        cases hr : ch.retention with
        | log =>
          simp only [attach, ho, hf, hr, Bool.false_eq_true, if_false] at he
          cases he
        | store =>
          rw [attach_store_eq ho hf hr] at he
          split at he
          · next hh =>
            cases he
            exact .unread ho hf hr hh
          · next ms hh =>
            split at he
            · next hc =>
              cases he
              exact .unknown ho hf hr hh hc
            · next conn hc =>
              simp only at he
              split at he
              · next hw =>
                cases he
                exact .unwritten ho hf hr hh hc hw
              · cases he
  · intro ha
    cases ha with
    | closed hc => simp only [attach, hc, if_true]
    | full ho hf => simp only [attach, ho, hf, Bool.false_eq_true, if_false, if_true]
    | unread ho hf hr hh => simp only [attach_store_eq ho hf hr, hh]
    | unknown ho hf hr hh hc => simp only [attach_store_eq ho hf hr, hh, hc]
    | unwritten ho hf hr hh hc hw => simp only [attach_store_eq ho hf hr, hh, hc, hw]

/-- A connection that there is has been refused because its backlog did not get through. -/
def Unfed (h : Host) (c : ConnId) (e : ChannelError) : Prop :=
  (∃ w, e = .write w) ∧ (h.conns.get? c).isSome = true

/-- A refusal leaves the channel as it is, unless it comes of the backlog: then the connection goes. -/
theorem attach_error_channel (he : (ch.attach h key c lastId).result = .error e) :
    (¬ Unfed h c e ∧ (ch.attach h key c lastId).channel = ch) ∨
      (Unfed h c e ∧ (ch.attach h key c lastId).channel = ch.detach c) := by
  unfold Unfed
  cases attach_error_iff.1 he with
  | closed hc => exact .inl ⟨by simp, by simp only [attach, hc, if_true]⟩
  | full ho hf => exact .inl ⟨by simp, by simp only [attach, ho, hf]; rfl⟩
  | unread ho hf hr hh => exact .inl ⟨by simp, by simp only [attach_store_eq ho hf hr, hh]⟩
  | unknown ho hf hr hh hc => exact .inl ⟨by simp [hc], by simp only [attach_store_eq ho hf hr, hh, hc]⟩
  | unwritten ho hf hr hh hc hw =>
    refine .inr ⟨⟨⟨_, rfl⟩, by rw [hc]; rfl⟩, ?_⟩
    simp only [attach_store_eq ho hf hr, hh, hc, hw, detach]

theorem detach_eq_self_iff : ch.detach c = ch ↔ ch.attached.contains c = false := by
  rw [← Table.erase_eq_self_iff]
  exact ⟨congrArg Channel.attached, fun he => congrArg (fun attached => { ch with attached }) he⟩

/-- A connection that is refused leaves the channel as it was, unless it was attached before and its
backlog did not get through.  Then it is attached no longer; every other connection still is, with the
same id and flag. -/
theorem refused_attach_loses_own_only (he : (ch.attach h key c lastId).result = .error e) :
    ch.AttachRefused h key c lastId e ∧
    ((ch.attach h key c lastId).channel = ch ↔ ¬ (ch.attached.contains c = true ∧ Unfed h c e)) ∧
    ((ch.attach h key c lastId).channel ≠ ch →
      (ch.attach h key c lastId).channel = ch.detach c) ∧
    ∀ c', c' ≠ c → (ch.attach h key c lastId).channel.attached.get? c' = ch.attached.get? c' := by
  refine ⟨attach_error_iff.1 he, ?_⟩
  rcases attach_error_channel he with ⟨hn, hch⟩ | ⟨hu, hch⟩
  · rw [hch]
    exact ⟨iff_of_true rfl fun ⟨_, hu⟩ => hn hu, fun hne => absurd rfl hne, fun _ _ => rfl⟩
  · rw [hch, detach_eq_self_iff, and_iff_left hu, Bool.not_eq_true]
    exact ⟨Iff.rfl, fun _ => rfl, fun c' hc' => (ch.detach_attached c c').trans (if_neg hc')⟩

/-- A channel with a connection that has room for one payload, and whose subscriber then has two messages
in the store. -/
def fed : Outcome Unit :=
  let (c, h) := (Host.new 0 .time (.ofMemory .new)).connect 1
  let out := (Channel.new ⟨.outer, 1, 1, none, 0⟩ 0).attach h "k" c 0
  let h := (out.host.save "k" ⟨1, [], .personal, 9⟩).2
  { out with host := (h.save "k" ⟨2, [], .personal, 9⟩).2 }

/-- The connection is attached for a second time. -/
theorem refused_attach_loses_own_only_again :
    (fed.channel.attach fed.host "k" 1 0).result = .error (.write .full) ∧
      (fed.channel.attach fed.host "k" 1 0).channel = fed.channel.detach 1 :=
  have he : (fed.channel.attach fed.host "k" 1 0).result = .error (.write .full) := rfl
  have hlost : fed.channel.attached.contains 1 = true ∧ Unfed fed.host 1 (.write .full) :=
    ⟨by decide, ⟨_, rfl⟩, by decide⟩
  have hrefused := refused_attach_loses_own_only he
  ⟨he, hrefused.2.2.1 fun hch => hrefused.2.1.1 hch hlost⟩

/-- Being refused is not without effect on a connection that is attached. -/
theorem refused_attach_detaches :
    fed.channel.attached.get? 1 = some ⟨0, false⟩ ∧
      (fed.channel.attach fed.host "k" 1 0).result = .error (.write .full) ∧
      (fed.channel.attach fed.host "k" 1 0).channel.attached.get? 1 = none :=
  ⟨rfl, rfl, rfl⟩

end Channel

end PushRelay
