import PushRelay.Proofs.Ids.Sign
import PushRelay.Proofs.Node.Push

/-!
# Ids that nodes assign

A message that comes without an id gets one from the node or, if that persists messages for subscribers,
from its channel.  Whichever it is, the id is one of the node's worker for the time of the answer
(`madeAt_of_pushed`).  So a subscriber who has seen nothing yet gets the message, and another request may
name the id, as long as the clock shows a date that ids have room for.

    0 < id ↔ Dated ms ∧ id ≠ 0                                              (assigned_pos_iff_dated)
    (n'.administer (.push { r with id })).1 = .error .negativeId ↔ ¬ Dated ms

Before 2014, and after 2083 for some time, nodes assign negative ids (`assigned_id_negative`).
-/

namespace PushRelay

/-! ## Which steps draw ids -/

/-- From `h` to `h'` at most one id has been drawn. -/
def Host.DrawsOnce (h h' : Host) : Prop := h'.ids = h.ids ∨ h'.ids = h.drawId.2.ids

namespace Channel

variable {ch : Channel} {h : Host} {key : String} {m : Message} {id : Int}

theorem keep_drawsOnce (ch : Channel) (h : Host) (key : String) (m : Message) :
    h.DrawsOnce (ch.keep h key m).host := by
  have hk := keep_kept ch h key m
  generalize ch.keep h key m = out at hk
  cases hk with
  | refused => exact Or.inl rfl
  | retained => exact Or.inl rfl
  | passed => exact Or.inl rfl
  | undrawn => exact Or.inr rfl
  | unsaved => exact Or.inr rfl
  | saved => exact Or.inr rfl

theorem push_drawsOnce (ch : Channel) (h : Host) (key : String) (m : Message) :
    h.DrawsOnce (ch.push h key m).host := by
  have hkeep := keep_drawsOnce ch h key m
  have hp := push_pushed ch h key m
  generalize ch.push h key m = out at hp
  cases hp with
  | refused _ _ hk =>
    rcases hk with rfl | ⟨rfl, -⟩
    · exact Or.inl rfl
    · exact hkeep
  | accepted => exact hkeep

theorem replay_ids (ch : Channel) (h : Host) (c : ConnId) (since : Int) :
    (ch.replay h c since).host.ids = h.ids := by
  unfold replay
  split
  · rfl
  · split
    · rfl
    · split
      · rfl
      · simp only
        split <;> rfl

theorem attach_ids (ch : Channel) (h : Host) (key : String) (c : ConnId) (lastId : Int) :
    (ch.attach h key c lastId).host.ids = h.ids := by
  cases ho : ch.closed with
  | true => rw [attach_refused ho]
  | false =>
    cases hf : ch.isFull c with
    | true => simp only [attach, ho, hf, Bool.false_eq_true, if_false, if_true]
    | false =>
      cases hr : ch.retention with
      | log => simp only [attach, ho, hf, hr, Bool.false_eq_true, if_false]
      | store =>
        rw [attach_store_eq ho hf hr]
        split
        · rfl
        · split
          · rfl
          · simp only
            split <;> rfl

theorem act_drawsOnce (ch : Channel) (h : Host) (call : ChannelCall) :
    h.DrawsOnce (call.act ch h).2 := by
  cases call with
  | push key m => exact push_drawsOnce ch h key m
  | attach key c lastId => exact Or.inl (attach_ids ch h key c lastId)
  | replay c since => exact Or.inl (replay_ids ch h c since)
  | _ => exact Or.inl rfl

/-- A message goes out under the id it comes with, at once, or under one that is drawn for it. -/
theorem push_ok_id (hok : (ch.push h key m).result = .ok id) :
    (id = m.id ∧ (ch.push h key m).host.now = h.now) ∨
      (h.drawId.1 = .ok id ∧ (ch.push h key m).host.now = h.drawId.2.now) := by
  have hp := push_pushed ch h key m
  generalize ch.push h key m = out at hp hok
  cases hp with
  | refused => cases hok
  | @accepted k f hx ho hk =>
    cases hok
    show (k.id = m.id ∧ (ch.keep h key m).host.now = h.now) ∨
      (h.drawId.1 = .ok k.id ∧ (ch.keep h key m).host.now = h.drawId.2.now)
    have hkept := keep_kept ch h key m
    generalize ch.keep h key m = out at hk hkept
    cases hkept with
    | refused => cases hk
    | undrawn => cases hk
    | unsaved => cases hk
    | retained =>
      cases hk
      exact Or.inl ⟨rfl, rfl⟩
    | passed =>
      cases hk
      exact Or.inl ⟨rfl, rfl⟩
    | saved _ _ hd =>
      cases hk
      exact Or.inr ⟨hd, rfl⟩

end Channel

namespace Hub

variable {h : Hub} {worker : Int}

theorem closeChannels_ids (h : Hub) (ids : List ChannelId) :
    (h.closeChannels ids).host.ids = h.host.ids := by
  induction ids generalizing h with
  | nil => rfl
  | cons id ids ih =>
    refine (ih (h.closeChannel id)).trans ?_
    unfold closeChannel
    split <;> rfl

theorem step_drawsOnce (h : Hub) (e : HubEvent) : h.host.DrawsOnce (h.step e).host := by
  cases e with
  | getOrCreate key => exact Or.inl (congrArg Host.ids (getOrCreate_host h key))
  | lookup key => exact Or.inl (lookup_host h key).2.1
  | close key =>
    simp only [step, close]
    split
    · exact Or.inl rfl
    · exact Or.inl (closeChannels_ids _ [_])
  | closeAll => exact Or.inl (closeChannels_ids _ _)
  | migrate hash self nodes vnodes =>
    by_cases hs : self ∈ nodes
    · obtain ⟨f, hm⟩ := migrate_ok (h := h) hs hash vnodes
      rw [step, hm]
      exact Or.inl (closeChannels_ids _ _)
    · rw [step, migrate_refused hs]
      exact Or.inl rfl
  | call id call =>
    rw [step, call_host]
    cases h.channels.get? id with
    | none => exact Or.inl rfl
    | some ch => exact Channel.act_drawsOnce ch h.host call
  | host e =>
    cases e with
    | draw => exact Or.inr rfl
    | _ => exact Or.inl rfl

theorem worksFor_run (hw : h.host.ids.WorksFor worker) (es : List HubEvent) :
    (h.run es).host.ids.WorksFor worker := by
  induction es generalizing h with
  | nil => exact hw
  | cons e es ih =>
    refine ih ?_
    rcases step_drawsOnce h e with he | he
    · rw [he]
      exact hw
    · rw [he]
      exact (Host.worksFor_drawId hw).1

end Hub

namespace Node

variable {n : Node} {id : Int} {r : PushRequest}

theorem made_worksFor {hash : String → UInt32} {config : Config} {store : Option Store} {now : Int}
    (made : withStore hash config store now = .ok n) : n.hub.host.ids.WorksFor config.workerId := by
  obtain ⟨ids, hub, hids, hhub, -, rfl⟩ := withStore_ok made
  obtain ⟨registry, -, rfl⟩ := Hub.new_ok hhub
  exact IdSource.worksFor_snowflake? hids

/-- A node that has come about gives out ids of its worker by the time of day. -/
theorem Reachable.worksFor (hn : n.Reachable) : n.hub.host.ids.WorksFor n.config.workerId := by
  obtain ⟨hash, store, now, made, es, hmade, hes⟩ := hn
  rw [hes]
  exact Hub.worksFor_run (made_worksFor hmade) es

/-! ## Requests -/

theorem assignId_negativeId_iff (n : Node) (requested : Int) :
    (n.assignId requested).1 = .error .negativeId ↔ requested < 0 := by
  unfold assignId
  split
  · next hzero =>
    refine iff_of_false ?_ (by omega)
    split <;> exact nofun
  · split
    · next hneg => exact iff_of_true rfl hneg
    · next hneg => exact iff_of_false nofun hneg

/-- A channel finds no fault with an id for being negative. -/
theorem pushTo_ne_negativeId (n : Node) (key : String) (m : Message) :
    (n.pushTo key m).1 ≠ .error .negativeId := by
  show ((n.channelForPush key).2.push (n.channelForPush key).1 key m).1.mapError AdminError.channel ≠ _
  cases ((n.channelForPush key).2.push (n.channelForPush key).1 key m).1 <;> exact nofun

/-- A request is refused for its id exactly if it names a key and a negative id. -/
theorem administer_negativeId_iff (n : Node) (r : PushRequest) :
    (n.administer (.push r)).1 = .error .negativeId ↔ r.key.isEmpty = false ∧ r.id < 0 := by
  have hassign := n.assignId_negativeId_iff r.id
  simp only [administer, adminPush]
  cases r.key.isEmpty with
  | true => simp
  | false =>
    rw [← hassign]
    rcases n.assignId r.id with ⟨e | id, n'⟩
    · simp only [Bool.false_eq_true, if_false, true_and, Except.error.injEq]
    · simp only [Bool.false_eq_true, if_false, true_and, reduceCtorEq, iff_false]
      unfold buildMessage
      split
      · next hbuild =>
        split at hbuild
        · cases hbuild
          simp
        · cases hbuild
      · next m _ =>
        have hpush := n'.pushTo_ne_negativeId r.key m
        rcases hp : n'.pushTo r.key m with ⟨e | _, _⟩
        · rw [hp] at hpush
          simpa [Except.map] using hpush
        · simp [Except.map]

theorem ok_of_map_pushed {out : Except AdminError Int}
    (h : out.map AdminAnswer.pushed = .ok (.pushed id)) : out = .ok id := by
  cases out with
  | error e => cases h
  | ok id' =>
    cases h
    rfl

/-- A request without an id that is answered well: the node draws an id, and takes the message to the key
under that. -/
theorem administer_unnumbered (hzero : r.id = 0)
    (hok : (n.administer (.push r)).1 = .ok (.pushed id)) :
    ∃ assigned, n.hub.host.drawId.1 = .ok assigned ∧
      (n.drawId.2.pushTo r.key ((n.drawId.2.pushMessage r).withId assigned)).1 = .ok id ∧
      (n.administer (.push r)).2 =
        (n.drawId.2.pushTo r.key ((n.drawId.2.pushMessage r).withId assigned)).2 := by
  have hdraw : n.drawId = (n.hub.host.drawId.1, n.drawId.2) := rfl
  simp only [administer, adminPush, assignId, if_pos hzero] at hok ⊢
  rw [hdraw] at hok ⊢
  split at hok
  · cases hok
  · next hkey =>
    rw [if_neg hkey]
    cases hd : n.hub.host.drawId.1 with
    | error e =>
      rw [hd] at hok
      cases hok
    | ok assigned =>
      rw [hd] at hok
      refine ⟨assigned, rfl, ?_⟩
      by_cases hsecs : r.expireSecs = 0
      · simp only [buildMessage, if_pos hsecs] at hok
        cases hok
      · simp only [buildMessage, if_neg hsecs] at hok ⊢
        exact ⟨ok_of_map_pushed hok, rfl⟩

section Unnumbered

variable (hn : n.Reachable) (hzero : r.id = 0)
  (hok : (n.administer (.push r)).1 = .ok (.pushed id))
include hn hzero hok

/-- The message of a request without an id is pushed to a channel, with what the host has for it once an
id has been drawn. -/
theorem pushed_unnumbered :
    ∃ assigned channel ch hub, n.hub.host.drawId.1 = .ok assigned ∧
      Hub.Handover n.drawId.2.hub r.key channel ch hub ∧ hub.host.now = n.hub.host.drawId.2.now ∧
      hub.host.ids = n.hub.host.drawId.2.ids ∧
      (ch.push hub.host r.key ((n.drawId.2.pushMessage r).withId assigned)).result = .ok id ∧
      (n.administer (.push r)).2.hub.host =
        (ch.push hub.host r.key ((n.drawId.2.pushMessage r).withId assigned)).host := by
  obtain ⟨assigned, hd, hpush, hafter⟩ := administer_unnumbered hzero hok
  have hs : n.drawId.2.hub.Steady := (hn.through [.host .draw]).hub.regular.steady
  obtain ⟨ch, hh⟩ := channelForPush_handover hs r.key
  obtain ⟨hnow, hids, -⟩ := n.drawId.2.opened_host r.key
  rw [pushTo_result (hs.handed_handover hh).serves.2] at hpush
  refine ⟨assigned, _, ch, _, hd, hh, hnow, hids, ?_, ?_⟩
  · revert hpush
    cases (ch.push (n.drawId.2.opened r.key).hub.host r.key _).result with
    | error e => exact nofun
    | ok id' => exact fun hpush => congrArg Except.ok (Except.ok.inj hpush)
  · rw [hafter]
    exact hh.host_push hs

/-- The id under which the message of a request goes out is one of the node's worker for the time of the
answer. -/
theorem madeAt_of_pushed :
    Snowflake.MadeAt n.config.workerId ((n.administer (.push r)).2.hub.host.now / milliNanos) id := by
  obtain ⟨assigned, channel, ch, hub, hd, -, hnow, hids, hpush, hhost⟩ := pushed_unnumbered hn hzero hok
  obtain ⟨hworks, hmade⟩ := Host.worksFor_drawId hn.worksFor
  rw [hhost]
  rcases Channel.push_ok_id hpush with ⟨rfl, hsame⟩ | ⟨hagain, hthen⟩
  · rw [hsame, hnow]
    exact hmade _ hd
  · rw [hthen]
    rw [← hids] at hworks
    exact (Host.worksFor_drawId hworks).2 _ hagain

/-- A subscriber who has seen nothing yet, on the channel that the message goes to, gets it if the id is
positive. -/
theorem waiting_of_pushed {channel : ChannelId} {ch : Channel} {c : ConnId}
    (hk : n.hub.Serves r.key channel ch)
    (ht : (n.administer (.push r)).2.hub.host.now < ch.deadline)
    (hc : ch.attached.get? c = some ⟨0, false⟩) (hroom : n.hub.host.hasRoom c = true) :
    (n.administer (.push r)).2.hub.host.waiting c = n.hub.host.waiting c ++
      if 0 < id then [⟨Utf8.ofString r.body, id, r.group.code⟩] else [] := by
  obtain ⟨assigned, channel', ch', hub, hd, hh, hnow, -, hpush, hhost⟩ := pushed_unnumbered hn hzero hok
  have hlive : n.drawId.2.hub.host.now < ch.deadline := by
    refine Int.lt_of_le_of_lt ?_ ht
    rw [hhost]
    exact Int.le_trans (Int.le_of_eq hnow.symm) (Channel.le_now_push ch' hub.host r.key _)
  obtain ⟨rfl, rfl, rfl⟩ := hh.live hk hlive
  have hreach : (ch.setDeadline n.drawId.2.hub.freshDeadline).reaches
      (n.drawId.2.hub.refresh channel').host id c = true ↔ 0 < id := by
    rw [Channel.reaches_iff]
    constructor
    · rintro ⟨a, ha, -, hlast, -⟩
      cases hc.symm.trans ha
      exact hlast
    · exact fun hpos => ⟨_, hc, rfl, hpos, hroom⟩
  rw [hhost, Channel.push_waiting hpush]
  simp only [hreach]
  rfl

end Unnumbered

/-- Of the ids of a generator those at dated readings are positive, and the others are negative, but for one
that is zero: the first id of the worker 0 at a reading that begins a span of dates.  The same holds of the
ids under which a node of the worker pushes the messages of requests that name none, by the time of the
answer.  A request may name such an id unless it is negative.  A subscriber who has seen nothing yet, on the
channel that the message goes to, gets the message if its id is positive, and does not otherwise. -/
theorem assigned_pos_iff_dated {worker : Int} {g : Snowflake} (hnew : Snowflake.new? worker = .ok g) :
    (∀ rs pre e post, (∀ t ∈ rs, Snowflake.Readable t) →
      issued Snowflake.next g rs = pre ++ e :: post →
        (0 < e.2 ↔ Snowflake.Dated e.1 ∧
          ¬ (Snowflake.Outset e.1 ∧ worker = 0 ∧ e.1 ∉ pre.map Prod.fst)) ∧
        (e.2 < 0 ↔ ¬ Snowflake.Dated e.1)) ∧
    ∀ (n : Node) (r : PushRequest) id, n.Reachable → n.config.workerId = worker → r.id = 0 →
      (n.administer (.push r)).1 = .ok (.pushed id) →
      let after := (n.administer (.push r)).2
      let ms := after.hub.host.now / milliNanos
      Snowflake.Readable ms →
        (0 < id ↔ Snowflake.Dated ms ∧ id ≠ 0) ∧ (id < 0 ↔ ¬ Snowflake.Dated ms) ∧
        (id = 0 → Snowflake.Outset ms ∧ worker = 0) ∧
        (∀ n' : Node, (n'.administer (.push { r with id })).1 = .error .negativeId ↔ id < 0) ∧
        ∀ channel ch c, n.hub.Serves r.key channel ch → after.hub.host.now < ch.deadline →
          ch.attached.get? c = some ⟨0, false⟩ → n.hub.host.hasRoom c = true →
            after.hub.host.waiting c = n.hub.host.waiting c ++
              if 0 < id then [⟨Utf8.ofString r.body, id, r.group.code⟩] else [] := by
  constructor
  · intro rs pre e post hread hsplit
    obtain ⟨hneg, hzero⟩ := Snowflake.sign_of_issued hnew hread hsplit
    refine ⟨?_, hneg⟩
    rw [← hzero, ← not_iff_comm.1 hneg.symm]
    omega
  · intro n r id hn hworker hzero hok after ms hread
    have hmade := madeAt_of_pushed hn hzero hok
    rw [hworker] at hmade
    have hneg := hmade.neg_iff hread
    have named : r.key.isEmpty = false := by
      cases hkey : r.key.isEmpty with
      | false => rfl
      | true =>
        simp only [administer, adminPush, hkey, if_true] at hok
        cases hok
    refine ⟨?_, hneg, hmade.outset_of_eq_zero hread, fun n' => ?_, fun channel ch c => ?_⟩
    · rw [← not_iff_comm.1 hneg.symm]
      omega
    · rw [administer_negativeId_iff]
      exact ⟨And.right, fun hid => ⟨named, hid⟩⟩
    · exact waiting_of_pushed hn hzero hok

/-- A node with a subscriber to "a" who has seen nothing yet, on a clock that has not been set. -/
def unsetNode : Node := attendedNode.through [.host (.clock 0)]

/-- A message to "a" that comes without an id. -/
def unnumberedPush : PushRequest := ⟨"a", "x", 1, 0, .personal⟩

theorem reachable_unsetNode : unsetNode.Reachable :=
  ((reachable_of_made made_newNode).through _).through _

/-- The id is negative, the subscriber does not get the message, and no request may name the id. -/
theorem assigned_pos_iff_dated_unset :
    ¬ 0 < Snowflake.compose 0 1 0 ∧
    (∀ n' : Node, (n'.administer (.push ⟨"a", "x", 1, Snowflake.compose 0 1 0, .personal⟩)).1 =
      .error .negativeId) ∧
    (unsetNode.administer (.push unnumberedPush)).2.hub.host.waiting 1 = [] := by
  obtain ⟨hrun, hpush⟩ := assigned_pos_iff_dated (rfl : Snowflake.new? 1 = .ok ⟨1, -1, 0⟩)
  obtain ⟨hpos, -⟩ := hrun [0] [] (0, Snowflake.compose 0 1 0) [] (by decide) rfl
  obtain ⟨-, hneg, -, hnamed, hwaiting⟩ := hpush unsetNode unnumberedPush (Snowflake.compose 0 1 0)
    reachable_unsetNode rfl rfl rfl (by decide)
  refine ⟨fun h => absurd (hpos.1 h).1 (by decide), fun n' => (hnamed n').2 (hneg.2 (by decide)), ?_⟩
  rw [hwaiting 0 _ 1 ⟨rfl, (Option.some_get rfl).symm⟩ (by decide) rfl rfl]
  rfl

/-- A valid worker, and a reading that the clock takes: yet the id is negative, and so is the one that a
node assigns then.  The subscriber does not get the message, and the id is refused when a request names
it. -/
theorem assigned_id_negative :
    (Snowflake.new? 1 = .ok ⟨1, -1, 0⟩ ∧ Snowflake.Readable 0 ∧
      (Snowflake.next ⟨1, -1, 0⟩ 0).1 = .ok (-5823935388057595904)) ∧
    unsetNode.Reachable ∧
    (unsetNode.administer (.push unnumberedPush)).1 = .ok (.pushed (-5823935388057595904)) ∧
    (unsetNode.administer (.push unnumberedPush)).2.hub.host.waiting 1 = [] ∧
    (unsetNode.administer (.push { unnumberedPush with id := -5823935388057595904 })).1 =
      .error .negativeId := by
  have hid : Snowflake.compose 0 1 0 = -5823935388057595904 := by decide
  rw [← hid]
  exact ⟨⟨rfl, by decide, rfl⟩, reachable_unsetNode, rfl, rfl, rfl⟩

end Node

end PushRelay
