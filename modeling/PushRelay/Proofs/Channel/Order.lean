import PushRelay.Proofs.Channel.Run

/-!
# Order of delivery

Whatever happens to a channel, a connection that is attached to it once is written messages in strictly
ascending order of their ids, and none at or below the id it was attached with.  Live pushes and
backlogs each look at the seat of the connection alone; `Ordered` relates the seat to everything that
was written.

    Ordered r c lastId → Move c r e r' → Ordered r' c lastId                           (Ordered.move)
-/

namespace PushRelay

namespace Relay

variable {r r' : Relay} {e : Event} {c : ConnId} {lastId : Int} {es : List Event}

/-- What was written to the connection ascends from `lastId` to its seat. -/
structure Ordered (r : Relay) (c : ConnId) (lastId : Int) : Prop where
  ascending : (r.written c).Pairwise fun p q => p.id < q.id
  above : ∀ p ∈ r.written c, lastId < p.id
  seat : ∀ a, r.seat c = some a → lastId ≤ a.lastId ∧ ∀ p ∈ r.written c, p.id ≤ a.lastId

/-- Appending an ascending run of ids behind everything that was written keeps the order. -/
theorem pairwise_append_above {l : List Push} {ws : List Message} {bound : Int}
    (hl : l.Pairwise fun p q => p.id < q.id) (hb : ∀ p ∈ l, p.id ≤ bound)
    (hws : ws.Pairwise fun a b => a.id < b.id) (ha : ∀ m ∈ ws, bound < m.id) :
    (l ++ ws.map Message.push).Pairwise fun p q => p.id < q.id := by
  rw [List.pairwise_append, List.pairwise_map]
  refine ⟨hl, hws, fun p hp q hq => ?_⟩
  obtain ⟨m, hm, rfl⟩ := List.mem_map.1 hq
  exact Int.lt_of_le_of_lt (hb p hp) (ha m hm)

/-- Writing messages above the seat, and moving the seat to or behind the last of them. -/
theorem Ordered.append {a : Attachment} {ws : List Message} {last : Int} {awaiting : Bool}
    (h : Ordered r c lastId) (hs : r.seat c = some a) (ascending : ws.Pairwise fun a b => a.id < b.id)
    (above : ∀ m ∈ ws, a.lastId < m.id) (upto : ∀ m ∈ ws, m.id ≤ last) (hl : a.lastId ≤ last)
    (hw : r'.written c = r.written c ++ ws.map Message.push) (ha : r'.seat c = some ⟨last, awaiting⟩) :
    Ordered r' c lastId := by
  obtain ⟨hle, hup⟩ := h.seat a hs
  have hcases : ∀ p ∈ r'.written c, p ∈ r.written c ∨ ∃ m ∈ ws, m.push = p := fun p hp => by
    rw [hw, List.mem_append, List.mem_map] at hp
    exact hp
  refine ⟨?_, fun p hp => ?_, fun b hb => ?_⟩
  · rw [hw]
    exact pairwise_append_above h.ascending hup ascending above
  · rcases hcases p hp with hp | ⟨m, hm, rfl⟩
    · exact h.above p hp
    · exact Int.lt_of_le_of_lt hle (above m hm)
  · rw [ha] at hb
    cases hb
    refine ⟨Int.le_trans hle hl, fun p hp => ?_⟩
    rcases hcases p hp with hp | ⟨m, hm, rfl⟩
    · exact Int.le_trans (hup p hp) hl
    · exact upto m hm

theorem Ordered.move (h : Ordered r c lastId) (hm : Move c r e r') : Ordered r' c lastId := by
  cases hm with
  | idle hw ha =>
    refine ⟨hw ▸ h.ascending, hw ▸ h.above, fun a has => ?_⟩
    rw [hw]
    exact h.seat a (ha ▸ has)
  | left hw ha =>
    refine ⟨hw ▸ h.ascending, hw ▸ h.above, fun a has => ?_⟩
    rw [ha] at has
    cases has
  | @live _ _ a m _ hs _ hl hw ha =>
    refine h.append (a := a) hs (List.pairwise_singleton _ _) ?_ ?_ (Int.le_of_lt hl) hw ha
    · intro k hk
      rwa [List.mem_singleton.1 hk]
    · intro k hk
      exact Int.le_of_eq (congrArg Message.id (List.mem_singleton.1 hk))
  | @caughtUp _ since a ws last hs hp =>
    have hle := hp.le_last
    refine h.append hs hp.ascending (fun m hm => ?_) hp.upto (by omega) hp.written hp.seat
    have := hp.above m hm
    omega

/-- The seat is at `lastId`, or at the id of a message that came in. -/
theorem Move.seat_known (known : Int → Prop) (hm : Move c r e r')
    (hs : ∀ a, r.seat c = some a → a.lastId = lastId ∨ known a.lastId)
    (hacc : ∀ m ∈ r.accepts e, known m.id) (hret : ∀ m ∈ r.channel.retained, known m.id)
    (hfrom : r.channel.retains = true → ∀ since ∈ e.since? c, ∀ a, r.seat c = some a →
      since ≤ a.lastId) : ∀ a, r'.seat c = some a → a.lastId = lastId ∨ known a.lastId := by
  intro b hb
  cases hm with
  | idle _ ha => exact hs b (ha ▸ hb)
  | left _ ha =>
    rw [ha] at hb
    cases hb
  | live hm _ _ _ _ ha =>
    rw [ha] at hb
    cases hb
    exact Or.inr (hacc _ hm)
  | @caughtUp _ since a ws last ha hp =>
    rw [hp.seat] at hb
    cases hb
    have hle := hfrom hp.retains since (by simp [Event.since?]) a ha
    rcases hp.last_eq with hq | ⟨m, hm, hq⟩
    · have hlast : last = a.lastId := by omega
      show last = lastId ∨ known last
      rw [hlast]
      exact hs a ha
    · rw [← hq]
      exact Or.inr (hret m (hp.retained m hm))

/-- The connection was never attached, and nothing was written to it. -/
def Untouched (r : Relay) (c : ConnId) : Prop := r.seat c = none ∧ r.written c = []

theorem Untouched.move (h : Untouched r c) (hm : Move c r e r') : Untouched r' c := by
  obtain ⟨hs, hw⟩ := h
  cases hm with
  | idle hw' ha => exact ⟨ha.trans hs, hw'.trans hw⟩
  | left hw' ha => exact ⟨ha, hw'.trans hw⟩
  | live _ hs' => exact absurd (hs.symm.trans hs') (by simp)
  | caughtUp hs' => exact absurd (hs.symm.trans hs') (by simp)

theorem Untouched.attach (h : Untouched r c) (lastId : Int) :
    Ordered (r.step (.attach c lastId)) c lastId := by
  obtain ⟨ws, asc, above, hw, hs⟩ := attach_written r c lastId h.1
  rw [h.2, List.nil_append] at hw
  have hmem : ∀ p ∈ (r.step (.attach c lastId)).written c, ∃ m ∈ ws, m.push = p := fun p hp =>
    List.mem_map.1 (hw ▸ hp)
  refine ⟨?_, fun p hp => ?_, fun a ha => ⟨(hs a ha).1, fun p hp => ?_⟩⟩
  · rw [hw, List.pairwise_map]
    exact asc
  · obtain ⟨m, hm, rfl⟩ := hmem p hp
    exact above m hm
  · obtain ⟨m, hm, rfl⟩ := hmem p hp
    exact (hs a ha).2 m hm

/-- Nothing but attaching the connection, and no replay of it while it is not attached. -/
def Lawful (c : ConnId) (r : Relay) (e : Event) : Prop :=
  e.attaches c = false ∧ ReplaysAttached c r e

theorem Ordered.run (h : Ordered r c lastId) (hes : Along Relay.step (Lawful c) r es) :
    Ordered (r.run es) c lastId :=
  hes.inv (fun r => Ordered r c lastId) (fun r e h hl => h.move (step_move r e c hl.1 hl.2)) h

theorem Untouched.run (h : Untouched r c) (hes : Along Relay.step (Lawful c) r es) :
    Untouched (r.run es) c :=
  hes.inv (fun r => Untouched r c) (fun r e h hl => h.move (step_move r e c hl.1 hl.2)) h

/-- What was written to a connection stays written. -/
theorem mem_written_run {p : Push} (hp : p ∈ r.written c) (hes : Along Relay.step (Lawful c) r es) :
    p ∈ (r.run es).written c := by
  refine hes.inv (fun r => p ∈ r.written c) (fun r e h hl => ?_) hp
  cases step_move r e c hl.1 hl.2 with
  | idle hw => exact hw ▸ h
  | left hw => exact hw ▸ h
  | live _ _ _ _ hw => exact hw ▸ List.mem_append_left _ h
  | caughtUp _ hp => exact hp.written ▸ List.mem_append_left _ h

/-- A payload has been written to the connection, and nothing else under its id. -/
def WrittenOnce (r : Relay) (c : ConnId) (p : Push) : Prop :=
  (r.written c).filter (fun q => q.id = p.id) = [p]

/-- In an ascending list, a payload is the only one of its id. -/
theorem filter_id_eq_singleton {l : List Push} {p : Push} (hl : l.Pairwise fun p q => p.id < q.id)
    (hp : p ∈ l) : l.filter (fun q => q.id = p.id) = [p] := by
  induction l with
  | nil => cases hp
  | cons q l ih =>
    obtain ⟨hq, hl⟩ := List.pairwise_cons.1 hl
    rcases List.mem_cons.1 hp with rfl | hp
    · have hnone : l.filter (fun q => q.id = p.id) = [] := by
        rw [List.filter_eq_nil_iff]
        intro x hx
        have := hq x hx
        simp only [decide_eq_true_eq]
        omega
      simp [hnone]
    · have hne : q.id ≠ p.id := by
        have := hq p hp
        omega
      simp [hne, ih hl hp]

/-- Where order is kept, what has been written once stays the only one of its id. -/
theorem Ordered.writtenOnce {p : Push} (h : Ordered (r.run es) c lastId) (hp : p ∈ r.written c)
    (hes : Along Relay.step (Lawful c) r es) : WrittenOnce (r.run es) c p :=
  filter_id_eq_singleton h.ascending (mem_written_run hp hes)

/-- Around the only attempt to attach a connection there is no other. -/
theorem attaches_eq_false {pre post : List Event}
    (once : (pre ++ .attach c lastId :: post).countP (Event.attaches c) ≤ 1) :
    (∀ e ∈ pre, e.attaches c = false) ∧ ∀ e ∈ post, e.attaches c = false := by
  have hc : Event.attaches c (.attach c lastId) = true := by simp [Event.attaches]
  rw [List.countP_append, List.countP_cons_of_pos hc] at once
  have hpre : pre.countP (Event.attaches c) = 0 := by omega
  have hpost : post.countP (Event.attaches c) = 0 := by omega
  refine ⟨fun e he => ?_, fun e he => ?_⟩
  · exact Bool.eq_false_iff.2 (List.countP_eq_zero.1 hpre e he)
  · exact Bool.eq_false_iff.2 (List.countP_eq_zero.1 hpost e he)

theorem ordered_run_attach {pre post : List Event} (h : Untouched r c)
    (once : (pre ++ .attach c lastId :: post).countP (Event.attaches c) ≤ 1)
    (hes : Along Relay.step (ReplaysAttached c) r (pre ++ .attach c lastId :: post)) :
    Ordered (r.run (pre ++ .attach c lastId :: post)) c lastId := by
  obtain ⟨hpre, hpost⟩ := attaches_eq_false once
  obtain ⟨hes, -, hes'⟩ := along_append.1 hes
  rw [run_append, run_cons]
  have hu : Untouched (r.run pre) c := h.run ((along_of_forall hpre).and hes)
  exact (hu.attach lastId).run ((along_of_forall hpost).and hes')

theorem untouched_start (settings : ChannelSettings) (deadline : Int) (key : String) (now : Int)
    (ids : IdSource) (store : Store) (c : ConnId) :
    Untouched (start settings deadline key now ids store) c := ⟨rfl, rfl⟩

/-- Delivery is strictly increasing: whatever else happens, a connection that is attached at most once,
and replayed only while it is attached, is written ever greater ids, all above the id it was attached
with.  This holds of either kind of channel, and whatever the offline store answers. -/
theorem written_ascending (settings : ChannelSettings) (deadline : Int) (key : String) (now : Int)
    (ids : IdSource) (store : Store) (es : List Event) (c : ConnId)
    (once : es.countP (Event.attaches c) ≤ 1)
    (hes : Along Relay.step (ReplaysAttached c) (start settings deadline key now ids store) es) :
    (((start settings deadline key now ids store).run es).written c).Pairwise
        (fun p q => p.id < q.id) ∧
      ∀ lastId, .attach c lastId ∈ es →
        ∀ p ∈ ((start settings deadline key now ids store).run es).written c, lastId < p.id := by
  have hu := untouched_start settings deadline key now ids store c
  constructor
  · by_cases h : ∃ lastId, .attach c lastId ∈ es
    · obtain ⟨lastId, h⟩ := h
      obtain ⟨pre, post, rfl⟩ := List.append_of_mem h
      exact (ordered_run_attach hu once hes).ascending
    · have hno : ∀ e ∈ es, e.attaches c = false := by
        intro e he
        cases e with
        | attach c' lastId =>
          refine Bool.eq_false_iff.2 fun hc => h ⟨lastId, ?_⟩
          rw [← eq_of_beq hc]
          exact he
        | _ => rfl
      rw [(hu.run ((along_of_forall hno).and hes)).2]
      exact .nil
  · intro lastId h
    obtain ⟨pre, post, rfl⟩ := List.append_of_mem h
    exact (ordered_run_attach hu once hes).above

theorem written_ascending_unsorted_history :
    let m (id : Int) (expire : Int) : Message := ⟨id, [], .broadcast, expire⟩
    let history := [m 5 100, m 4 100, m 8 10, m 2 100, m 5 100, m 9 100]
    let s : Store := ⟨.memory .new, ⟨none, none, some history⟩⟩
    let r := start ⟨.outer, 4, 4, none, 1⟩ 0 "k" 10 .time s
    let es : List Event := [.connect 3, .push (m 6 100), .attach 1 3, .push (m 7 100), .push (m 11 100),
      .push (m 12 100), .receive 1, .push ⟨0, [], .personal, 100⟩, .push (m 13 100), .detach 1]
    (es.countP (Event.attaches 1) ≤ 1 ∧ Along Relay.step (ReplaysAttached 1) r es ∧ .attach 1 3 ∈ es) ∧
      ((r.run es).written 1).map (·.id) = [5, 9, 11, 13] ∧
      ((r.run es).written 1).Pairwise (fun p q => p.id < q.id) ∧
      ∀ p ∈ (r.run es).written 1, 3 < p.id := by
  intro m history s r es
  have once : es.countP (Event.attaches 1) ≤ 1 := by decide
  have hes : Along Relay.step (ReplaysAttached 1) r es := by decide
  have hatt : .attach 1 3 ∈ es := by simp [es]
  obtain ⟨h1, h2⟩ := written_ascending ⟨.outer, 4, 4, none, 1⟩ 0 "k" 10 .time s es 1 once hes
  exact ⟨⟨once, hes, hatt⟩, by decide, h1, h2 3 hatt⟩

end Relay

end PushRelay
