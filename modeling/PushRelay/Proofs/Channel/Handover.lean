import PushRelay.Proofs.Channel.Live

/-!
# From replay to live pushes

On a channel that retains messages, pushes are held back from a connection until a replay of it has
succeeded.  Provided that pushes come with ever greater ids and that the clock is not set back, nothing
gets lost where the one takes over from the other, and nothing is written twice.

* `Following` says where the seat of a connection may be: at the id it was attached with, or at the id
  of an accepted push.  So the next push is above it.
* `Held` says that up to its seat a connection which is still held back has been written everything
  that is retained and has not expired.  Tries that fail on the way keep this.
-/

namespace PushRelay

namespace Relay

variable {r : Relay} {e : Event} {c : ConnId} {lastId : Int} {es : List Event}

/-! ## What a run is promised -/

/-- The connection is replayed only while it is attached, and not from above `lastId`; the clock is
never set back. -/
def Orderly (c : ConnId) (lastId : Int) (r : Relay) (e : Event) : Prop :=
  ReplaysAttached c r e ∧ (∀ since ∈ e.since? c, since ≤ lastId) ∧ Forward r e

instance (c : ConnId) (lastId : Int) (r : Relay) (e : Event) : Decidable (Orderly c lastId r e) :=
  inferInstanceAs (Decidable (_ ∧ (∀ since ∈ e.since? c, since ≤ lastId) ∧ _))

/-- Accepted pushes come with ever greater ids. -/
def Increasing (r : Relay) (e : Event) : Prop :=
  (r.step e).accepted.Pairwise fun a b => a.id < b.id

theorem along_increasing (h : (r.run es).accepted.Pairwise fun a b => a.id < b.id) :
    Along Relay.step Increasing r es :=
  along_of_foldl (Q := fun r : Relay => r.accepted.Pairwise fun a b => a.id < b.id)
    (fun _ _ h => (List.pairwise_append.1 h).1) h

theorem Increasing.above {m k : Message} (h : Increasing r e) (hm : m ∈ r.accepts e)
    (hk : k ∈ r.accepted) : k.id < m.id :=
  (List.pairwise_append.1 h).2.2 k hk m hm

/-! ## Where the seat is -/

/-- The channel retains accepted messages, and nothing else. -/
structure Retaining (r : Relay) : Prop where
  retains : r.channel.retains = true
  retained : ∀ m ∈ r.channel.retained, m ∈ r.accepted

theorem Retaining.step (h : Retaining r) (e : Event) : Retaining (r.step e) := by
  refine ⟨(retains_step r e).trans h.retains, fun m hm => ?_⟩
  rcases mem_retained_step hm with hm | hm
  · exact mem_accepted_step (Or.inl (h.retained m hm))
  · exact mem_accepted_step (Or.inr hm)

theorem Retaining.run (h : Retaining r) (es : List Event) : Retaining (r.run es) := by
  induction es generalizing r with
  | nil => exact h
  | cons e es ih => exact ih (h.step e)

theorem retaining_start {settings : ChannelSettings} (inner : settings.kind = .inner) (deadline : Int)
    (key : String) (now : Int) (ids : IdSource) (store : Store) :
    Retaining (start settings deadline key now ids store) := by
  have hnew : (Channel.new settings deadline).retention = .log .empty settings.maxMessages := by
    simp only [Channel.new, inner]
  constructor
  · show (Channel.new settings deadline).retains = true
    simp only [Channel.retains, hnew]
  · intro m hm
    have hm : m ∈ (Channel.new settings deadline).retained := hm
    rw [Channel.retained_log hnew] at hm
    cases hm

/-- The connection was attached with `lastId` to a channel that retains messages. -/
structure Following (r : Relay) (c : ConnId) (lastId : Int) : Prop extends Retaining r where
  ordered : Ordered r c lastId
  seat : ∀ a, r.seat c = some a → a.lastId = lastId ∨ ∃ m ∈ r.accepted, m.id = a.lastId

theorem Following.step (h : Following r c lastId) (hn : e.attaches c = false)
    (ho : Orderly c lastId r e) : Following (r.step e) c lastId := by
  obtain ⟨hrep, hsince, -⟩ := ho
  have hmove := step_move r e c hn hrep
  refine ⟨h.toRetaining.step e, h.ordered.move hmove,
    hmove.seat_known (fun i => ∃ m ∈ (r.step e).accepted, m.id = i) (fun a ha => ?_)
      (fun m hm => ⟨m, mem_accepted_step (Or.inr hm), rfl⟩)
      (fun m hm => ⟨m, mem_accepted_step (Or.inl (h.retained m hm)), rfl⟩)
      fun _ since hs a ha => Int.le_trans (hsince since hs) (h.ordered.seat a ha).1⟩
  rcases h.seat a ha with hq | ⟨m, hm, hq⟩
  · exact Or.inl hq
  · exact Or.inr ⟨m, mem_accepted_step (Or.inl hm), hq⟩

/-- What is accepted next is above the seat. -/
theorem Following.lt_of_accepts {a : Attachment} {m : Message} (h : Following r c lastId)
    (hi : Increasing r e) (hs : r.seat c = some a) (hm : m ∈ r.accepts e) (hl : lastId < m.id) :
    a.lastId < m.id := by
  rcases h.seat a hs with hq | ⟨k, hk, hq⟩
  · rwa [hq]
  · rw [← hq]
    exact hi.above hm hk

/-! ## Before a replay has succeeded -/

/-- Nothing is pushed to the connection yet, and up to its seat nothing is left out. -/
structure Held (r : Relay) (c : ConnId) (lastId : Int) : Prop where
  awaiting : ∀ a, r.seat c = some a → a.awaitingReplay = true
  caught : ∀ a, r.seat c = some a → ∀ m ∈ r.channel.retained, lastId < m.id →
    m.isExpired r.host.now = false → m.id ≤ a.lastId → m.push ∈ r.written c

theorem Held.step (h : Held r c lastId) (hf : Following r c lastId) (hn : e.attaches c = false)
    (ho : Orderly c lastId r e) (hi : Increasing r e) (hc : r.completes c e = false) :
    Held (r.step e) c lastId := by
  have hmove := step_move r e c hn ho.1
  have hnow := le_now_step ho.2.2
  cases hmove with
  | idle hw ha =>
    refine ⟨fun a hs => h.awaiting a (ha ▸ hs), fun a hs m hm hl hx hle => ?_⟩
    rw [ha] at hs
    rw [hw]
    rcases mem_retained_step hm with hm | hm
    · exact h.caught a hs m hm hl (Message.live_earlier hx hnow) hle
    · -- a new message is not below the seat
      have := hf.lt_of_accepts hi hs hm hl
      omega
  | left hw ha =>
    refine ⟨fun a hs => ?_, fun a hs => ?_⟩
    · rw [ha] at hs
      cases hs
    · rw [ha] at hs
      cases hs
  | live hm hs hd => exact absurd ((h.awaiting _ hs).symm.trans hd) (by decide)
  | @caughtUp _ since a ws last hs hp =>
    have hle := (hf.ordered.seat a hs).1
    have hfrom := ho.2.1 since (by simp [Event.since?])
    refine ⟨fun b hb => ?_, fun b hb m hm hl hx hlast => ?_⟩
    · rw [hp.seat] at hb
      cases hb
      rw [h.awaiting a hs, hc]
      rfl
    · rw [hp.seat] at hb
      cases hb
      rw [hp.written]
      have hm : m ∈ r.channel.retained := by
        rcases mem_retained_step hm with hm | hm
        · exact hm
        · cases hm
      have hx := Message.live_earlier hx hnow
      by_cases hma : m.id ≤ a.lastId
      · exact List.mem_append_left _ (h.caught a hs m hm hl hx hma)
      · have hin := hp.complete m hm (by omega) hx (Or.inl hlast)
        exact List.mem_append_right _ (List.mem_map_of_mem hin)

/-- A replay that succeeds leaves nothing out at all. -/
theorem Held.completed {a : Attachment} {since : Int} {m : Message} (h : Held r c lastId)
    (hf : Following r c lastId) (hs : r.seat c = some a) (hfrom : since ≤ lastId)
    (hc : r.completes c (.replay c since) = true) (hm : m ∈ r.channel.retained) (hl : lastId < m.id)
    (hx : m.isExpired r.host.now = false) : m.push ∈ (r.step (.replay c since)).written c := by
  obtain ⟨ws, last, hp⟩ := progress_of_completes hf.retains hs hc
  have hle := (hf.ordered.seat a hs).1
  rw [hp.written]
  by_cases hma : m.id ≤ a.lastId
  · exact List.mem_append_left _ (h.caught a hs m hm hl hx hma)
  · have hin := hp.complete m hm (by omega) hx (Or.inr hc)
    exact List.mem_append_right _ (List.mem_map_of_mem hin)

/-! ## From attaching to the end -/

/-- A channel that retains messages takes a connection up without them. -/
theorem attach_retaining {a : Attachment} (hk : r.channel.retains = true) (hs : r.seat c = none)
    (ha : (r.step (.attach c lastId)).seat c = some a) : a = ⟨lastId, true⟩ := by
  rw [seat_step] at ha
  simp only [act] at ha
  have ht := Channel.attach_taken r.channel r.host r.key c lastId
  generalize r.channel.attach r.host r.key c lastId = out at ht ha
  cases ht with
  | refused => exact absurd (hs.symm.trans ha) (by simp)
  | joined =>
    have hi : (r.channel.attached.insert c ⟨lastId, true⟩).get? c = some a := ha
    rw [Table.get?_insert, if_pos rfl] at hi
    exact (Option.some.inj hi).symm
  | fed hf =>
    have hr := hf.source.1
    simp only [Channel.retains, hr, Bool.false_eq_true] at hk

theorem Untouched.attach_held (h : Untouched r c) (hr : Retaining r) (lastId : Int) :
    Following (r.step (.attach c lastId)) c lastId ∧ Held (r.step (.attach c lastId)) c lastId := by
  have hseat : ∀ a, (r.step (.attach c lastId)).seat c = some a → a = ⟨lastId, true⟩ :=
    fun _ ha => attach_retaining hr.retains h.1 ha
  refine ⟨⟨hr.step _, h.attach lastId, fun a ha => ?_⟩, fun a ha => ?_, fun a ha m _ hl _ hle => ?_⟩
  · rw [hseat a ha]
    exact Or.inl rfl
  · rw [hseat a ha]
  · rw [hseat a ha] at hle
    exact absurd hl (Int.not_lt.2 hle)

/-- What a run is promised of its events around the only attachment of the connection. -/
def Promised (c : ConnId) (lastId : Int) (r : Relay) (e : Event) : Prop :=
  e.attaches c = false ∧ Orderly c lastId r e ∧ Increasing r e

theorem Promised.lawful (h : Promised c lastId r e) : Lawful c r e := ⟨h.1, h.2.1.1⟩

theorem Following.run (h : Following r c lastId) (hes : Along Relay.step (Promised c lastId) r es) :
    Following (r.run es) c lastId :=
  hes.inv (fun r => Following r c lastId) (fun _ _ h hp => h.step hp.1 hp.2.1) h

theorem Held.run (h : Held r c lastId) (hf : Following r c lastId)
    (hes : Along Relay.step (Promised c lastId) r es)
    (hc : Along Relay.step (fun r e => r.completes c e = false) r es) :
    Held (r.run es) c lastId := by
  have hboth := (hes.and hc).inv (fun r => Following r c lastId ∧ Held r c lastId)
    (fun _ _ h hp => ⟨h.1.step hp.1.1 hp.1.2.1, h.2.step h.1 hp.1.1 hp.1.2.1 hp.1.2.2 hp.2⟩) ⟨hf, h⟩
  exact hboth.2

/-- Once a replay has succeeded, all that was retained then and had not expired has been written, and
pushes come through. -/
theorem Held.caughtUp {since : Int} {mid rest : List Event} (hh : Held r c lastId)
    (hf : Following r c lastId)
    (hes : Along Relay.step (Promised c lastId) r (mid ++ .replay c since :: rest))
    (failing : Along Relay.step (fun r e => r.completes c e = false) r mid)
    (hc : (r.run mid).completes c (.replay c since) = true) :
    Following ((r.run mid).step (.replay c since)) c lastId ∧
      Live ((r.run mid).step (.replay c since)) c ∧
      ∀ m ∈ (r.run mid).channel.retained, lastId < m.id →
        m.isExpired (r.run mid).host.now = false →
        m.push ∈ ((r.run mid).step (.replay c since)).written c := by
  obtain ⟨hmid, hrep, hrest⟩ := along_append.1 hes
  have hf' := hf.run hmid
  have hh' := hh.run hf hmid failing
  obtain ⟨a, ha⟩ := seat_of_completes hf'.retains hrep.2.1.1 hc
  obtain ⟨ws, last, hp⟩ := progress_of_completes hf'.retains ha hc
  refine ⟨hf'.step hrep.1 hrep.2.1, fun b hb => ?_, fun m hm hl hx => ?_⟩
  · rw [hp.seat] at hb
    cases hb
    show (_ && !_) = false
    rw [hc, Bool.not_true, Bool.and_false]
  · exact hh'.completed hf' ha (hrep.2.1.2.1 since (by simp [Event.since?])) hc hm hl hx

/-- An accepted push above `lastId` is written to a live connection that is attached and has room. -/
theorem Following.push {m : Message} {id : Int} (hf : Following r c lastId) (hv : Live r c)
    (hi : Increasing r (.push m)) (hok : (r.channel.push r.host r.key m).result = .ok id)
    (hl : lastId < id) (hs : (r.seat c).isSome = true) (hroom : r.host.hasRoom c = true) :
    (m.withId id).push ∈ (r.step (.push m)).written c := by
  obtain ⟨a, ha⟩ := Option.isSome_iff_exists.1 hs
  have hacc : m.withId id ∈ r.accepts (.push m) := by
    rw [accepts_push hok]
    exact List.mem_singleton_self _
  exact hv.push ha hok (hf.lt_of_accepts hi ha hacc hl) hroom

/-- Nothing gets lost and nothing is written twice where pushes take over from the backlog.  Let a
connection be attached once, with `lastId`, and let `caught` be the state in which a replay of it first
succeeds.  Then all that is retained there above `lastId` and has not expired is written to it exactly
once, and so is every push accepted later above `lastId` for which it is attached and has room, so that
the write to it does not fail (`Connection.write_eq_ok_iff`). -/
theorem no_gap_no_duplicate (settings : ChannelSettings) (deadline : Int) (key : String) (now : Int)
    (ids : IdSource) (store : Store) (pre mid rest : List Event) (c : ConnId) (lastId since : Int)
    (inner : settings.kind = .inner) :
    let r := start settings deadline key now ids store
    let attached := (r.run pre).step (.attach c lastId)
    let caught := attached.run mid
    let es := pre ++ .attach c lastId :: (mid ++ .replay c since :: rest)
    es.countP (Event.attaches c) ≤ 1 →
    Along Relay.step (Orderly c lastId) r es →
    (r.run es).accepted.Pairwise (fun a b => a.id < b.id) →
    Along Relay.step (fun r e => r.completes c e = false) attached mid →
    caught.completes c (.replay c since) = true →
    (∀ m ∈ caught.channel.retained, lastId < m.id → m.isExpired caught.host.now = false →
      WrittenOnce (r.run es) c m.push) ∧
    ∀ more m tail id, rest = more ++ .push m :: tail →
      let live := (caught.step (.replay c since)).run more
      (live.channel.push live.host live.key m).result = .ok id → lastId < id →
      (live.seat c).isSome = true → live.host.hasRoom c = true →
      WrittenOnce (r.run es) c (m.withId id).push := by
  intro r attached caught es once orderly increasing failing hc
  obtain ⟨hpre, hpost⟩ := attaches_eq_false once
  have hinc : Along Relay.step Increasing r es := along_increasing increasing
  obtain ⟨hpreO, hattO, hpostO⟩ := along_append.1 orderly
  obtain ⟨-, hattI, hpostI⟩ := along_append.1 hinc
  have hall : Along Relay.step (Promised c lastId) attached (mid ++ .replay c since :: rest) :=
    (along_of_forall hpost).and (hpostO.and hpostI)
  have hu : Untouched (r.run pre) c :=
    (untouched_start settings deadline key now ids store c).run
      (((along_of_forall hpre).and hpreO).mono fun _ _ h => ⟨h.1, h.2.1⟩)
  obtain ⟨hf, hh⟩ := hu.attach_held ((retaining_start inner deadline key now ids store).run pre) lastId
  obtain ⟨hf', hv, hmem⟩ := hh.caughtUp hf hall failing hc
  have hrest : Along Relay.step (Promised c lastId) (caught.step (.replay c since)) rest :=
    (along_append.1 hall).2.2
  have hrun : r.run es = (caught.step (.replay c since)).run rest := by
    simp only [es, run_append, run_cons, attached, caught]
  rw [hrun]
  have hord := (hf'.run hrest).ordered
  have hlaw := hrest.mono fun _ _ h => h.lawful
  constructor
  · intro m hm hl hx
    exact hord.writtenOnce (hmem m hm hl hx) hlaw
  · rintro more m tail id rfl live hok hl hs hroom
    obtain ⟨hmore, hpush, htail⟩ := along_append.1 hrest
    have hlive := hv.run (hmore.mono fun _ _ h => h.lawful)
    have hin := (hf'.run hmore).push hlive hpush.2.2 hok hl hs hroom
    rw [run_append, run_cons] at hord ⊢
    exact hord.writtenOnce hin (htail.mono fun _ _ h => h.lawful)

theorem no_gap_no_duplicate_after_two_failures :
    let m (id : Int) (expire : Int) : Message := ⟨id, [], .personal, expire⟩
    let r := start ⟨.inner, 8, 4, none, 1⟩ 0 "k" 10 .time (.ofMemory .new)
    let pre : List Event := [.connect 2, .connect 4, .attach 2 0, .push (m 1 100), .push (m 3 100),
      .push (m 4 20)]
    let attached := (r.run pre).step (.attach 1 1)
    -- both replays of connection 1 fill its queue, and 6 is pushed between them
    let mid : List Event := [.push (m 5 100), .replay 2 0, .replay 1 0, .receive 1, .clock 30,
      .push (m 6 100), .replay 1 1, .receive 1]
    let caught := attached.run mid
    let rest : List Event := [.receive 1, .push (m 7 100), .detach 1, .push (m 8 100)]
    let live := (caught.step (.replay 1 1)).run [.receive 1]
    let es := pre ++ .attach 1 1 :: (mid ++ .replay 1 1 :: rest)
    (es.countP (Event.attaches 1) ≤ 1 ∧ Along Relay.step (Orderly 1 1) r es ∧
      (r.run es).accepted.Pairwise (fun a b => a.id < b.id) ∧
      Along Relay.step (fun r e => r.completes 1 e = false) attached mid ∧
      caught.completes 1 (.replay 1 1) = true) ∧
    (m 6 100 ∈ caught.channel.retained ∧
      WrittenOnce (r.run es) 1 (m 6 100).push) ∧
    ((live.channel.push live.host live.key (m 7 100)).result = .ok 7 ∧
      (live.seat 1).isSome = true ∧ live.host.hasRoom 1 = true ∧
      WrittenOnce (r.run es) 1 (m 7 100).push) := by
  intro m r pre attached mid caught rest live es
  have once : es.countP (Event.attaches 1) ≤ 1 := by decide
  have orderly : Along Relay.step (Orderly 1 1) r es := by decide
  have increasing : (r.run es).accepted.Pairwise fun a b => a.id < b.id := by decide
  have failing : Along Relay.step (fun r e => r.completes 1 e = false) attached mid := by decide
  have completes : caught.completes 1 (.replay 1 1) = true := by decide
  have hm : m 6 100 ∈ caught.channel.retained := by decide
  have hok : (live.channel.push live.host live.key (m 7 100)).result = .ok 7 :=
    (result_of_mem_accepts (by decide : m 7 100 ∈ live.accepts (.push (m 7 100)))).1
  have hs : (live.seat 1).isSome = true := by decide
  have hroom : live.host.hasRoom 1 = true := by decide
  obtain ⟨h6, h7⟩ := no_gap_no_duplicate ⟨.inner, 8, 4, none, 1⟩ 0 "k" 10 .time (.ofMemory .new) pre mid
    rest 1 1 1 rfl once orderly increasing failing completes
  have h6 := h6 (m 6 100) hm (by decide) (by decide)
  have h7 := h7 [.receive 1] (m 7 100) [.detach 1, .push (m 8 100)] 7 rfl hok (by decide) hs hroom
  exact ⟨⟨once, orderly, increasing, failing, completes⟩, ⟨hm, h6⟩, hok, hs, hroom, h7⟩

end Relay

end PushRelay
