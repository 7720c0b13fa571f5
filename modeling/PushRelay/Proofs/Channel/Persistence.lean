import PushRelay.Proofs.Channel.Live
import PushRelay.Proofs.Store

/-!
# From the store to live pushes

A channel that persists its messages saves each message for one subscriber before it passes it on, and
feeds a connection what the store has for it when the connection is attached.

* `Stocked` says that the store holds accepted messages for one subscriber, all but expired ones.
* `Abreast` says where the seat of a connection may be: at the id it was attached with, or at an id that
  has been issued.  So a message saved under a new id is above it.
-/

namespace PushRelay

namespace Channel

variable {ch : Channel} {h : Host} {key : String} {m : Message} {id : Int}

theorem retains_eq_false_iff : ch.retains = false ↔ ch.retention = .store := by
  unfold retains
  cases ch.retention <;> simp

/-- A push that is refused leaves the store as it was. -/
theorem push_error_store {e : ChannelError} (he : (ch.push h key m).result = .error e) :
    (ch.push h key m).host.store = h.store := by
  have hp := push_pushed ch h key m
  generalize ch.push h key m = out at hp he
  cases hp with
  | accepted => cases he
  | refused _ _ hk =>
    rcases hk with rfl | ⟨rfl, hk⟩
    · rfl
    · have hkept := keep_kept ch h key m
      generalize ch.keep h key m = out at hkept hk
      cases hkept with
      | refused => rfl
      | undrawn => rfl
      | retained => cases hk
      | passed => cases hk
      | saved => cases hk
      | unsaved _ _ _ hs => exact Store.save_error hs

/-- A message for one subscriber that a channel keeps in the store has been saved there under a new
id. -/
theorem keep_personal (hr : ch.retention = .store) (hm : m.group = .personal)
    (hok : (ch.keep h key m).result = .ok (m.withId id)) :
    h.drawId.1 = .ok id ∧ (h.store.save key (m.withId id)).1 = .ok () ∧
      (ch.keep h key m).host.store = (h.store.save key (m.withId id)).2 := by
  have hk := keep_kept ch h key m
  generalize ch.keep h key m = out at hk hok
  cases hk with
  | refused hr' => rw [hr] at hr'; cases hr'
  | retained hr' => rw [hr] at hr'; cases hr'
  | passed _ hm' => rw [hm] at hm'; cases hm'
  | undrawn => cases hok
  | unsaved => cases hok
  | @saved id' _ _ hd hs =>
    have hid : id' = id := congrArg Message.id (Except.ok.inj hok)
    subst hid
    exact ⟨hd, hs, rfl⟩

/-- A broadcast keeps its id and stays out of the store. -/
theorem keep_broadcast (hr : ch.retention = .store) (hm : m.group = .broadcast)
    (hok : (ch.keep h key m).result = .ok (m.withId id)) :
    id = m.id ∧ (ch.keep h key m).host.store = h.store := by
  have hk := keep_kept ch h key m
  generalize ch.keep h key m = out at hk hok
  cases hk with
  | refused hr' => rw [hr] at hr'; cases hr'
  | retained hr' => rw [hr] at hr'; cases hr'
  | passed => exact ⟨congrArg Message.id (Except.ok.inj hok).symm, rfl⟩
  | undrawn => cases hok
  | unsaved => cases hok
  | saved _ hm' => rw [hm] at hm'; cases hm'

/-- Attaching a connection looks messages up at most. -/
theorem attach_store (hr : ch.retention = .store) (c : ConnId) (lastId : Int) :
    (ch.attach h key c lastId).host.store = h.store ∨
      (ch.attach h key c lastId).host.store = (h.store.get key lastId h.now).2 := by
  have ht := attach_taken ch h key c lastId
  generalize ch.attach h key c lastId = out at ht
  cases ht with
  | refused hh =>
    rcases hh with rfl | rfl
    · exact Or.inl rfl
    · exact Or.inr rfl
  | joined hr' => rw [hr] at hr'; cases hr'
  | fed hf => exact Or.inr hf.store

end Channel

namespace Relay

variable {r : Relay} {e : Event} {c : ConnId} {lastId : Int} {es : List Event}

/-! ## What a run is promised -/

/-- Broadcasts come under ids that were drawn before, the store has room for what it is to hold, and
it does not answer anything else than what it holds.  Its calls may fail. -/
def Supplied (r : Relay) : Event → Prop
  | .push m => match m.group with
    | .broadcast => m.id ∈ r.issued
    | .personal => r.accepts (.push m) ≠ [] → r.host.store.hasRoom r.key = true
  | .store _ => False
  | .faults f => f.history = none
  | _ => True

instance (r : Relay) : (e : Event) → Decidable (Supplied r e)
  | .push m => match hm : m.group with
    | .broadcast => decidable_of_iff (m.id ∈ r.issued) (by simp only [Supplied, hm])
    | .personal => decidable_of_iff
      (r.accepts (.push m) ≠ [] → r.host.store.hasRoom r.key = true) (by simp only [Supplied, hm])
  | .store _ => isFalse id
  | .faults f => inferInstanceAs (Decidable (f.history = none))
  | .attach .. | .replay .. | .detach .. | .close | .connect _ | .receive _ | .hangUp _ | .dismiss _
  | .postpone _ | .clock _ | .draw => isTrue trivial

/-- The source issues ever greater ids. -/
def Issuing (r : Relay) (e : Event) : Prop := (r.step e).issued.Pairwise (· < ·)

theorem along_issuing (h : (r.run es).issued.Pairwise (· < ·)) : Along Relay.step Issuing r es :=
  along_of_foldl (Q := fun r : Relay => r.issued.Pairwise (· < ·))
    (fun _ _ h => (List.pairwise_append.1 h).1) h

/-! ## What the store holds -/

/-- What the store holds for the channel. -/
def stored (r : Relay) : List Message := r.host.store.stored r.key

/-- The store holds accepted messages for one subscriber, and has lost none but expired ones. -/
structure Stocked (r : Relay) : Prop where
  outer : r.channel.retention = .store
  store : r.host.store.InMemory
  accepted : ∀ m ∈ r.stored, m ∈ r.accepted ∧ m.group = .personal
  kept : ∀ m ∈ r.accepted, m.group = .personal → m.isExpired r.host.now = false → m ∈ r.stored
  issued : ∀ m ∈ r.accepted, m.id ∈ r.issued

theorem outer_step (h : r.channel.retention = .store) (e : Event) :
    (r.step e).channel.retention = .store :=
  Channel.retains_eq_false_iff.1
    ((retains_step r e).trans (Channel.retains_eq_false_iff.2 h))

/-- An event that brings no message in, and after which the store holds the same but for messages that
have expired. -/
theorem Stocked.quiet (h : Stocked r) (hacc : r.accepts e = [])
    (hnow : r.host.now ≤ (r.step e).host.now) (hs : (r.step e).host.store.InMemory)
    (hsub : ∀ m ∈ (r.step e).stored, m ∈ r.stored)
    (hkept : ∀ m ∈ r.stored, m.isExpired r.host.now = false → m ∈ (r.step e).stored) :
    Stocked (r.step e) := by
  have hsame : (r.step e).accepted = r.accepted := by
    show r.accepted ++ r.accepts e = r.accepted
    rw [hacc, List.append_nil]
  refine ⟨outer_step h.outer e, hs, fun m hm => ?_, fun m hm hg hx => ?_, fun m hm => ?_⟩
  · rw [hsame]
    exact h.accepted m (hsub m hm)
  · rw [hsame] at hm
    have hx := Message.live_earlier hx hnow
    exact hkept m (h.kept m hm hg hx) hx
  · rw [hsame] at hm
    exact List.mem_append_left _ (h.issued m hm)

theorem key_step (r : Relay) (e : Event) : (r.step e).key = r.key := by
  cases e <;> rfl

/-- An event that brings no message in and leaves the store as it is. -/
theorem Stocked.same (h : Stocked r) (hacc : r.accepts e = [])
    (hnow : r.host.now ≤ (r.step e).host.now) (hs : (r.step e).host.store = r.host.store) :
    Stocked (r.step e) := by
  have hstored : (r.step e).stored = r.stored := by
    unfold stored
    rw [hs, key_step]
  refine h.quiet hacc hnow (hs ▸ h.store) (fun m hm => hstored ▸ hm) (fun m hm _ => hstored ▸ hm)

/-- An event that brings a message in, which the store holds from then on if it is for one
subscriber. -/
theorem Stocked.take {k : Message} (h : Stocked r)
    (hacc : (r.step e).accepted = r.accepted ++ [k]) (hnow : r.host.now ≤ (r.step e).host.now)
    (hs : (r.step e).host.store.InMemory)
    (hstored : ∀ m, m ∈ (r.step e).stored ↔ (m = k ∧ k.group = .personal) ∨ m ∈ r.stored)
    (hid : k.id ∈ (r.step e).issued) : Stocked (r.step e) := by
  refine ⟨outer_step h.outer e, hs, fun m hm => ?_, fun m hm hg hx => ?_, fun m hm => ?_⟩
  · rw [hacc, List.mem_append, List.mem_singleton]
    rcases (hstored m).1 hm with ⟨rfl, hg⟩ | hm
    · exact ⟨Or.inr rfl, hg⟩
    · exact ⟨Or.inl (h.accepted m hm).1, (h.accepted m hm).2⟩
  · rw [hstored]
    rw [hacc, List.mem_append, List.mem_singleton] at hm
    rcases hm with hm | rfl
    · exact Or.inr (h.kept m hm hg (Message.live_earlier hx hnow))
    · exact Or.inl ⟨rfl, hg⟩
  · rw [hacc, List.mem_append, List.mem_singleton] at hm
    rcases hm with hm | rfl
    · exact List.mem_append_left _ (h.issued m hm)
    · exact hid

/-- An accepted message for one subscriber goes out under an id that is issued with it. -/
theorem issues_personal {m : Message} {id : Int} (h : r.channel.retention = .store)
    (hg : m.group = .personal) (hp : (r.channel.push r.host r.key m).result = .ok id) :
    r.issues (.push m) = [id] := by
  simp only [issues, h, hg, and_self, if_true, accepts_push hp]
  rfl

theorem Stocked.push {m : Message} (h : Stocked r) (hs : Supplied r (.push m)) :
    Stocked (r.step (.push m)) := by
  have hnow : r.host.now ≤ (r.step (.push m)).host.now := Channel.le_now_push _ _ _ _
  cases hp : (r.channel.push r.host r.key m).result with
  | error e =>
    refine h.same ?_ hnow (Channel.push_error_store hp)
    simp only [accepts, hp]
  | ok id =>
    obtain ⟨-, -, hkeep, -, hstore⟩ := Channel.push_ok hp
    have hacc : (r.step (.push m)).accepted = r.accepted ++ [m.withId id] :=
      congrArg (r.accepted ++ ·) (accepts_push hp)
    cases hg : m.group with
    | broadcast =>
      obtain ⟨rfl, hst⟩ := Channel.keep_broadcast h.outer hg hkeep
      have hsame : (r.step (.push m)).host.store = r.host.store := hstore.trans hst
      refine h.take hacc hnow (hsame ▸ h.store) (fun k => ?_) ?_
      · show k ∈ (r.step (.push m)).host.store.stored r.key ↔ (_ ∧ m.group = _) ∨ _
        rw [hsame, hg]
        simp [stored]
      · simp only [Supplied, hg] at hs
        exact List.mem_append_left _ hs
    | personal =>
      obtain ⟨-, hsave, hst⟩ := Channel.keep_personal h.outer hg hkeep
      have hroom : r.host.store.hasRoom r.key = true := by
        simp only [Supplied, hg] at hs
        exact hs (by rw [accepts_push hp]; simp)
      obtain ⟨hmem, hstored⟩ := Store.mem_stored_save h.store hsave hroom
      have hnew : (r.step (.push m)).host.store = (r.host.store.save r.key (m.withId id)).2 :=
        hstore.trans hst
      refine h.take hacc hnow (hnew ▸ hmem) (fun k => ?_) ?_
      · show k ∈ (r.step (.push m)).host.store.stored r.key ↔ (_ ∧ m.group = _) ∨ _
        rw [hnew, hstored k, hg]
        simp [stored]
      · refine List.mem_append_right _ ?_
        rw [issues_personal h.outer hg hp]
        exact List.mem_singleton_self _

theorem Stocked.attach (h : Stocked r) (c : ConnId) (lastId : Int) :
    Stocked (r.step (.attach c lastId)) := by
  have hnow : r.host.now ≤ (r.step (.attach c lastId)).host.now :=
    le_now_step (fun _ ht => by cases ht)
  rcases Channel.attach_store h.outer c lastId with hst | hst
  · exact h.same rfl hnow hst
  · have hnew : (r.step (.attach c lastId)).host.store =
        (r.host.store.get r.key lastId r.host.now).2 := hst
    have hstored : (r.step (.attach c lastId)).stored =
        (r.host.store.get r.key lastId r.host.now).2.stored r.key :=
      congrArg (fun s => Store.stored s r.key) hnew
    obtain ⟨hmem, hsub, hkept⟩ := Store.mem_stored_get h.store r.key lastId r.host.now
    refine h.quiet rfl hnow (hnew ▸ hmem) (fun m hm => hsub m ?_) (fun m hm hx => ?_)
    · rwa [← hstored]
    · rw [hstored]
      exact hkept m hm hx

theorem Stocked.step (h : Stocked r) (hf : Forward r e) (hs : Supplied r e) : Stocked (r.step e) := by
  have hnow := le_now_step hf
  cases e with
  | push m => exact h.push hs
  | attach c lastId => exact h.attach c lastId
  | replay c since =>
    have hquiet : r.channel.replay r.host c since = ⟨.ok 0, r.channel, r.host⟩ := by
      simp only [Channel.replay, h.outer]
    refine h.same rfl hnow ?_
    show (r.channel.replay r.host c since).host.store = _
    rw [hquiet]
  | store s => exact hs.elim
  | faults f =>
    exact h.quiet rfl hnow ⟨h.store.memory, hs⟩ (fun m hm => hm) (fun m hm _ => hm)
  | _ => exact h.same rfl hnow rfl

theorem Stocked.run (h : Stocked r)
    (hes : Along Relay.step (fun r e => Forward r e ∧ Supplied r e) r es) : Stocked (r.run es) :=
  hes.inv Stocked (fun _ _ h hp => h.step hp.1 hp.2) h

theorem stocked_start {settings : ChannelSettings} (outer : settings.kind = .outer) (deadline : Int)
    (key : String) (now : Int) (ids : IdSource) (capacity : Nat) {faults : Faults}
    (hf : faults.history = none) :
    Stocked (start settings deadline key now ids ⟨.memory (.withCapacity capacity), faults⟩) := by
  refine ⟨?_, ⟨⟨_, rfl⟩, hf⟩, ?_, ?_, ?_⟩
  · show (Channel.new settings deadline).retention = .store
    simp only [Channel.new, outer]
  · intro m hm
    cases hm
  · intro m hm
    cases hm
  · intro m hm
    cases hm

/-! ## Saved before it is passed on -/

/-- A message for one subscriber that is written to a connection has been saved under its id when it
was passed on. -/
theorem Stocked.saved {m : Message} (h : Stocked r) (hs : Supplied r (.push m))
    (hg : m.group = .personal) (hw : (r.step (.push m)).written c ≠ r.written c) :
    ∃ id, (r.channel.push r.host r.key m).result = .ok id ∧
      (r.step (.push m)).written c = r.written c ++ [(m.withId id).push] ∧
      m.withId id ∈ (r.channel.keep r.host r.key m).host.store.stored r.key := by
  cases hp : (r.channel.push r.host r.key m).result with
  | error e => exact absurd (push_error_written hp c) hw
  | ok id =>
    obtain ⟨-, -, hkeep, -, hstore⟩ := Channel.push_ok hp
    have hwait := Channel.push_waiting hp c
    have hw' : (r.step (.push m)).written c =
        r.written c ++ if r.channel.reaches r.host id c then [(m.withId id).push] else [] :=
      written_of_waiting rfl hwait
    split at hw'
    · refine ⟨id, rfl, hw', ?_⟩
      obtain ⟨-, hsave, hst⟩ := Channel.keep_personal h.outer hg hkeep
      have hroom : r.host.store.hasRoom r.key = true := by
        simp only [Supplied, hg] at hs
        exact hs (by rw [accepts_push hp]; simp)
      rw [hst]
      exact ((Store.mem_stored_save h.store hsave hroom).2 _).2 (Or.inl rfl)
    · rw [List.append_nil] at hw'
      exact absurd hw' hw

/-- A message for one subscriber that cannot be saved is refused. -/
theorem Stocked.unsaved {m : Message} {id : Int} {e : StoreError} (h : Stocked r)
    (hg : m.group = .personal) (hd : r.host.drawId.1 = .ok id)
    (hs : (r.host.drawId.2.save r.key (m.withId id)).1 = .error e) :
    ∃ e', (r.channel.push r.host r.key m).result = .error e' := by
  cases hp : (r.channel.push r.host r.key m).result with
  | error e' => exact ⟨e', rfl⟩
  | ok id' =>
    obtain ⟨-, -, hkeep, -, -⟩ := Channel.push_ok hp
    obtain ⟨hd', hsave, -⟩ := Channel.keep_personal h.outer hg hkeep
    rw [hd] at hd'
    cases hd'
    have hs : (r.host.store.save r.key (m.withId id)).1 = .error e := hs
    rw [hsave] at hs
    cases hs

/-! ## Where the seat is -/

/-- The connection was attached with `lastId` to a channel that persists its messages. -/
structure Abreast (r : Relay) (c : ConnId) (lastId : Int) : Prop extends Stocked r where
  ordered : Ordered r c lastId
  live : Live r c
  seat : ∀ a, r.seat c = some a → a.lastId = lastId ∨ a.lastId ∈ r.issued

theorem Stocked.lawful (h : Stocked r) (hn : e.attaches c = false) : Lawful c r e :=
  ⟨hn, fun _ => Or.inr (Or.inr h.outer)⟩

theorem Abreast.step (h : Abreast r c lastId) (hn : e.attaches c = false) (hf : Forward r e)
    (hs : Supplied r e) : Abreast (r.step e) c lastId := by
  have hlaw := h.toStocked.lawful hn
  have hst := h.toStocked.step hf hs
  have hmove := step_move r e c hlaw.1 hlaw.2
  have houter := Channel.retains_eq_false_iff.2 h.outer
  refine ⟨hst, h.ordered.move hmove, h.live.step hlaw,
    hmove.seat_known (· ∈ (r.step e).issued) (fun a ha => ?_)
      (fun m hm => hst.issued m (mem_accepted_step (Or.inr hm))) (fun m hm => ?_)
      fun hk => absurd (houter.symm.trans hk) (by decide)⟩
  · rcases h.seat a ha with hq | hq
    · exact Or.inl hq
    · exact Or.inr (List.mem_append_left _ hq)
  · simp only [Channel.retained, h.outer, List.not_mem_nil] at hm

theorem Abreast.run (h : Abreast r c lastId) (hn : ∀ e ∈ es, e.attaches c = false)
    (hes : Along Relay.step (fun r e => Forward r e ∧ Supplied r e) r es) :
    Abreast (r.run es) c lastId :=
  ((along_of_forall hn).and hes).inv (fun r => Abreast r c lastId)
    (fun _ _ h hp => h.step hp.1 hp.2.1 hp.2.2) h

/-- A connection that is taken up has been fed all that the store has for it. -/
theorem Stocked.attach_fed {a : Attachment} (h : Stocked r) (hs : r.seat c = none)
    (ha : (r.step (.attach c lastId)).seat c = some a) :
    a.awaitingReplay = false ∧ (a.lastId = lastId ∨ a.lastId ∈ r.issued) ∧
      ∀ m ∈ r.stored, lastId < m.id → m.isExpired r.host.now = false →
        m.push ∈ (r.step (.attach c lastId)).written c := by
  rw [seat_step] at ha
  rw [written_step]
  simp only [act] at ha ⊢
  have ht := Channel.attach_taken r.channel r.host r.key c lastId
  generalize r.channel.attach r.host r.key c lastId = out at ht ha
  cases ht with
  | refused => exact absurd (hs.symm.trans ha) (by simp)
  | joined hr => exact absurd (h.outer.symm.trans hr) (by simp)
  | @fed ms ws b _ hf =>
    obtain ⟨asc, hms⟩ := Store.mem_of_get h.store hf.source.2
    obtain ⟨conn, -, hw⟩ := hf.wrote
    have hatt := (hf.attached c).symm.trans ha
    have hwait := hf.waiting c
    rw [if_pos rfl] at hatt hwait
    have hwritten : (r.after out).written c = r.written c ++ ws.map Message.push :=
      written_of_waiting rfl hwait
    split at hatt
    · next hfail =>
      cases hatt
      refine ⟨rfl, ?_, fun m hm hl hx => ?_⟩
      · rcases hw.last_eq with hq | ⟨m, hm, hq⟩
        · exact Or.inl hq
        · have hstored := ((hms m).1 (hw.sublist.subset hm)).1
          have hissued := h.issued m (h.accepted m hstored).1
          rw [hq] at hissued
          exact Or.inr hissued
      · rw [hwritten]
        have hin := hw.complete asc m ((hms m).2 ⟨hm, hl, hx⟩) hl hx (Or.inr hfail)
        exact List.mem_append_right _ (List.mem_map_of_mem hin)
    · cases hatt

theorem Stocked.attach_abreast (h : Stocked r) (hu : Untouched r c) (lastId : Int) :
    Abreast (r.step (.attach c lastId)) c lastId := by
  refine ⟨h.attach c lastId, hu.attach lastId, fun a ha => (h.attach_fed hu.1 ha).1, fun a ha => ?_⟩
  rcases (h.attach_fed hu.1 ha).2.1 with hq | hq
  · exact Or.inl hq
  · exact Or.inr (List.mem_append_left _ hq)

theorem Stocked.lawful_run (h : Stocked r) (hn : ∀ e ∈ es, e.attaches c = false)
    (hes : Along Relay.step (fun r e => Forward r e ∧ Supplied r e) r es) :
    Along Relay.step (Lawful c) r es := by
  induction es generalizing r with
  | nil => trivial
  | cons e es ih =>
    exact ⟨h.lawful (hn e List.mem_cons_self), ih (h.step hes.1.1 hes.1.2)
      (fun e' he' => hn e' (List.mem_cons_of_mem e he')) hes.2⟩

/-- A message for one subscriber that is accepted goes out above all seats. -/
theorem Abreast.push {m : Message} {id : Int} (h : Abreast r c lastId) (hi : Issuing r (.push m))
    (hg : m.group = .personal) (hok : (r.channel.push r.host r.key m).result = .ok id)
    (hl : lastId < id) (hs : (r.seat c).isSome = true) (hroom : r.host.hasRoom c = true) :
    (m.withId id).push ∈ (r.step (.push m)).written c := by
  obtain ⟨a, ha⟩ := Option.isSome_iff_exists.1 hs
  have habove : ∀ i ∈ r.issued, i < id := fun i hmem => by
    have hp : (r.issued ++ r.issues (.push m)).Pairwise (· < ·) := hi
    rw [issues_personal h.outer hg hok] at hp
    exact (List.pairwise_append.1 hp).2.2 i hmem id (List.mem_singleton_self _)
  refine h.live.push ha hok ?_ hroom
  rcases h.seat a ha with hq | hq
  · rwa [hq]
  · exact habove _ hq

/-! ## Once and in order -/

/-- Let a channel persist its messages in a store in memory that is empty at first, that has room for
what it is to hold, and whose calls may fail, and let the source issue ever greater ids.

A message for one subscriber that is written to a connection has been saved before, under the id it is
written with; and if it cannot be saved it is written to nobody.

Let a connection be attached once, with `lastId`.  Then what it is written ascends; all that the store
has for it when it is attached is written to it once; and so is every message for one subscriber that
is accepted later above `lastId` while the connection is attached and has room. -/
theorem saved_then_written_once (settings : ChannelSettings) (deadline : Int) (key : String)
    (now : Int) (ids : IdSource) (capacity : Nat) (faults : Faults) (es : List Event)
    (outer : settings.kind = .outer) (honest : faults.history = none) :
    let r := start settings deadline key now ids ⟨.memory (.withCapacity capacity), faults⟩
    Along Relay.step (fun r e => Forward r e ∧ Supplied r e) r es →
    (r.run es).issued.Pairwise (· < ·) →
    (∀ pre m post, es = pre ++ .push m :: post → m.group = .personal →
      let live := r.run pre
      let push := live.channel.push live.host live.key m
      (∀ c, (live.step (.push m)).written c ≠ live.written c → ∃ id, push.result = .ok id ∧
        (live.step (.push m)).written c = live.written c ++ [(m.withId id).push] ∧
        m.withId id ∈ (live.channel.keep live.host live.key m).host.store.stored live.key) ∧
      ∀ id e, live.host.drawId.1 = .ok id →
        (live.host.drawId.2.save live.key (m.withId id)).1 = .error e →
        (∃ e', push.result = .error e') ∧
          ∀ c, (live.step (.push m)).written c = live.written c) ∧
    ∀ c pre lastId post, es = pre ++ .attach c lastId :: post →
      es.countP (Event.attaches c) ≤ 1 →
      let before := r.run pre
      let attached := before.step (.attach c lastId)
      ((r.run es).written c).Pairwise (fun p q => p.id < q.id) ∧
      (∀ m, m.isExpired before.host.now = false →
        (m ∈ before.stored ↔ m ∈ before.accepted ∧ m.group = .personal)) ∧
      ((attached.seat c).isSome = true → ∀ m ∈ before.stored, lastId < m.id →
        m.isExpired before.host.now = false → WrittenOnce (r.run es) c m.push) ∧
      ∀ mid m tail id, post = mid ++ .push m :: tail → m.group = .personal →
        let live := attached.run mid
        (live.channel.push live.host live.key m).result = .ok id → lastId < id →
        (live.seat c).isSome = true → live.host.hasRoom c = true →
        WrittenOnce (r.run es) c (m.withId id).push := by
  intro r supplied increasing
  have hstart : Stocked r := stocked_start outer deadline key now ids capacity honest
  have hissuing : Along Relay.step Issuing r es := along_issuing increasing
  constructor
  · rintro pre m post rfl hg live push
    obtain ⟨hpre, hpush, -⟩ := along_append.1 supplied
    have hlive : Stocked live := hstart.run hpre
    refine ⟨fun c hw => hlive.saved hpush.2 hg hw, fun id e hd hs => ?_⟩
    obtain ⟨e', he'⟩ := hlive.unsaved hg hd hs
    exact ⟨⟨e', he'⟩, push_error_written he'⟩
  · rintro c pre lastId post rfl once before attached
    obtain ⟨hpre, hatt, hpost⟩ := along_append.1 supplied
    obtain ⟨-, -, hissue⟩ := along_append.1 hissuing
    obtain ⟨hnpre, hnpost⟩ := attaches_eq_false once
    have hbefore : Stocked before := hstart.run hpre
    have hu : Untouched before c :=
      (untouched_start settings deadline key now ids _ c).run (hstart.lawful_run hnpre hpre)
    have habr : Abreast attached c lastId := hbefore.attach_abreast hu lastId
    have hrun : r.run (pre ++ .attach c lastId :: post) = attached.run post := by
      rw [run_append, run_cons]
    have hord : Ordered (attached.run post) c lastId := (habr.run hnpost hpost).ordered
    have hlaw := habr.toStocked.lawful_run (c := c) hnpost hpost
    rw [hrun]
    refine ⟨hord.ascending, fun m hx => ⟨hbefore.accepted m, fun hm => hbefore.kept m hm.1 hm.2 hx⟩,
      fun hs m hm hl hx => ?_, ?_⟩
    · obtain ⟨a, ha⟩ := Option.isSome_iff_exists.1 hs
      exact hord.writtenOnce ((hbefore.attach_fed hu.1 ha).2.2 m hm hl hx) hlaw
    · rintro mid m tail id rfl hg live hok hl hs hroom
      obtain ⟨hmid, hpush, htail⟩ := along_append.1 hpost
      have hnmid : ∀ e ∈ mid, e.attaches c = false := fun e he =>
        hnpost e (List.mem_append_left _ he)
      have hlive : Abreast live c lastId := habr.run hnmid hmid
      have hin := hlive.push (along_append.1 hissue).2.1 hg hok hl hs hroom
      rw [run_append, run_cons] at hord ⊢
      exact hord.writtenOnce hin (along_append.1 hlaw).2.2

theorem saved_then_written_once_across_a_failure :
    let m (group : Group) (id : Int) (expire : Int) : Message := ⟨id, [], group, expire⟩
    let r := start ⟨.outer, 8, 8, none, 1⟩ 0 "k" 10 .time ⟨.memory (.withCapacity 3), .none⟩
    -- the messages of the first pushes get the ids 10, 11 and 20; the second one expires in time
    let pre : List Event := [.connect 4, .push (m .personal 0 100), .push (m .personal 0 15), .clock 20,
      .push (m .personal 0 100)]
    -- id 21 is drawn for a broadcast, 22 is lost with a save that fails, and 23 goes out
    let mid : List Event := [.draw, .push (m .broadcast 21 100),
      .faults ⟨some (.unavailable "down"), none, none⟩, .push (m .personal 0 100), .faults .none]
    let es := pre ++ .attach 1 5 :: (mid ++ .push (m .personal 0 100) :: [.detach 1])
    let attached := (r.run pre).step (.attach 1 5)
    let live := attached.run mid
    (Along Relay.step (fun r e => Forward r e ∧ Supplied r e) r es ∧
      (r.run es).issued.Pairwise (· < ·) ∧ es.countP (Event.attaches 1) ≤ 1) ∧
    ((r.run es).written 1).map (·.id) = [10, 20, 21, 23] ∧
    ((r.run es).written 1).Pairwise (fun p q => p.id < q.id) ∧
    (m .personal 20 100 ∈ (r.run pre).stored ∧
      WrittenOnce (r.run es) 1 (m .personal 20 100).push) ∧
    ((live.channel.push live.host live.key (m .personal 0 100)).result = .ok 23 ∧
      WrittenOnce (r.run es) 1 (m .personal 23 100).push) := by
  intro m r pre mid es attached live
  have supplied : Along Relay.step (fun r e => Forward r e ∧ Supplied r e) r es := by decide
  have increasing : (r.run es).issued.Pairwise (· < ·) := by decide
  have once : es.countP (Event.attaches 1) ≤ 1 := by decide
  have hmem : m .personal 20 100 ∈ (r.run pre).stored := by decide
  have hok : (live.channel.push live.host live.key (m .personal 0 100)).result = .ok 23 :=
    (result_of_mem_accepts
      (by decide : m .personal 23 100 ∈ live.accepts (.push (m .personal 0 100)))).1
  obtain ⟨-, h⟩ := saved_then_written_once ⟨.outer, 8, 8, none, 1⟩ 0 "k" 10 .time 3 .none es rfl rfl
    supplied increasing
  obtain ⟨hasc, -, hhistory, hlive⟩ := h 1 pre 5 _ rfl once
  have h20 := hhistory (by decide) _ hmem (by decide) (by decide)
  have h23 := hlive mid _ [.detach 1] 23 rfl rfl hok (by decide) (by decide) (by decide)
  exact ⟨⟨supplied, increasing, once⟩, by decide, hasc, ⟨hmem, h20⟩, hok, h23⟩

end Relay

end PushRelay
