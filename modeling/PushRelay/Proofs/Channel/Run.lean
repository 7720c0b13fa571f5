import PushRelay.Proofs.Along
import PushRelay.Proofs.Channel.Steps

/-!
# Channels at work

A `Relay` is a channel at work on its host, under the key it has, together with a record of what went
through it.  An `Event` is an operation of the channel, or something that happens around it: to a
queue, to the clock, to the offline store.  `Relay.run` takes a relay through any list of events.

`written r c` is all that was ever written to a connection.  `step_move` says in which ways one event
can change it.

    e.attaches c = false → ReplaysAttached c r e → Move c r e (r.step e)                   (step_move)
-/

namespace PushRelay

structure Relay where
  channel : Channel
  host : Host
  /-- The key that the channel has. -/
  key : String
  /-- What has left the queue of each connection, read or lost with its reader. -/
  gone : ConnId → List Push
  /-- The messages whose push was accepted, in that order and under the ids they went out with. -/
  accepted : List Message
  /-- The ids drawn from the source for one purpose or the other, in that order. -/
  issued : List Int

inductive Event where
  | push (m : Message)
  | attach (c : ConnId) (lastId : Int)
  | replay (c : ConnId) (since : Int)
  | detach (c : ConnId)
  | close
  /-- A new connection is made. -/
  | connect (depth : Nat)
  /-- The reader of a connection takes a payload off its queue. -/
  | receive (c : ConnId)
  /-- The reader of a connection goes. -/
  | hangUp (c : ConnId)
  /-- Somebody asks a connection to close. -/
  | dismiss (c : ConnId)
  /-- The deadline of the channel is put off. -/
  | postpone (deadline : Int)
  /-- The clock shows a time. -/
  | clock (now : Int)
  /-- Somebody draws an id. -/
  | draw
  /-- The offline store becomes another one. -/
  | store (s : Store)
  /-- Calls of the offline store begin to fail, or to work again. -/
  | faults (f : Faults)

namespace Event

/-- Whether an event is an attempt to attach the connection. -/
def attaches (c : ConnId) : Event → Bool
  | .attach c' _ => c' == c
  | _ => false

/-- The id behind which an event is to replay the backlog to the connection. -/
def since? (c : ConnId) : Event → Option Int
  | .replay c' since => if c' = c then some since else none
  | _ => none

/-- The time that an event sets the clock to. -/
def time? : Event → Option Int
  | .clock now => some now
  | _ => none

end Event

namespace Relay

/-! ## Events and runs -/

/-- A new channel on a host on which nothing has happened. -/
def start (settings : ChannelSettings) (deadline : Int) (key : String) (now : Int) (ids : IdSource)
    (store : Store) : Relay :=
  ⟨.new settings deadline, .new now ids store, key, fun _ => [], [], []⟩

/-- What was ever written to a connection. -/
def written (r : Relay) (c : ConnId) : List Push := r.gone c ++ r.host.waiting c

/-- What the channel knows of a connection, if it is attached. -/
def seat (r : Relay) (c : ConnId) : Option Attachment := r.channel.attached.get? c

/-- What waits on a connection is gone. -/
def retire (r : Relay) (c : ConnId) : Relay :=
  { r with gone := fun c' => if c' = c then r.written c else r.gone c' }

def after {α : Type} (r : Relay) (out : Outcome α) : Relay :=
  { r with channel := out.channel, host := out.host }

/-- What an event does. -/
def act (r : Relay) : Event → Relay
  | .push m => r.after (r.channel.push r.host r.key m)
  | .attach c lastId => r.after (r.channel.attach r.host r.key c lastId)
  | .replay c since => r.after (r.channel.replay r.host c since)
  | .detach c => { r with channel := r.channel.detach c }
  | .close => { r with channel := (r.channel.close r.host).1, host := (r.channel.close r.host).2 }
  | .connect depth => { r.retire r.host.nextConn with host := (r.host.connect depth).2 }
  | .receive c =>
    { r with
      host := r.host.updateConn c fun conn => conn.receive.2
      gone := fun c' => if c' = c then r.gone c ++ (r.host.waiting c).take 1 else r.gone c' }
  | .hangUp c => { r.retire c with host := r.host.updateConn c Connection.dropReader }
  | .dismiss c => { r with host := r.host.closeConn c }
  | .postpone deadline => { r with channel := r.channel.setDeadline deadline }
  | .clock now => { r with host := { r.host with now } }
  | .draw => { r with host := r.host.drawId.2 }
  | .store s => { r with host := { r.host with store := s } }
  | .faults faults => { r with host := { r.host with store := { r.host.store with faults } } }

/-- The message that a push brings in, if it is accepted. -/
def accepts (r : Relay) : Event → List Message
  | .push m =>
    match (r.channel.push r.host r.key m).result with
    | .ok id => [m.withId id]
    | .error _ => []
  | _ => []

/-- The id that an event draws from the source and makes known. -/
def issues (r : Relay) : Event → List Int
  | .push m =>
    if r.channel.retention = .store ∧ m.group = .personal then
      (r.accepts (.push m)).map (·.id)
    else []
  | .draw =>
    match r.host.drawId.1 with
    | .ok id => [id]
    | .error _ => []
  | _ => []

def step (r : Relay) (e : Event) : Relay :=
  { r.act e with accepted := r.accepted ++ r.accepts e, issued := r.issued ++ r.issues e }

def run (r : Relay) (es : List Event) : Relay := es.foldl step r

@[simp] theorem run_nil (r : Relay) : r.run [] = r := rfl

@[simp] theorem run_cons (r : Relay) (e : Event) (es : List Event) :
    r.run (e :: es) = (r.step e).run es := rfl

theorem run_append (r : Relay) (es fs : List Event) : r.run (es ++ fs) = (r.run es).run fs :=
  List.foldl_append

variable {r r' : Relay} {es fs : List Event} {c : ConnId}

theorem mem_accepted_step {e : Event} {m : Message} (h : m ∈ r.accepted ∨ m ∈ r.accepts e) :
    m ∈ (r.step e).accepted := List.mem_append.2 h

/-- The messages accepted in a run, in that order. -/
def accepting (r : Relay) : List Event → List Message
  | [] => []
  | e :: es => r.accepts e ++ (r.step e).accepting es

theorem accepted_run (r : Relay) (es : List Event) :
    (r.run es).accepted = r.accepted ++ r.accepting es := by
  induction es generalizing r with
  | nil => exact (List.append_nil _).symm
  | cons e es ih =>
    have ih' := ih (r.step e)
    rw [show (r.step e).accepted = r.accepted ++ r.accepts e from rfl, List.append_assoc] at ih'
    exact ih'

/-! ## What an event does to one connection -/

/-- A connection is replayed only while it is attached.  A channel that is closed, or that persists its
messages, would not write to it anyway. -/
def ReplaysAttached (c : ConnId) (r : Relay) (e : Event) : Prop :=
  (e.since? c).isSome = true →
    (r.seat c).isSome = true ∨ r.channel.closed = true ∨ r.channel.retention = .store

instance (c : ConnId) (r : Relay) (e : Event) : Decidable (ReplaysAttached c r e) :=
  inferInstanceAs (Decidable (_ → _))

/-- Whether an event is a replay to the connection that succeeds. -/
def completes (r : Relay) (c : ConnId) : Event → Bool
  | .replay c' since => c' == c && (r.channel.replay r.host c since).result.isOk
  | _ => false

/-- A replay has written `ws` out of what is retained and has moved the seat of the connection from `a`
to `last`. -/
structure Progress (r : Relay) (c : ConnId) (since : Int) (a : Attachment) (ws : List Message)
    (last : Int) (r' : Relay) : Prop where
  retains : r.channel.retains = true
  seat : r'.seat c = some ⟨last, a.awaitingReplay && !r.completes c (.replay c since)⟩
  written : r'.written c = r.written c ++ ws.map Message.push
  retained : ∀ m ∈ ws, m ∈ r.channel.retained
  ascending : ws.Pairwise fun a b => a.id < b.id
  above : ∀ m ∈ ws, max a.lastId since < m.id
  upto : ∀ m ∈ ws, m.id ≤ last
  le_last : max a.lastId since ≤ last
  last_eq : last = max a.lastId since ∨ ∃ m ∈ ws, m.id = last
  /-- Nothing unexpired is left out below the new seat, and nothing at all by a replay that succeeds. -/
  complete : ∀ m ∈ r.channel.retained, max a.lastId since < m.id → m.isExpired r.host.now = false →
    m.id ≤ last ∨ r.completes c (.replay c since) = true → m ∈ ws

/-- The ways in which a connection can fare. -/
inductive Move (c : ConnId) (r : Relay) : Event → Relay → Prop
  | idle {e : Event} {r' : Relay} (hw : r'.written c = r.written c) (ha : r'.seat c = r.seat c) :
      Move c r e r'
  | left {e : Event} {r' : Relay} (hw : r'.written c = r.written c) (ha : r'.seat c = none) :
      Move c r e r'
  /-- An accepted push is written to it. -/
  | live {e : Event} {r' : Relay} {a : Attachment} {m : Message} (hm : m ∈ r.accepts e)
      (h : r.seat c = some a) (hd : a.awaitingReplay = false) (hl : a.lastId < m.id)
      (hw : r'.written c = r.written c ++ [m.push]) (ha : r'.seat c = some { a with lastId := m.id }) :
      Move c r e r'
  /-- A part of the backlog is written to it. -/
  | caughtUp {r' : Relay} {since : Int} {a : Attachment} {ws : List Message} {last : Int}
      (h : r.seat c = some a) (hp : Progress r c since a ws last r') : Move c r (.replay c since) r'

theorem seat_step (r : Relay) (e : Event) (c : ConnId) : (r.step e).seat c = (r.act e).seat c := rfl

theorem written_step (r : Relay) (e : Event) (c : ConnId) :
    (r.step e).written c = (r.act e).written c := rfl

theorem Progress.step {since : Int} {a : Attachment} {ws : List Message} {last : Int} {e : Event}
    (hp : Progress r c since a ws last (r.act e)) : Progress r c since a ws last (r.step e) :=
  { hp with seat := hp.seat, written := hp.written }

/-- Where nothing leaves a queue, what is written to a connection is what comes to wait on it. -/
theorem written_of_waiting {ws : List Push} (hg : r'.gone c = r.gone c)
    (hw : r'.host.waiting c = r.host.waiting c ++ ws) : r'.written c = r.written c ++ ws := by
  unfold written
  rw [hg, hw, List.append_assoc]

theorem written_of_waiting_eq (hg : r'.gone c = r.gone c)
    (hw : r'.host.waiting c = r.host.waiting c) : r'.written c = r.written c := by
  unfold written
  rw [hg, hw]

theorem accepts_push {m : Message} {id : Int}
    (hok : (r.channel.push r.host r.key m).result = .ok id) : r.accepts (.push m) = [m.withId id] := by
  simp only [accepts, hok]

theorem result_of_mem_accepts {m k : Message} (hk : k ∈ r.accepts (.push m)) :
    (r.channel.push r.host r.key m).result = .ok k.id ∧ k = m.withId k.id := by
  cases hp : (r.channel.push r.host r.key m).result with
  | error e => simp only [accepts, hp, List.not_mem_nil] at hk
  | ok id =>
    rw [accepts_push hp, List.mem_singleton] at hk
    rw [hk]
    exact ⟨rfl, rfl⟩

/-- A push that is refused is written to nobody. -/
theorem push_error_written {m : Message} {e : ChannelError}
    (he : (r.channel.push r.host r.key m).result = .error e) (c : ConnId) :
    (r.step (.push m)).written c = r.written c :=
  written_of_waiting_eq rfl (Host.waiting_congr (Channel.push_error he).2 c)

theorem push_move (r : Relay) (m : Message) (c : ConnId) :
    Move c r (.push m) (r.act (.push m)) := by
  cases hp : (r.channel.push r.host r.key m).result with
  | error e =>
    refine .idle (push_error_written hp c) ?_
    show (r.channel.push r.host r.key m).channel.attached.get? c = _
    rw [(Channel.push_error hp).1]
    rfl
  | ok id =>
    have hw := Channel.push_waiting hp c
    have ha := Channel.push_attached hp c
    by_cases hr : r.channel.reaches r.host id c = true
    · obtain ⟨a, hat, hd, hl, -⟩ := Channel.reaches_iff.1 hr
      have hm : m.withId id ∈ r.accepts (.push m) := by
        rw [accepts_push hp]
        exact List.mem_singleton_self _
      rw [if_pos hr] at hw
      refine .live hm hat hd hl (written_of_waiting rfl hw) ?_
      show (r.channel.push r.host r.key m).channel.attached.get? c = _
      rw [ha, hat, Option.map_some, if_pos hr]
      rfl
    · rw [if_neg hr, List.append_nil] at hw
      refine .idle (written_of_waiting_eq rfl hw) ?_
      show (r.channel.push r.host r.key m).channel.attached.get? c = _
      rw [ha]
      simp only [hr, Bool.false_eq_true, if_false, Option.map_id']
      rfl

/-- A push neither attaches a connection nor lets it go. -/
theorem seat_push (r : Relay) (m : Message) (c : ConnId) :
    ((r.step (.push m)).seat c).isSome = (r.seat c).isSome := by
  show ((r.channel.push r.host r.key m).channel.attached.get? c).isSome =
    (r.channel.attached.get? c).isSome
  cases hp : (r.channel.push r.host r.key m).result with
  | error e => rw [(Channel.push_error hp).1]
  | ok id => rw [Channel.push_attached hp c, Option.isSome_map]

/-- What a replay writes to a connection that is attached. -/
theorem replay_progress {since : Int} {a : Attachment} {messages : MessageLog}
    {b : Channel.Backlog} {ws : List Message} (ha : r.seat c = some a)
    (ht : Channel.Replay r.channel r.host c since messages b ws (r.channel.replay r.host c since)) :
    Progress r c since a ws b.last (r.act (.replay c since)) := by
  have hat : r.channel.attached.get? c = some a := ha
  have hstart : r.channel.replayStart c since = max a.lastId since := by
    simp only [Channel.replayStart, hat]
  obtain ⟨bound, hret, -⟩ := ht.source
  obtain ⟨conn, -, hw⟩ := ht.wrote
  rw [hstart] at hw
  have hcomp : r.completes c (.replay c since) = b.failure.isNone := by
    simp only [completes, beq_self_eq_true, Bool.true_and, ht.result]
    cases b.failure <;> rfl
  have hwait := ht.waiting c
  have hatt := ht.attached c
  rw [if_pos rfl] at hwait hatt
  have hlast := hw.le_last
  refine ⟨?_, ?_, written_of_waiting rfl hwait, fun m hm => ?_, hw.ascending, hw.above, hw.upto, hlast,
    hw.last_eq, fun m hm hlt hx hd => ?_⟩
  · simp only [Channel.retains, hret]
  · rw [hat, Option.map_some] at hatt
    rw [hcomp, Option.not_isNone, ← Int.max_eq_right (by omega : a.lastId ≤ b.last)]
    exact hatt
  · rw [Channel.retained_log hret]
    exact (MessageLog.mem_after.1 (hw.sublist.subset hm)).1
  · rw [Channel.retained_log hret] at hm
    rw [hcomp, Option.isNone_iff_eq_none] at hd
    have hafter : m ∈ messages.after (max a.lastId since) := MessageLog.mem_after.2 ⟨hm, hlt⟩
    exact hw.complete (MessageLog.after_ascending _ _) m (hstart ▸ hafter) hlt hx hd

theorem replay_move (r : Relay) (c' : ConnId) (since : Int) (c : ConnId)
    (h : ReplaysAttached c r (.replay c' since)) :
    Move c r (.replay c' since) (r.act (.replay c' since)) := by
  have hp := Channel.replay_replayed r.channel r.host c' since
  show Move c r _ (r.after (r.channel.replay r.host c' since))
  generalize hout : r.channel.replay r.host c' since = out at hp
  cases hp with
  | quiet => exact .idle rfl rfl
  | @tried messages b ws _ ht =>
    subst hout
    by_cases e : c = c'
    · subst e
      rcases h (by simp [Event.since?]) with hs | hs | hs
      · obtain ⟨a, ha⟩ := Option.isSome_iff_exists.1 hs
        exact .caughtUp ha (replay_progress ha ht)
      · exact absurd (hs.symm.trans ht.opened) (by decide)
      · obtain ⟨bound, hret, -⟩ := ht.source
        rw [hs] at hret
        cases hret
    · have hwait := ht.waiting c
      have hatt := ht.attached c
      rw [if_neg e, List.append_nil] at hwait
      rw [if_neg e] at hatt
      exact .idle (written_of_waiting_eq rfl hwait) hatt

/-- A replay that succeeds has had a backlog to write. -/
theorem tried_of_completes {since : Int} (hk : r.channel.retains = true)
    (h : r.completes c (.replay c since) = true) :
    ∃ messages b ws, Channel.Replay r.channel r.host c since messages b ws
      (r.channel.replay r.host c since) := by
  have hp := Channel.replay_replayed r.channel r.host c since
  generalize hout : r.channel.replay r.host c since = out at hp
  cases hp with
  | quiet hq =>
    rcases hq with hq | ⟨e, rfl⟩
    · simp only [Channel.retains, hq, Bool.false_eq_true] at hk
    · simp only [completes, hout, Except.isOk, Except.toBool, Bool.and_false, Bool.false_eq_true] at h
  | tried ht => exact ⟨_, _, _, ht⟩

theorem progress_of_completes {since : Int} {a : Attachment} (hk : r.channel.retains = true)
    (ha : r.seat c = some a) (h : r.completes c (.replay c since) = true) :
    ∃ ws last, Progress r c since a ws last (r.step (.replay c since)) := by
  obtain ⟨messages, b, ws, ht⟩ := tried_of_completes hk h
  exact ⟨ws, b.last, (replay_progress ha ht).step⟩

/-- A replay succeeds only while the connection is attached. -/
theorem seat_of_completes {since : Int} (hk : r.channel.retains = true)
    (ho : ReplaysAttached c r (.replay c since)) (h : r.completes c (.replay c since) = true) :
    ∃ a, r.seat c = some a := by
  obtain ⟨messages, b, ws, ht⟩ := tried_of_completes hk h
  rcases ho (by simp [Event.since?]) with hs | hs | hs
  · exact Option.isSome_iff_exists.1 hs
  · exact absurd (hs.symm.trans ht.opened) (by decide)
  · simp only [Channel.retains, hs, Bool.false_eq_true] at hk

theorem attach_other_move (r : Relay) (c' : ConnId) (lastId : Int) (c : ConnId) (h : c ≠ c') :
    Move c r (.attach c' lastId) (r.act (.attach c' lastId)) := by
  have hp := Channel.attach_taken r.channel r.host r.key c' lastId
  show Move c r _ (r.after (r.channel.attach r.host r.key c' lastId))
  generalize r.channel.attach r.host r.key c' lastId = out at hp
  cases hp with
  | refused hh =>
    have hw := Host.waiting_congr (Channel.conns_of_refused hh) c
    exact .idle (written_of_waiting_eq rfl hw) rfl
  | joined =>
    refine .idle rfl ?_
    show (r.channel.attached.insert c' ⟨lastId, true⟩).get? c = _
    rw [Table.get?_insert, if_neg h]
    rfl
  | fed hf =>
    have hwait := hf.waiting c
    have hatt := hf.attached c
    rw [if_neg h, List.append_nil] at hwait
    rw [if_neg h] at hatt
    exact .idle (written_of_waiting_eq rfl hwait) hatt

/-- Closing a connection, or asking it to close, takes nothing off its queue. -/
theorem waiting_close (h : Host) (c c' : ConnId) : (h.closeConn c').waiting c = h.waiting c := by
  unfold Host.closeConn
  rw [Host.waiting_updateConn]
  split
  · next e => rw [e]; rfl
  · rfl

theorem connect_written (r : Relay) (depth : Nat) (c : ConnId) :
    (r.act (.connect depth)).written c = r.written c := by
  simp only [act, written, retire, Host.connect, Host.waiting, Table.get?_insert]
  by_cases e : c = r.host.nextConn
  · subst e
    simp [Connection.new]
  · simp [e]

theorem receive_written (r : Relay) (c' c : ConnId) :
    (r.act (.receive c')).written c = r.written c := by
  simp only [act, written, Host.waiting_updateConn]
  by_cases e : c = c'
  · subst e
    cases hc : r.host.conns.get? c with
    | none => simp [Host.waiting, hc]
    | some conn =>
      simp only [if_true, Host.waiting_of_get? hc, Option.map_some, Option.getD_some]
      cases hw : conn.waiting <;> simp [Connection.receive, hw]
  · simp [e]

theorem hangUp_written (r : Relay) (c' c : ConnId) :
    (r.act (.hangUp c')).written c = r.written c := by
  simp only [act, written, retire, Host.waiting_updateConn]
  by_cases e : c = c'
  · subst e
    cases hc : r.host.conns.get? c <;> simp [Host.waiting, hc, Connection.dropReader]
  · simp [e]

/-- Everything but attaching the connection moves it in one of these ways. -/
theorem step_move (r : Relay) (e : Event) (c : ConnId) (hatt : e.attaches c = false)
    (hrep : ReplaysAttached c r e) : Move c r e (r.step e) := by
  have hact : Move c r e (r.act e) := by
    cases e with
    | push m => exact push_move r m c
    | attach c' lastId =>
      exact attach_other_move r c' lastId c (by
        rintro rfl
        simp [Event.attaches] at hatt)
    | replay c' since => exact replay_move r c' since c hrep
    | detach c' =>
      have hd := Channel.detach_attached r.channel c' c
      by_cases e : c = c'
      · exact .left rfl (hd.trans (if_pos e))
      · exact .idle rfl (hd.trans (if_neg e))
    | close =>
      exact .left (written_of_waiting_eq rfl (Channel.close_waiting _ _ c))
        (Channel.close_attached r.channel r.host c)
    | connect depth => exact .idle (connect_written r depth c) rfl
    | receive c' => exact .idle (receive_written r c' c) rfl
    | hangUp c' => exact .idle (hangUp_written r c' c) rfl
    | dismiss c' => exact .idle (written_of_waiting_eq rfl (waiting_close _ _ _)) rfl
    | postpone deadline => exact .idle rfl rfl
    | clock now => exact .idle rfl rfl
    | draw => exact .idle rfl rfl
    | store s => exact .idle rfl rfl
    | faults f => exact .idle rfl rfl
  cases hact with
  | idle hw ha => exact .idle hw ha
  | left hw ha => exact .left hw ha
  | live hm h hd hl hw ha => exact .live hm h hd hl hw ha
  | caughtUp h hp => exact .caughtUp h hp.step

/-- Attaching a connection writes an ascending part of the backlog to it, and puts its seat behind
that. -/
theorem attach_written (r : Relay) (c : ConnId) (lastId : Int) (hs : r.seat c = none) :
    ∃ ws : List Message, ws.Pairwise (fun a b => a.id < b.id) ∧ (∀ m ∈ ws, lastId < m.id) ∧
      (r.step (.attach c lastId)).written c = r.written c ++ ws.map Message.push ∧
      ∀ a, (r.step (.attach c lastId)).seat c = some a →
        lastId ≤ a.lastId ∧ ∀ m ∈ ws, m.id ≤ a.lastId := by
  simp only [seat_step, written_step, act]
  have hp := Channel.attach_taken r.channel r.host r.key c lastId
  generalize r.channel.attach r.host r.key c lastId = out at hp
  cases hp with
  | refused hh =>
    refine ⟨[], .nil, by simp, ?_, fun a ha => ?_⟩
    · rw [List.map_nil, List.append_nil]
      exact written_of_waiting_eq rfl (Host.waiting_congr (Channel.conns_of_refused hh) c)
    · exact absurd (hs.symm.trans ha) (by simp)
  | joined =>
    refine ⟨[], .nil, by simp, (List.append_nil _).symm, fun a ha => ?_⟩
    have hi : (r.channel.attached.insert c ⟨lastId, true⟩).get? c = some a := ha
    rw [Table.get?_insert, if_pos rfl] at hi
    cases hi
    exact ⟨Int.le_refl _, by simp⟩
  | @fed ms ws b out hf =>
    obtain ⟨conn, -, hw⟩ := hf.wrote
    have hwait := hf.waiting c
    have hatt := hf.attached c
    rw [if_pos rfl] at hwait hatt
    refine ⟨ws, hw.ascending, hw.above, written_of_waiting rfl hwait, fun a ha => ?_⟩
    have ha' := hatt.symm.trans ha
    split at ha'
    · cases ha'
      exact ⟨hw.le_last, hw.upto⟩
    · cases ha'

/-! ## What an event does to the rest -/

/-- The clock is never set back. -/
def Forward (r : Relay) (e : Event) : Prop := ∀ now ∈ e.time?, r.host.now ≤ now

instance (r : Relay) (e : Event) : Decidable (Forward r e) :=
  inferInstanceAs (Decidable (∀ now ∈ e.time?, r.host.now ≤ now))

theorem le_now_step {e : Event} (h : Forward r e) : r.host.now ≤ (r.step e).host.now := by
  show r.host.now ≤ (r.act e).host.now
  cases e with
  | push m => exact Channel.le_now_push _ _ _ _
  | attach c lastId =>
    have hp := Channel.attach_taken r.channel r.host r.key c lastId
    show r.host.now ≤ (r.channel.attach r.host r.key c lastId).host.now
    generalize r.channel.attach r.host r.key c lastId = out at hp
    cases hp with
    | refused hh => rcases hh with rfl | rfl <;> exact Int.le_refl _
    | joined => exact Int.le_refl _
    | fed hf => exact Int.le_of_eq hf.now.symm
  | replay c since =>
    have hp := Channel.replay_replayed r.channel r.host c since
    show r.host.now ≤ (r.channel.replay r.host c since).host.now
    generalize r.channel.replay r.host c since = out at hp
    cases hp with
    | quiet => exact Int.le_refl _
    | tried ht => exact Int.le_of_eq ht.now.symm
  | clock now => exact h now rfl
  | draw => exact r.host.le_now_drawId
  | _ => exact Int.le_refl _

theorem retains_step (r : Relay) (e : Event) : (r.step e).channel.retains = r.channel.retains := by
  show (r.act e).channel.retains = _
  cases e with
  | push m => exact (Channel.push_retains _ _ _ _).1
  | attach c lastId => exact Channel.retains_congr (Channel.attach_retention _ _ _ _ _)
  | replay c since => exact (Channel.replay_retains _ _ _ _).1
  | close => exact (Channel.close_retains r.channel r.host).1
  | _ => rfl

/-- Only an accepted push adds to what is retained. -/
theorem mem_retained_step {e : Event} {m : Message} (h : m ∈ (r.step e).channel.retained) :
    m ∈ r.channel.retained ∨ m ∈ r.accepts e := by
  have h' : m ∈ (r.act e).channel.retained := h
  cases e with
  | push a =>
    rcases (Channel.push_retains r.channel r.host r.key a).2 m h' with hm | ⟨id, hok, rfl⟩
    · exact Or.inl hm
    · refine Or.inr ?_
      simp only [accepts, hok, List.mem_singleton]
  | attach c lastId =>
    have hr := Channel.retained_congr (Channel.attach_retention r.channel r.host r.key c lastId)
    exact Or.inl (hr ▸ h')
  | replay c since => exact Or.inl ((Channel.replay_retains r.channel r.host c since).2 m h')
  | close =>
    have hr := (Channel.close_retains r.channel r.host).2
    have h' : m ∈ (r.channel.close r.host).1.retained := h'
    rw [hr] at h'
    cases h'
  | _ => exact Or.inl h'

end Relay

end PushRelay
