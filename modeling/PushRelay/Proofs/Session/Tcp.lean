import Mathlib.Data.List.TakeWhile
import PushRelay.Proofs.Along
import PushRelay.Proofs.Node.Idle
import PushRelay.Proofs.Wire.RoundTrip
import PushRelay.Session.Tcp

/-!
# No octet of a session is lost

A client may go on with heartbeats right behind its request, without waiting for an answer, so that octets
which come with the end of the request belong to the session already.  `Answered s octets st` says what has
become of a session that has been sent `octets` behind its request: each heartbeat in front of the first
other octet has one reply, and that octet has ended the session.  While nobody disturbs the session, and as
long as its deadlines are instants, it does not matter how the octets are cut, or what else happens to the
node.

    Answered s octets st → Answered s (octets ++ ts.flatMap TcpTurn.octets) (st.turns ts)   (Answered.turns)
    ts.flatMap TcpTurn.octets = r.encode ++ t → Answered s t ((accepted n).turns ts)
                                                                             (answered_of_handshake)
-/

namespace PushRelay

/-! ## Turns -/

/-- What happens to a session, or to the node around it. -/
inductive TcpTurn where
  | session (e : TcpEvent)
  | around (e : NodeEvent)

/-- The octets that arrive. -/
def TcpTurn.octets : TcpTurn → Bytes
  | .session (.received octets) => octets
  | _ => []

namespace TcpSession

/-- When the session ends if nothing more is heard. -/
def deadline? : TcpSession → Option Int
  | .handshake _ deadline | .live _ deadline => some deadline
  | .ended => none

/-- The request has not been read yet. -/
def isHandshake : TcpSession → Bool
  | .handshake .. => true
  | _ => false

end TcpSession

namespace TcpStep

/-- What has been written, the session and the node after one more turn. -/
def turn (st : TcpStep) : TcpTurn → TcpStep
  | .session e =>
    let next := st.session.step st.node e
    { next with written := st.written ++ next.written }
  | .around e => { st with node := st.node.step e }

def turns (st : TcpStep) (ts : List TcpTurn) : TcpStep := ts.foldl turn st

/-- A session that has just been accepted. -/
def accepted (n : Node) : TcpStep := ⟨[], (TcpSession.accept n).1, (TcpSession.accept n).2⟩

/-- The client does not shut down, no deadline passes, when octets arrive the time that the subscriber has
for the next ones ends before the last instant, and once there is a subscription nothing happens to its
connection. -/
def Undisturbed (s : Subscription) (st : TcpStep) : TcpTurn → Prop
  | .session (.received _) => st.node.hub.host.now + s.idle * secondNanos < Instant.bound
  | .session .finished => False
  | .session .timer => ∀ deadline ∈ st.session.deadline?, st.node.hub.host.now < deadline
  | .session .pump => True
  | .around e => st.session.isHandshake = true ∨ Hub.Spares s.conn st.node.hub (st.node.step e).hub

variable {n n' : Node} {s : Subscription} {st : TcpStep} {octets beats rest t : Bytes}
  {deadline : Int} {ts : List TcpTurn}

/-- A run of a session is a run in which nothing else happens to the node. -/
theorem run_eq_turns (session : TcpSession) (n : Node) (es : List TcpEvent) :
    session.run n es = turns ⟨[], session, n⟩ (es.map .session) := by
  have hwritten (es : List TcpEvent) (st : TcpStep) :
      st.turns (es.map .session) = { st.session.run st.node es with
        written := st.written ++ (st.session.run st.node es).written } := by
    induction es generalizing st with
    | nil => simp [turns, TcpSession.run]
    | cons e es ih =>
      rw [List.map_cons, turns, List.foldl_cons, ← turns, ih]
      simp [turn, TcpSession.run]
  rw [hwritten]
  rfl

/-! ## Heartbeats -/

/-- A reply for each octet. -/
def acks (octets : Bytes) : Bytes := octets.flatMap fun _ => Wire.heartbeatReply

theorem acks_append (a b : Bytes) : acks (a ++ b) = acks a ++ acks b := List.flatMap_append

/-- What has become of a session that has been sent these octets behind its request. -/
inductive Answered (s : Subscription) : Bytes → TcpStep → Prop
  /-- They are heartbeats, and each has a reply. -/
  | live {octets : Bytes} {deadline : Int} {n : Node} (beats : ∀ b ∈ octets, b = Wire.heartbeat)
      (idle : n.Idle s) : Answered s octets ⟨acks octets, .live s deadline, n⟩
  /-- The first one that is no heartbeat has ended the session. -/
  | refused {beats rest : Bytes} {b : UInt8} {n : Node} (hbeats : ∀ b ∈ beats, b = Wire.heartbeat)
      (other : b ≠ Wire.heartbeat) (detached : n.hub.isAttached s.channel s.conn = false) :
      Answered s (beats ++ b :: rest) ⟨acks beats ++ Wire.paramReply, .ended, n⟩

theorem takeWhile_beats (hbeats : ∀ b ∈ beats, b = Wire.heartbeat) :
    beats.takeWhile (· == Wire.heartbeat) = beats :=
  List.takeWhile_eq_self_iff.2 fun b hb => beq_iff_eq.2 (hbeats b hb)

theorem takeWhile_other {b : UInt8} (hbeats : ∀ b ∈ beats, b = Wire.heartbeat)
    (other : b ≠ Wire.heartbeat) :
    (beats ++ b :: rest).takeWhile (· == Wire.heartbeat) = beats := by
  rw [List.takeWhile_append_of_pos fun b hb => beq_iff_eq.2 (hbeats b hb), List.takeWhile_cons,
    if_neg (by simpa using other), List.append_nil]

/-- Octets are heartbeats up to the first one that is not. -/
theorem beats_or_other (octets : Bytes) : (∀ b ∈ octets, b = Wire.heartbeat) ∨
    ∃ beats b rest, octets = beats ++ b :: rest ∧ (∀ b ∈ beats, b = Wire.heartbeat) ∧
      b ≠ Wire.heartbeat := by
  induction octets with
  | nil => exact Or.inl (by simp)
  | cons b octets ih =>
    by_cases hb : b = Wire.heartbeat
    · rcases ih with hall | ⟨beats, b', rest, rfl, hbeats, other⟩
      · exact Or.inl (List.forall_mem_cons.2 ⟨hb, hall⟩)
      · exact Or.inr ⟨b :: beats, b', rest, rfl, List.forall_mem_cons.2 ⟨hb, hbeats⟩, other⟩
    · exact Or.inr ⟨[], b, octets, rfl, by simp, hb⟩

/-- More octets for a session that has had nothing but heartbeats. -/
theorem answered_heard (hbeats : ∀ b ∈ octets, b = Wire.heartbeat) (idle : n.Idle s)
    (instant : n.hub.host.now + s.idle * secondNanos < Instant.bound) (more : Bytes) :
    let next := TcpSession.heard n s more
    Answered s (octets ++ more) { next with written := acks octets ++ next.written } := by
  intro next
  let deadline := n.hub.host.now + s.idle * secondNanos
  have hnext : next = TcpSession.heartbeats n s deadline more := by
    simp only [next, TcpSession.heard, n.secondsAhead?_eq_some instant, deadline]
  rw [hnext]
  rcases beats_or_other more with hmore | ⟨beats, b, rest, rfl, hmore, other⟩
  · have hbeat : TcpSession.heartbeats n s deadline more = ⟨acks more, .live s deadline, n⟩ := by
      simp only [TcpSession.heartbeats, takeWhile_beats hmore, if_true, acks]
    rw [hbeat, ← acks_append]
    exact .live (fun b hb => (List.mem_append.1 hb).elim (hbeats b) (hmore b)) idle
  · have hend : TcpSession.heartbeats n s deadline (beats ++ b :: rest) =
        ⟨acks beats ++ Wire.paramReply, .ended, n.unsubscribe s⟩ := by
      have hlen : ¬ beats.length = (beats ++ b :: rest).length := by simp
      simp only [TcpSession.heartbeats, takeWhile_other hmore other, if_neg hlen, acks]
    rw [hend, ← List.append_assoc, ← List.append_assoc, ← acks_append]
    exact .refused (fun b hb => (List.mem_append.1 hb).elim (hbeats b) (hmore b)) other
      (n.isAttached_unsubscribe s)

/-- A session that has answered all octets so far answers those that come next. -/
theorem Answered.turn (h : Answered s octets st) (t : TcpTurn) (hu : Undisturbed s st t) :
    Answered s (octets ++ t.octets) (st.turn t) := by
  cases h with
  | @live octets deadline n hbeats idle =>
    have hsame : Answered s (octets ++ []) ⟨acks octets ++ [], .live s deadline, n⟩ := by
      rw [List.append_nil, List.append_nil]
      exact .live hbeats idle
    cases t with
    | session e =>
      cases e with
      | received more => exact answered_heard hbeats idle hu more
      | finished => exact hu.elim
      | pump =>
        obtain ⟨conn, hconn, hnext⟩ := idle.pending
        have hpump : TcpSession.step (.live s deadline) n .pump = ⟨[], .live s deadline, n⟩ := by
          rcases hout : conn.next with ⟨r, conn'⟩
          rw [hout] at hnext
          cases hnext
          simp only [TcpSession.step, hconn, hout]
        rw [TcpStep.turn, hpump]
        exact hsame
      | timer =>
        have htimer : TcpSession.step (.live s deadline) n .timer = ⟨[], .live s deadline, n⟩ :=
          if_neg (Int.not_le.2 (hu deadline rfl))
        rw [TcpStep.turn, htimer]
        exact hsame
    | around e =>
      have hspares : Hub.Spares s.conn n.hub (n.step e).hub := hu.resolve_left Bool.false_ne_true
      show Answered s (octets ++ []) _
      rw [List.append_nil]
      exact .live hbeats (idle.spared hspares)
  | @refused beats rest b n hbeats other detached =>
    rw [List.append_assoc, List.cons_append]
    cases t with
    | session e =>
      have hstep : TcpSession.step .ended n e = ⟨[], .ended, n⟩ := by cases e <;> rfl
      rw [TcpStep.turn, hstep]
      simp only [List.append_nil]
      exact .refused hbeats other detached
    | around e =>
      have hspares : Hub.Spares s.conn n.hub (n.step e).hub := hu.resolve_left Bool.false_ne_true
      exact .refused hbeats other ((Node.isAttached_of_spares hspares s.channel).trans detached)

theorem Answered.turns (h : Answered s octets st)
    (hu : Along TcpStep.turn (Undisturbed s) st ts) :
    Answered s (octets ++ ts.flatMap TcpTurn.octets) (st.turns ts) := by
  induction ts generalizing octets st with
  | nil => rwa [List.flatMap_nil, List.append_nil]
  | cons t ts ih =>
    rw [List.flatMap_cons, ← List.append_assoc]
    exact ih (h.turn t hu.1) hu.2

/-! ## Requests -/

/-- The node when so many octets have arrived. -/
def nodeWhen : Nat → Node → List TcpTurn → Node
  | _, n, [] => n
  | count, n, .around e :: ts => nodeWhen count (n.step e) ts
  | count, n, .session e :: ts =>
    let arrived := (TcpTurn.session e).octets.length
    if count ≤ arrived then n else nodeWhen (count - arrived) n ts

/-- The node admits who sends this request, and has no message for this subscriber. -/
def Admits (n : Node) (r : Wire.Request) (s : Subscription) : Prop :=
  ∃ args n', Wire.Subscribe.ofRequest r = .ok args ∧
    n.subscribe args.key args.heartbeat args.token 0 = (.ok s, n') ∧ n.backlog args.key 0 = []

section Handshake

variable {r : Wire.Request} {buf missing more later : Bytes} {e : TcpEvent}

theorem nodeWhen_part (he : missing = (TcpTurn.session e).octets ++ more) (hm : more ≠ []) :
    nodeWhen missing.length n (.session e :: ts) = nodeWhen more.length n ts := by
  have hlen : missing.length = (TcpTurn.session e).octets.length + more.length :=
    he ▸ List.length_append
  have hpos : 0 < more.length := List.length_pos_iff.2 hm
  rw [nodeWhen, if_neg (by omega), hlen, Nat.add_sub_cancel_left]

theorem nodeWhen_whole (he : (TcpTurn.session e).octets = missing ++ rest) :
    nodeWhen missing.length n (.session e :: ts) = n := by
  have hlen : (TcpTurn.session e).octets.length = missing.length + rest.length :=
    he ▸ List.length_append
  rw [nodeWhen, if_pos (by omega)]

/-- Octets that have come with the end of the request are answered at once. -/
theorem answered_start (hn : n.Reachable) (ha : Admits n r s)
    (instant : n.hub.host.now + s.idle * secondNanos < Instant.bound) (rest : Bytes) :
    Answered s rest (TcpSession.start n r rest) := by
  obtain ⟨args, n', hargs, hok, hnone⟩ := ha
  have hstart : TcpSession.start n r rest = TcpSession.heard n' s rest := by
    simp only [TcpSession.start, hargs, hok]
  have hnow : n'.hub.host.now = n.hub.host.now := by
    rw [← n.now_subscribe args.key args.heartbeat args.token 0, hok]
  have hnil : ∀ b ∈ ([] : Bytes), b = Wire.heartbeat := by simp
  rw [hstart]
  exact answered_heard hnil (Node.idle_subscribe hn hok hnone) (hnow.symm ▸ instant) rest

variable (word : n.config.maxArgBytes < Numeral.wordBound) (fits : r.Fits n.config.maxArgBytes)
include word fits

/-- While some of the request is missing, the session waits for it. -/
theorem turn_part {chunk : Bytes} (hw : r.encode = buf ++ chunk ++ missing) (hm : missing ≠ [])
    (deadline : Int) :
    turn ⟨[], .handshake buf deadline, n⟩ (.session (.received chunk)) =
      ⟨[], .handshake (buf ++ chunk) deadline, n⟩ := by
  have hwaits := (Wire.framing_decodeRequest _).waits (Wire.writes_encode word fits) hw hm
  have hstep : TcpSession.step (.handshake buf deadline) n (.received chunk) =
      ⟨[], .handshake (buf ++ chunk) deadline, n⟩ := by
    simp only [TcpSession.step, TcpSession.handshaking, hwaits]
  rw [turn, hstep]
  rfl

/-- With the end of the request the session starts, and what comes behind it belongs to the session. -/
theorem turn_whole (hw : r.encode = buf ++ missing) (rest : Bytes) (deadline : Int) :
    turn ⟨[], .handshake buf deadline, n⟩ (.session (.received (missing ++ rest))) =
      TcpSession.start n r rest := by
  have hstep : TcpSession.step (.handshake buf deadline) n (.received (missing ++ rest)) =
      TcpSession.start n r rest := by
    simp only [TcpSession.step, TcpSession.handshaking, ← List.append_assoc, ← hw,
      Wire.decodeRequest_encode word fits]
  rw [turn, hstep]
  rfl

/-- A turn of a session that waits for the rest of a request: either some is still missing, or the session
starts with what has come behind the request. -/
theorem turn_handshake (hw : r.encode = buf ++ missing) (hm : missing ≠ [])
    (sent : (TcpTurn.session e).octets ++ later = missing ++ t)
    (hu : Undisturbed s ⟨[], .handshake buf deadline, n⟩ (.session e)) :
    (∃ more, more ≠ [] ∧ missing = (TcpTurn.session e).octets ++ more ∧ later = more ++ t ∧
      turn ⟨[], .handshake buf deadline, n⟩ (.session e) =
        ⟨[], .handshake (buf ++ (TcpTurn.session e).octets) deadline, n⟩) ∨
    (∃ rest, (TcpTurn.session e).octets = missing ++ rest ∧ t = rest ++ later ∧
      n.hub.host.now + s.idle * secondNanos < Instant.bound ∧
      turn ⟨[], .handshake buf deadline, n⟩ (.session e) = TcpSession.start n r rest) := by
  -- a turn without octets leaves everything as it is
  have hbuf : buf ++ [] = buf := List.append_nil buf
  cases e with
  | finished => exact hu.elim
  | pump => exact Or.inl ⟨missing, hm, rfl, sent, hbuf.symm ▸ rfl⟩
  | timer =>
    have htimer : TcpSession.step (.handshake buf deadline) n .timer =
        ⟨[], .handshake buf deadline, n⟩ := if_neg (Int.not_le.2 (hu deadline rfl))
    refine Or.inl ⟨missing, hm, rfl, sent, ?_⟩
    show turn _ _ = ⟨[], .handshake (buf ++ []) deadline, n⟩
    rw [hbuf, turn, htimer]
    rfl
  | received chunk =>
    have hsent : chunk ++ later = missing ++ t := sent
    rcases List.append_eq_append_iff.1 hsent with ⟨more, rfl, hlater⟩ | ⟨rest, hc, ht⟩
    · by_cases hmore : more = []
      · subst hmore
        rw [List.append_nil] at hw hm
        refine Or.inr ⟨[], (List.append_nil _).symm ▸ (List.append_nil _).symm, hlater.symm, hu, ?_⟩
        have hwhole := turn_whole word fits hw [] deadline
        rwa [List.append_nil] at hwhole
      · have hw' : r.encode = buf ++ chunk ++ more := hw.trans (List.append_assoc ..).symm
        exact Or.inl ⟨more, hmore, rfl, hlater, turn_part word fits hw' hmore deadline⟩
    · subst hc
      exact Or.inr ⟨rest, rfl, ht, hu, turn_whole word fits hw rest deadline⟩

/-- A session that waits for the rest of a request answers the octets behind it. -/
theorem answered_of_handshake (hn : n.Reachable) (hw : r.encode = buf ++ missing) (hm : missing ≠ [])
    (sent : ts.flatMap TcpTurn.octets = missing ++ t)
    (ha : Admits (nodeWhen missing.length n ts) r s)
    (hu : Along TcpStep.turn (Undisturbed s) ⟨[], .handshake buf deadline, n⟩ ts) :
    Answered s t (turns ⟨[], .handshake buf deadline, n⟩ ts) := by
  induction ts generalizing buf missing n with
  | nil => exact absurd (List.append_eq_nil_iff.1 sent.symm).1 hm
  | cons turn ts ih =>
    have hrest := hu.2
    rw [List.flatMap_cons] at sent
    rw [turns, List.foldl_cons]
    cases turn with
    | around e =>
      have hconfig := (n.kept_step e).config
      exact ih (n := n.step e) (hconfig ▸ word) (hconfig ▸ fits) (hn.step e) hw hm sent ha hrest
    | session e =>
      rcases turn_handshake word fits hw hm sent hu.1 with
        ⟨more, hmore, hmissing, hlater, hturn⟩ | ⟨rest, hoctets, ht, instant, hturn⟩
      · have hw' : r.encode = buf ++ (TcpTurn.session e).octets ++ more := by
          rw [hw, hmissing, List.append_assoc]
        rw [nodeWhen_part hmissing hmore] at ha
        rw [hturn] at hrest ⊢
        exact ih word fits hn hw' hmore hlater ha hrest
      · rw [nodeWhen_whole hoctets] at ha
        rw [hturn] at hrest ⊢
        exact ht ▸ (answered_start hn ha instant rest).turns hrest

end Handshake

/-- What the client and the channel notice. -/
theorem Answered.noticed (h : Answered s t st) :
    ((∀ b ∈ t, b = Wire.heartbeat) → st.written = acks t ∧
      (∃ deadline, st.session = .live s deadline) ∧
      st.node.hub.isAttached s.channel s.conn = true) ∧
    ((∃ b ∈ t, b ≠ Wire.heartbeat) →
      st.written = acks (t.takeWhile (· == Wire.heartbeat)) ++ Wire.paramReply ∧
      st.session = .ended ∧ st.node.hub.isAttached s.channel s.conn = false) := by
  cases h with
  | live hbeats idle =>
    refine ⟨fun _ => ⟨rfl, ⟨_, rfl⟩, idle.attached⟩, ?_⟩
    rintro ⟨b, hb, other⟩
    exact absurd (hbeats b hb) other
  | refused hbeats other detached =>
    refine ⟨fun hall => absurd (hall _ (by simp)) other, fun _ => ?_⟩
    rw [takeWhile_other hbeats other]
    exact ⟨rfl, rfl, detached⟩

/-- A session that has been accepted while the time for its request ends before the last instant. -/
theorem accepted_eq (instant : n.hub.host.now + n.config.defaultHeartbeatSecs * secondNanos < Instant.bound) :
    accepted n = ⟨[], .handshake [] (n.hub.host.now + n.config.defaultHeartbeatSecs * secondNanos),
      (TcpSession.accept n).2⟩ := by
  simp only [accepted, TcpSession.accept, n.secondsAhead?_eq_some instant]

/-- Let a session be accepted, and a request with arguments within the limit be sent with octets `t` behind
it, cut in any way, with anything happening to the node in between; let the node, when the request has come,
admit the subscriber and have no message for it; and let no deadline pass and nothing happen to the
connection.  The limit for arguments is a machine word, and the deadlines are instants.  Then every heartbeat
up to the first other octet in `t` has one reply.  If there is such an octet, one more reply ends the session,
and its connection is not attached any more. -/
theorem answered_however_cut (hn : n.Reachable) (word : n.config.maxArgBytes < Numeral.wordBound)
    (instant : n.hub.host.now + n.config.defaultHeartbeatSecs * secondNanos < Instant.bound)
    {r : Wire.Request} (fits : r.Fits n.config.maxArgBytes)
    (sent : ts.flatMap TcpTurn.octets = r.encode ++ t)
    (admits : Admits (nodeWhen r.encode.length (TcpSession.accept n).2 ts) r s)
    (quiet : Along TcpStep.turn (Undisturbed s) (accepted n) ts) :
    let out := (accepted n).turns ts
    ((∀ b ∈ t, b = Wire.heartbeat) → out.written = acks t ∧
      (∃ deadline, out.session = .live s deadline) ∧
      out.node.hub.isAttached s.channel s.conn = true) ∧
    ((∃ b ∈ t, b ≠ Wire.heartbeat) →
      out.written = acks (t.takeWhile (· == Wire.heartbeat)) ++ Wire.paramReply ∧
      out.session = .ended ∧ out.node.hub.isAttached s.channel s.conn = false) := by
  have hready : (TcpSession.accept n).2.Reachable :=
    hn.step (.host (.count fun m => { m with tcpAccepted := m.tcpAccepted + 1 }))
  have hne : r.encode ≠ [] := List.cons_ne_nil _ _
  rw [accepted_eq instant] at quiet ⊢
  exact (answered_of_handshake (n := (TcpSession.accept n).2) word fits hready
    (List.nil_append _).symm hne sent admits quiet).noticed

/-- A request to subscribe to "k" with a heartbeat of five seconds, and behind it three heartbeats, an "x"
and another heartbeat.  The request comes in two parts, the second of them with two heartbeats, while "j"
gets a channel and the clock goes on. -/
theorem answered_however_cut_within_heartbeats :
    let r : Wire.Request := ⟨[[115, 117, 98], [107], [53]]⟩
    let t : Bytes := [104, 104, 104, 120, 104]
    let ts : List TcpTurn := [.session (.received (r.encode.take 9)), .session .timer,
      .around (.administer (.newChannel "j")),
      .session (.received (r.encode.drop 9 ++ [104, 104])), .session .pump,
      .around (.host (.clock 1700000009000000000)), .session .timer,
      .session (.received [104, 120, 104]), .session .pump]
    let out := (accepted Gate.peer).turns ts
    ts.flatMap TcpTurn.octets = r.encode ++ t ∧
      Admits (nodeWhen r.encode.length (TcpSession.accept Gate.peer).2 ts) r ⟨"k", 5, 1, 1⟩ ∧
      out.written = acks [104, 104, 104] ++ Wire.paramReply ∧ out.session = .ended ∧
      out.node.hub.isAttached 1 1 = false := by
  intro r t ts out
  let s : Subscription := ⟨"k", 5, 1, 1⟩
  have fits : r.Fits Gate.peer.config.maxArgBytes := ⟨by decide, by decide⟩
  have sent : ts.flatMap TcpTurn.octets = r.encode ++ t := by decide +kernel
  have admits : Admits (nodeWhen r.encode.length (TcpSession.accept Gate.peer).2 ts) r s :=
    ⟨⟨"k", 5, none⟩, _, by decide +kernel, Prod.ext (by decide +kernel) rfl, by decide +kernel⟩
  have quiet : Along TcpStep.turn (Undisturbed s) (accepted Gate.peer) ts := by
    refine ⟨?_, ?_, Or.inl (by decide +kernel), ?_, trivial, Or.inr ⟨fun _ => rfl, rfl⟩, ?_, ?_,
      trivial, trivial⟩
    · show _ < Instant.bound
      decide +kernel
    · show ∀ deadline ∈ _, _
      decide +kernel
    · show _ < Instant.bound
      decide +kernel
    · show ∀ deadline ∈ _, _
      decide +kernel
    · show _ < Instant.bound
      decide +kernel
  obtain ⟨-, hother⟩ := answered_however_cut (Node.reachable_of_made Gate.made_peer) (by decide)
    (by decide) fits sent admits quiet
  exact ⟨sent, admits, hother ⟨120, by decide, by decide⟩⟩

end TcpStep

end PushRelay
