import Mathlib.Algebra.Group.Int.Defs
import PushRelay.Node.Admin
import PushRelay.Node.Subscription
import PushRelay.Proofs.Channel.Live

/-!
# Requests that overtake each other

A push request takes two steps: its message is given an id, and then it is taken to its channel.  Steps
of different requests can come in any order, so a request that has drawn its id later may be pushed
first.  A `Desk` is a node with requests on it, each at its own `Stage`; `draw_push` says that a request
whose two steps come next to each other is an `adminPush`.

`Mirrors` relates the channel that the requests go to with a `Relay`, and `Mirrors.step` runs the one
along with the other.
-/

namespace PushRelay

/-- How far a request has come. -/
inductive Stage where
  | waiting
  | drawn (id : Int)
  | answered (r : Except AdminError Int)

/-- What happens while requests are answered. -/
inductive DeskEvent where
  /-- The message of a request is given its id. -/
  | draw (i : Nat)
  /-- The message of a request is taken to its channel. -/
  | push (i : Nat)
  /-- The clock shows a time. -/
  | clock (now : Int)
  /-- The reader of a connection takes a payload off its queue. -/
  | receive (c : ConnId)

structure Desk where
  node : Node
  /-- The requests by their numbers. -/
  requests : Nat → PushRequest
  stage : Nat → Stage
  /-- The requests that were answered with an id, in that order, and the ids. -/
  pushed : List (Nat × Int)
  /-- What has left the queue of each connection. -/
  gone : ConnId → List Push

namespace Desk

/-- A node that has not begun with any of the requests. -/
def start (node : Node) (requests : Nat → PushRequest) : Desk :=
  ⟨node, requests, fun _ => .waiting, [], fun _ => []⟩

/-- What was ever written to a connection. -/
def written (d : Desk) (c : ConnId) : List Push := d.gone c ++ d.node.hub.host.waiting c

/-- What clients get to see of a request that was answered with an id. -/
def payload (d : Desk) (e : Nat × Int) : Push :=
  ⟨Utf8.ofString (d.requests e.1).body, e.2, (d.requests e.1).group.code⟩

def setStage (d : Desk) (i : Nat) (s : Stage) : Desk :=
  { d with stage := fun j => if j = i then s else d.stage j }

def answer (d : Desk) (i : Nat) (r : Except AdminError Int) : Desk :=
  { d.setStage i (.answered r) with
    pushed := d.pushed ++ match r with
      | .ok id => [(i, id)]
      | .error _ => [] }

def draw (d : Desk) (i : Nat) : Desk :=
  match d.stage i with
  | .waiting =>
    if (d.requests i).key.isEmpty then d.answer i (.error .emptyKey)
    else match d.node.assignId (d.requests i).id with
      | (.ok id, node) => { d with node }.setStage i (.drawn id)
      | (.error e, node) => { d with node }.answer i (.error e)
  | _ => d

def push (d : Desk) (i : Nat) : Desk :=
  match d.stage i with
  | .drawn id =>
    let r := d.requests i
    match d.node.buildMessage id r.body r.expireSecs r.group with
    | .error e => d.answer i (.error e)
    | .ok m =>
      let (answer, node) := d.node.pushTo r.key m
      { d with node }.answer i answer
  | _ => d

def step (d : Desk) : DeskEvent → Desk
  | .draw i => d.draw i
  | .push i => d.push i
  | .clock now => { d with node := d.node.onHost fun h => { h with now } }
  | .receive c =>
    { d with
      node := d.node.onHost fun h => h.updateConn c fun conn => conn.receive.2
      gone := fun c' => if c' = c then d.gone c ++ (d.node.hub.host.waiting c).take 1 else d.gone c' }

def run (d : Desk) (es : List DeskEvent) : Desk := es.foldl step d

/-- A request whose two steps come next to each other is answered as a whole. -/
theorem draw_push (d : Desk) (i : Nat) (hi : d.stage i = .waiting) :
    ((d.draw i).push i).node = (d.node.adminPush (d.requests i)).2 ∧
      ∃ r, ((d.draw i).push i).stage i = .answered r ∧
        (d.node.adminPush (d.requests i)).1 = r.map .pushed := by
  unfold draw Node.adminPush
  simp only [hi]
  split
  · simp [push, answer, setStage, Except.map]
  · rcases d.node.assignId (d.requests i).id with ⟨_ | id, n⟩
    · simp [push, answer, setStage, Except.map]
    · simp only [push, setStage, if_true]
      cases n.buildMessage id (d.requests i).body (d.requests i).expireSecs (d.requests i).group with
      | error e => simp [answer, setStage, Except.map]
      | ok m => simp [answer, setStage]

/-! ## The channel behind the desk -/

/-- Whether a key has a channel that has not passed its deadline. -/
def serves (d : Desk) (key : String) : Bool :=
  match d.node.hub.lookup key with
  | (.ok _, _) => true
  | (.error _, _) => false

/-- The relay is at the channel of the key, with the same host, and has accepted the same messages. -/
structure Mirrors (d : Desk) (key : String) (id : ChannelId) (r : Relay) : Prop where
  atKey : r.key = key
  found : d.node.hub.registry.find? key = some id
  channel : d.node.hub.channels.get? id = some r.channel
  host : d.node.hub.host = r.host
  gone : d.gone = r.gone
  accepted : r.accepted.map Message.push = d.pushed.map d.payload

variable {d : Desk} {key : String} {id : ChannelId} {r : Relay} {c : ConnId} {e : DeskEvent}

theorem Mirrors.written (h : Mirrors d key id r) (c : ConnId) : d.written c = r.written c := by
  unfold Desk.written Relay.written
  rw [h.gone, h.host]

/-- What a lookup that succeeds has done. -/
theorem lookup_ok {h h' : Hub} {id : ChannelId} (hl : h.lookup key = (.ok id, h')) :
    h.registry.find? key = some id ∧ h' = h.refresh id := by
  unfold Hub.lookup at hl
  split at hl
  · cases hl
  · next hf =>
    split at hl
    · cases hl
    · split at hl
      · cases hl
      · cases hl
        exact ⟨hf, rfl⟩

theorem lookup_of_serves (hf : d.node.hub.registry.find? key = some id) (hs : d.serves key = true) :
    ∃ hub, d.node.hub.lookup key = (.ok id, hub) := by
  unfold serves at hs
  split at hs
  · next id' hub hl =>
    cases hf.symm.trans (lookup_ok hl).1
    exact ⟨hub, hl⟩
  · cases hs

/-- Taking a message to a key with a channel puts the channel's deadline off and pushes the message. -/
theorem pushTo_channel {n : Node} {hub : Hub} {ch : Channel} (m : Message)
    (hl : n.hub.lookup key = (.ok id, hub)) (hch : n.hub.channels.get? id = some ch) :
    ∃ deadline out, out = (ch.setDeadline deadline).push n.hub.host key m ∧
      (n.pushTo key m).1 = out.result.mapError .channel ∧
      (n.pushTo key m).2.hub.registry = n.hub.registry ∧
      (n.pushTo key m).2.hub.channels.get? id = some out.channel ∧
      (n.pushTo key m).2.hub.host = out.host := by
  obtain ⟨-, rfl⟩ := lookup_ok hl
  have hget : (n.hub.refresh id).channels.get? id =
      some (ch.setDeadline (deadlineAfter n.hub.host.now n.hub.settings.lifetime)) := by
    simp only [Hub.refresh, Hub.updateChannel, Table.get?_modify, if_true, hch, Option.map_some]
  have hpush : n.pushTo key m =
      (let out := (ch.setDeadline (deadlineAfter n.hub.host.now n.hub.settings.lifetime)).push
        n.hub.host key m
      (out.result.mapError .channel, { n with hub := { n.hub.refresh id with
        channels := (n.hub.refresh id).channels.insert id out.channel, host := out.host } })) := by
    simp only [Node.pushTo, Node.channelForPush, hl, Node.push, Hub.push, Hub.onChannel, hget]
    rfl
  rw [hpush]
  refine ⟨_, _, rfl, rfl, rfl, ?_, rfl⟩
  show (Table.insert _ id _).get? id = _
  rw [Table.get?_insert, if_pos rfl]

/-- Giving a message its id does at most draw one. -/
theorem assignId_node (n : Node) (requested : Int) :
    (n.assignId requested).2 = n ∨ (n.assignId requested).2 = n.drawId.2 := by
  unfold Node.assignId
  split
  · right
    rcases n.drawId with ⟨_ | _, _⟩ <;> rfl
  · left
    split <;> rfl

/-! ## One step of the desk -/

/-- A push finds the channel before its deadline, and room on the queue of the connection. -/
def Unhindered (key : String) (c : ConnId) (d : Desk) : DeskEvent → Prop
  | .push _ => d.serves key = true ∧ d.node.hub.host.hasRoom c = true
  | _ => True

instance (key : String) (c : ConnId) (d : Desk) : (e : DeskEvent) → Decidable (Unhindered key c d e)
  | .push _ => inferInstanceAs (Decidable (_ ∧ _))
  | .draw _ | .clock _ | .receive _ => isTrue trivial

/-- The relay at the channel gets to where the desk is, while the connection attends. -/
def Follows (d' : Desk) (key : String) (id : ChannelId) (r : Relay) (c : ConnId) : Prop :=
  ∃ es, Mirrors d' key id (r.run es) ∧ Along Relay.step (Relay.Attending c) r es ∧
    ((r.run es).seat c).isSome = true

theorem Follows.setStage (h : Follows d key id r c) (i : Nat) (s : Stage) :
    Follows (d.setStage i s) key id r c := by
  obtain ⟨es, hm, hes, hs⟩ := h
  exact ⟨es, { hm with accepted := hm.accepted }, hes, hs⟩

theorem Follows.refuse (h : Follows d key id r c) (i : Nat) (e : AdminError) :
    Follows (d.answer i (.error e)) key id r c := by
  obtain ⟨es, hm, hes, hs⟩ := h
  refine ⟨es, ⟨hm.atKey, hm.found, hm.channel, hm.host, hm.gone, ?_⟩, hes, hs⟩
  show _ = (d.pushed ++ []).map d.payload
  rw [List.append_nil]
  exact hm.accepted

/-- The relay follows with an event that neither moves the connection nor brings a message in. -/
theorem Mirrors.follows {d' : Desk} {e : Event} (hs : (r.seat c).isSome = true)
    (hm : Mirrors d' key id (r.step e)) (hatt : e.attaches c = false) (hsince : e.since? c = none)
    (hp : ∀ m, e ≠ .push m) (hseat : (r.step e).seat c = r.seat c) : Follows d' key id r c :=
  ⟨[e], hm, ⟨⟨hatt, hsince, by rwa [hseat], fun m he => absurd he (hp m)⟩, trivial⟩, by
    rw [Relay.run_cons, Relay.run_nil, hseat]
    exact hs⟩

theorem Mirrors.draw (h : Mirrors d key id r) (hs : (r.seat c).isSome = true) (i : Nat) :
    Follows (d.draw i) key id r c := by
  have hnode : ∀ n, n = d.node ∨ n = d.node.drawId.2 → Follows { d with node := n } key id r c := by
    rintro n (rfl | rfl)
    · exact ⟨[], h, trivial, hs⟩
    · refine Mirrors.follows (e := .draw) hs ⟨h.atKey, h.found, h.channel, ?_, h.gone, ?_⟩ rfl rfl
        (by simp) rfl
      · show d.node.hub.host.drawId.2 = r.host.drawId.2
        rw [h.host]
      · exact (congrArg _ (List.append_nil _)).trans h.accepted
  have hassign := hnode _ (assignId_node d.node (d.requests i).id)
  have hstay : Follows d key id r c := ⟨[], h, trivial, hs⟩
  unfold Desk.draw
  split
  · split
    · exact hstay.refuse i _
    · split
      · next heq =>
        rw [heq] at hassign
        exact hassign.setStage i _
      · next heq =>
        rw [heq] at hassign
        exact hassign.refuse i _
  · exact hstay

theorem payload_of_buildMessage {n : Node} {id : Int} {q : PushRequest} {m : Message}
    (hb : n.buildMessage id q.body q.expireSecs q.group = .ok m) (id' : Int) :
    (m.withId id').push = ⟨Utf8.ofString q.body, id', q.group.code⟩ := by
  unfold Node.buildMessage at hb
  split at hb
  · cases hb
  · cases hb
    rfl

theorem Mirrors.push (h : Mirrors d key id r) (hs : (r.seat c).isSome = true) (i : Nat)
    (hk : (d.requests i).key = key) (hu : Unhindered key c d (.push i)) :
    Follows (d.push i) key id r c := by
  obtain ⟨hserve, hroom⟩ := hu
  have hstay : Follows d key id r c := ⟨[], h, trivial, hs⟩
  unfold Desk.push
  split
  · next n hstage =>
    simp only
    split
    · next e hb => exact hstay.refuse i e
    · next m hb =>
      obtain ⟨hub, hl⟩ := lookup_of_serves h.found hserve
      obtain ⟨deadline, out, hout, hres, hreg, hch, hhost⟩ := pushTo_channel m hl h.channel
      -- the relay takes the same push once its deadline has been put off
      have hpush : out = (r.step (.postpone deadline)).channel.push
          (r.step (.postpone deadline)).host (r.step (.postpone deadline)).key m := by
        rw [hout, h.host, ← h.atKey]
        rfl
      have hseat := Relay.seat_push (r.step (.postpone deadline)) m c
      rw [hk]
      refine ⟨[.postpone deadline, .push m], ⟨h.atKey, (hreg ▸ h.found), ?_, ?_, h.gone, ?_⟩,
        ⟨⟨rfl, rfl, hs, by simp⟩, ⟨rfl, rfl, hseat.trans hs, fun _ _ => h.host ▸ hroom⟩, trivial⟩,
        hseat.trans hs⟩
      · rw [hpush] at hch
        exact hch
      · rw [hpush] at hhost
        exact hhost
      · rw [hpush] at hres
        show ((r.accepted ++ []) ++ (r.step (.postpone deadline)).accepts (.push m)).map Message.push =
          (d.pushed ++ _).map d.payload
        rw [List.append_nil, List.map_append, List.map_append, h.accepted, hres]
        congr 1
        cases hp : ((r.step (.postpone deadline)).channel.push (r.step (.postpone deadline)).host
            (r.step (.postpone deadline)).key m).result with
        | error e =>
          simp only [Relay.accepts, hp]
          rfl
        | ok id' =>
          rw [Relay.accepts_push hp]
          exact congrArg (fun p => [p]) (payload_of_buildMessage hb id')
  · exact hstay

theorem Mirrors.step (h : Mirrors d key id r) (hs : (r.seat c).isSome = true)
    (hk : ∀ i, (d.requests i).key = key) (hu : Unhindered key c d e) :
    Follows (d.step e) key id r c := by
  have hacc : (r.accepted ++ []).map Message.push = d.pushed.map d.payload := by
    rw [List.append_nil, h.accepted]
  cases e with
  | draw i => exact h.draw hs i
  | push i => exact h.push hs i (hk i) hu
  | clock now =>
    refine Mirrors.follows (e := .clock now) hs ⟨h.atKey, h.found, h.channel, ?_, h.gone, hacc⟩
      rfl rfl (by simp) rfl
    show { d.node.hub.host with now } = { r.host with now }
    rw [h.host]
  | receive c' =>
    refine Mirrors.follows (e := .receive c') hs ⟨h.atKey, h.found, h.channel, ?_, ?_, hacc⟩
      rfl rfl (by simp) rfl
    · show d.node.hub.host.updateConn c' _ = r.host.updateConn c' _
      rw [h.host]
    · show (fun c'' => if c'' = c' then d.gone c' ++ (d.node.hub.host.waiting c').take 1
        else d.gone c'') = _
      rw [h.host, h.gone]
      rfl

/-- The requests themselves never change. -/
theorem requests_step (d : Desk) (e : DeskEvent) : (d.step e).requests = d.requests := by
  cases e with
  | draw i =>
    show (d.draw i).requests = d.requests
    unfold Desk.draw
    split
    · split
      · rfl
      · split <;> rfl
    · rfl
  | push i =>
    show (d.push i).requests = d.requests
    unfold Desk.push
    split
    · simp only
      split <;> rfl
    · rfl
  | _ => rfl

theorem Mirrors.run {es : List DeskEvent} (h : Mirrors d key id r) (hs : (r.seat c).isSome = true)
    (hk : ∀ i, (d.requests i).key = key) (hes : Along Desk.step (Unhindered key c) d es) :
    Follows (d.run es) key id r c := by
  induction es generalizing d r with
  | nil => exact ⟨[], h, trivial, hs⟩
  | cons e es ih =>
    obtain ⟨l, hm, hl, hs'⟩ := h.step hs hk hes.1
    obtain ⟨l', hm', hl', hs''⟩ := ih hm hs' (by rwa [requests_step]) hes.2
    refine ⟨l ++ l', ?_, along_append.2 ⟨hl, hl'⟩, ?_⟩
    · rw [Relay.run_append]
      exact hm'
    · rw [Relay.run_append]
      exact hs''

/-! ## The answers -/

/-- A request is answered once, and listed when it was answered with an id. -/
structure Booked (d : Desk) : Prop where
  nodup : d.pushed.Nodup
  answered : ∀ i id, (i, id) ∈ d.pushed ↔ d.stage i = .answered (.ok id)

theorem Booked.withNode (h : Booked d) (node : Node) : Booked { d with node } :=
  ⟨h.nodup, h.answered⟩

theorem Booked.setStage {i : Nat} {s : Stage} (h : Booked d) (hi : ∀ r, d.stage i ≠ .answered r)
    (hs : ∀ r, s ≠ .answered r) : Booked (d.setStage i s) := by
  refine ⟨h.nodup, fun j id => ?_⟩
  show (j, id) ∈ d.pushed ↔ (if j = i then s else d.stage j) = _
  rw [h.answered]
  by_cases hj : j = i
  · rw [if_pos hj, hj]
    exact iff_of_false (hi _) (hs _)
  · rw [if_neg hj]

theorem Booked.answer {i : Nat} (h : Booked d) (hi : ∀ r, d.stage i ≠ .answered r)
    (res : Except AdminError Int) : Booked (d.answer i res) := by
  have hnot : ∀ id, (i, id) ∉ d.pushed := fun id hm => hi _ ((h.answered i id).1 hm)
  cases res with
  | error e =>
    refine ⟨?_, fun j id => ?_⟩
    · show (d.pushed ++ []).Nodup
      rw [List.append_nil]
      exact h.nodup
    · show (j, id) ∈ d.pushed ++ [] ↔ (if j = i then Stage.answered (.error e) else d.stage j) = _
      rw [List.append_nil, h.answered]
      by_cases hj : j = i
      · rw [if_pos hj, hj]
        exact iff_of_false (hi _) (by simp)
      · rw [if_neg hj]
  | ok id' =>
    refine ⟨?_, fun j id => ?_⟩
    · show (d.pushed ++ [(i, id')]).Nodup
      rw [List.nodup_append]
      refine ⟨h.nodup, by simp, fun a ha b hb => ?_⟩
      rintro rfl
      rw [List.mem_singleton.1 hb] at ha
      exact hnot id' ha
    · show (j, id) ∈ d.pushed ++ [(i, id')] ↔
        (if j = i then Stage.answered (.ok id') else d.stage j) = _
      rw [List.mem_append, List.mem_singleton, Prod.mk.injEq]
      by_cases hj : j = i
      · rw [if_pos hj, hj]
        simp [hnot, eq_comm]
      · rw [if_neg hj, h.answered]
        simp [hj]

theorem Booked.step (h : Booked d) (e : DeskEvent) : Booked (d.step e) := by
  cases e with
  | draw i =>
    show Booked (d.draw i)
    unfold Desk.draw
    split
    · next hi =>
      have hi : ∀ r, d.stage i ≠ .answered r := fun r => by simp [hi]
      split
      · exact h.answer hi _
      · split
        · next id node _ => exact (h.withNode node).setStage hi (by simp)
        · next e node _ => exact (h.withNode node).answer hi _
    · exact h
  | push i =>
    show Booked (d.push i)
    unfold Desk.push
    split
    · next hi =>
      have hi : ∀ r, d.stage i ≠ .answered r := fun r => by simp [hi]
      simp only
      split
      · exact h.answer hi _
      · next m _ => exact (h.withNode (d.node.pushTo (d.requests i).key m).2).answer hi _
    · exact h
  | _ => exact ⟨h.nodup, h.answered⟩

theorem Booked.run (h : Booked d) (es : List DeskEvent) : Booked (d.run es) := by
  induction es generalizing d with
  | nil => exact h
  | cons e es ih => exact ih (h.step e)

theorem booked_start (n : Node) (requests : Nat → PushRequest) : Booked (start n requests) :=
  ⟨List.nodup_nil, fun _ _ => by simp [start]⟩

/-! ## What gets through -/

/-- A node without channels, a millisecond after the epoch of ids. -/
def emptyNode : Node where
  config := .loopback
  hub := ⟨Config.loopback.channelSettings, ⟨Registry.spread, [.empty]⟩, .empty, 0,
    .new ((Snowflake.epoch + 1) * milliNanos) ⟨.snowflake ⟨1, -1, 0⟩, .wall⟩ (.ofMemory .new)⟩
  ring := ⟨fun _ => 0, ["1"], 1, [(0, "1")]⟩

/-- A node with two subscribers to one key.  One has seen nothing, the other claims to have seen ids that
are yet to come. -/
def subscribedNode : Node :=
  ((emptyNode.subscribe "k" 0 none 0).2.subscribe "k" 0 none (2 ^ 62)).2

/-- Requests that all go to that key and ask for an id. -/
def sampleRequests (i : Nat) : PushRequest := ⟨"k", toString i, 10, 0, .personal⟩

/-- Let a connection be attached to the channel of a key, and caught up to `last`, before any of the
requests to that key has begun.  What it is written is exactly the messages whose ids rise, in the
order in which they were pushed.  So the message of a request that is answered with an id is written
once, unless the id is not above `last`, or a request with an id as great was pushed before: then it is
not written.  Where the pushes run in the order of their ids nothing is left out. -/
theorem written_unless_overtaken (n : Node) (requests : Nat → PushRequest) (key : String)
    (channel : ChannelId) (ch : Channel) (c : ConnId) (last : Int) (es : List DeskEvent)
    (sameKey : ∀ i, (requests i).key = key)
    (found : n.hub.registry.find? key = some channel) (hch : n.hub.channels.get? channel = some ch)
    (attached : ch.attached.get? c = some ⟨last, false⟩)
    (unhindered : Along Desk.step (Unhindered key c) (start n requests) es) :
    let d := (start n requests).run es
    let hits := rising Prod.snd last d.pushed
    d.written c = n.hub.host.waiting c ++ hits.map d.payload ∧
      (∀ i id, d.stage i = .answered (.ok id) → ∃ before after,
        d.pushed = before ++ (i, id) :: after ∧
          hits.count (i, id) = if last < id ∧ ∀ a ∈ before, a.2 < id then 1 else 0) ∧
      (d.pushed.Pairwise (fun a b => a.2 < b.2) → (∀ a ∈ d.pushed, last < a.2) →
        hits = d.pushed) := by
  intro d hits
  let r : Relay := ⟨ch, n.hub.host, key, fun _ => [], [], []⟩
  have hr : r.seat c = some ⟨last, false⟩ := attached
  have hmirror : Mirrors (start n requests) key channel r := ⟨rfl, found, hch, rfl, rfl, rfl⟩
  obtain ⟨l, hm, hl, -⟩ := hmirror.run (by rw [hr]; rfl) sameKey unhindered
  have hbook : Booked d := (booked_start n requests).run es
  refine ⟨?_, fun i id hi => ?_, rising_eq_self⟩
  · have hacc : (r.run l).accepted = r.accepting l := Relay.accepted_run r l
    have hp : (r.accepting l).map Message.push = d.pushed.map d.payload := hacc ▸ hm.accepted
    calc d.written c = (r.run l).written c := hm.written c
      _ = r.written c ++ (rising Message.id last (r.accepting l)).map Message.push :=
        Relay.written_rising hl hr
      _ = r.written c ++ rising Push.id last ((r.accepting l).map Message.push) := by
        rw [rising_map]
        rfl
      _ = r.written c ++ hits.map d.payload := by
        rw [hp, rising_map]
        rfl
  · obtain ⟨before, after, hsplit⟩ := List.append_of_mem ((hbook.answered i id).2 hi)
    refine ⟨before, after, hsplit, ?_⟩
    have hn := hbook.nodup
    have hcount := (hn.sublist (rising_sublist Prod.snd last d.pushed)).count (a := (i, id))
    rw [hsplit] at hn
    have hiff : (i, id) ∈ hits ↔ last < id ∧ ∀ a ∈ before, a.2 < id := by
      show _ ∈ rising _ _ d.pushed ↔ _
      rw [hsplit]
      exact mem_rising_iff hn
    rw [hcount]
    simp only [hiff, hits]

theorem written_unless_overtaken_three_requests :
    let es : List DeskEvent := [.draw 0, .draw 1, .push 1, .receive 1, .clock 1388534401000000000,
      .draw 2, .push 0, .push 2]
    let d := (start subscribedNode sampleRequests).run es
    let hits := rising Prod.snd 0 d.pushed
    ((∀ i, (sampleRequests i).key = "k") ∧ subscribedNode.hub.registry.find? "k" = some 0 ∧
      (∃ ch, subscribedNode.hub.channels.get? 0 = some ch ∧
        ch.attached.get? 1 = some ⟨0, false⟩) ∧
      Along Desk.step (Unhindered "k" 1) (start subscribedNode sampleRequests) es) ∧
    d.pushed = [(1, 4198401), (0, 4198400), (2, 4194308096)] ∧
    hits = [(1, 4198401), (2, 4194308096)] ∧
    d.written 1 = subscribedNode.hub.host.waiting 1 ++ hits.map d.payload := by
  intro es d hits
  have unhindered : Along Desk.step (Unhindered "k" 1) (start subscribedNode sampleRequests) es := by
    decide
  have found : subscribedNode.hub.registry.find? "k" = some 0 := by decide
  obtain ⟨ch, hch, attached⟩ : ∃ ch, subscribedNode.hub.channels.get? 0 = some ch ∧
      ch.attached.get? 1 = some ⟨0, false⟩ := ⟨_, rfl, by decide⟩
  obtain ⟨hw, -, -⟩ := written_unless_overtaken subscribedNode sampleRequests "k" 0 ch 1 0 es
    (fun _ => rfl) found hch attached unhindered
  exact ⟨⟨fun _ => rfl, found, ⟨ch, hch, attached⟩, unhindered⟩, by decide, by decide, hw⟩

/-- Request 0 draws its id first and is pushed last.  Both requests are answered with an id, yet the
first subscriber is not written the message of request 0, nor the second one that of either. -/
theorem overtaken_push_not_written :
    let d := (start subscribedNode sampleRequests).run [.draw 0, .draw 1, .push 1, .push 0]
    ((∀ i, (sampleRequests i).key = "k" ∧ (sampleRequests i).id = 0) ∧
      subscribedNode.hub.registry.find? "k" = some 0 ∧
      (∃ ch, subscribedNode.hub.channels.get? 0 = some ch ∧ ch.retains = true ∧
        ch.attached.get? 1 = some ⟨0, false⟩ ∧ ch.attached.get? 2 = some ⟨2 ^ 62, false⟩) ∧
      Along Desk.step (Unhindered "k" 1) (start subscribedNode sampleRequests)
        [.draw 0, .draw 1, .push 1, .push 0] ∧
      Along Desk.step (Unhindered "k" 2) (start subscribedNode sampleRequests)
        [.draw 0, .draw 1, .push 1, .push 0]) ∧
    (d.stage 0 = .answered (.ok 4198400) ∧ d.stage 1 = .answered (.ok 4198401)) ∧
    d.written 1 = [d.payload (1, 4198401)] ∧ d.written 2 = [] := by
  intro d
  have hbook : Booked d := (booked_start subscribedNode sampleRequests).run _
  have h0 : (0, 4198400) ∈ d.pushed := by decide
  have h1 : (1, 4198401) ∈ d.pushed := by decide
  refine ⟨⟨fun _ => ⟨rfl, rfl⟩, by decide, ⟨_, rfl, by decide, by decide, by decide⟩, by decide,
    by decide⟩, ⟨(hbook.answered _ _).1 h0, (hbook.answered _ _).1 h1⟩, by decide, by decide⟩

end Desk

end PushRelay
