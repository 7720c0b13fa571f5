import PushRelay.Proofs.Channel.Persistence
import PushRelay.Proofs.Hub.Retention
import PushRelay.Proofs.Node.Overtaking

/-!
# Messages to several keys

A batch draws one id and takes the message to the channels of its keys, one after the other.  `visits`
lists the keys with the node as the message comes to each, and `Delivered` says what it means that the
message has got to a key.

    answered .batch id pushed failures → pushed + failures.length = r.keys.length, and a key that is
      counted has its message under `id`, unless its channel persists it              (batch_delivered)

A channel that persists a message for one subscriber draws another id for it.  The message goes out under
that one, and the answer does not tell it (`batch_delivered_under_another_id`).
-/

namespace PushRelay

namespace Channel

variable {ch : Channel} {h : Host} {key : String} {m : Message} {id : Int} {messages : MessageLog}
  {bound : Nat}

/-- A message that a channel retains keeps its id, and has got into the log. -/
theorem keep_log (hr : ch.retention = .log messages bound)
    (hok : (ch.keep h key m).result = .ok (m.withId id)) :
    id = m.id ∧ ∃ out log, messages.insertBounded m bound = .ok (out, log) ∧
      (ch.keep h key m).channel.retention = .log log bound := by
  have hk := keep_kept ch h key m
  generalize ch.keep h key m = out at hk hok
  cases hk with
  | refused => cases hok
  | undrawn => cases hok
  | unsaved => cases hok
  | passed hr' => rw [hr] at hr'; cases hr'
  | saved hr' => rw [hr] at hr'; cases hr'
  | retained hr' hi =>
    rw [hr] at hr'
    cases hr'
    exact ⟨(congrArg Message.id (Except.ok.inj hok)).symm, _, _, hi, rfl⟩

/-- What an accepted message is kept as, in a channel that keeps messages as the settings say. -/
structure KeptBy (s : ChannelSettings) (ch : Channel) (h : Host) (key : String) (m : Message)
    (id : Int) (out : Outcome Int) : Prop where
  retained : s.kind = .inner → 0 < s.maxMessages → m.withId id ∈ out.channel.retained
  saved : s.kind = .outer → m.group = .personal → (h.store.save key (m.withId id)).1 = .ok () ∧
    out.host.store = (h.store.save key (m.withId id)).2
  own : s.kind = .inner ∨ m.group = .broadcast → id = m.id
  drawn : s.kind = .outer → m.group = .personal → h.drawId.1 = .ok id

theorem push_keptBy {s : ChannelSettings} (hb : ch.bound? = s.bound?)
    (hok : (ch.push h key m).result = .ok id) :
    KeptBy s ch h key m id (ch.push h key m) := by
  obtain ⟨-, -, hkeep, hret, hstore⟩ := push_ok hok
  cases hs : s.kind with
  | inner =>
    obtain ⟨messages, hlog⟩ : ∃ messages, ch.retention = .log messages s.maxMessages :=
      bound?_eq_some_iff.1 (by rw [hb, ChannelSettings.bound?, hs])
    obtain ⟨hid, out, log, hi, hlog'⟩ := keep_log hlog hkeep
    refine ⟨fun _ hpos => ?_, by simp [hs], fun _ => hid, by simp [hs]⟩
    rw [retained_log (hret.trans hlog'), hid]
    exact MessageLog.self_mem_insertBounded hi hpos
  | outer =>
    have hr : ch.retention = .store :=
      bound?_eq_none_iff.1 (by rw [hb, ChannelSettings.bound?, hs])
    refine ⟨by simp [hs], fun _ hg => ?_, fun hown => ?_, fun _ hg => (keep_personal hr hg hkeep).1⟩
    · obtain ⟨-, hsave, hsaved⟩ := keep_personal hr hg hkeep
      exact ⟨hsave, hstore.trans hsaved⟩
    · have hg := hown.resolve_left (by rw [hs]; decide)
      exact (keep_broadcast hr hg hkeep).1

end Channel

namespace Hub

variable {h : Hub} {key : String}

/-- Looking a channel up is noticed on no queue, nor by the store or the source of ids. -/
theorem lookup_host (h : Hub) (key : String) :
    (h.lookup key).2.host.now = h.host.now ∧ (h.lookup key).2.host.ids = h.host.ids ∧
      (h.lookup key).2.host.store = h.host.store ∧
      ∀ c, (h.lookup key).2.host.waiting c = h.host.waiting c := by
  unfold lookup
  split
  · exact ⟨rfl, rfl, rfl, fun _ => rfl⟩
  · split
    · exact ⟨rfl, rfl, rfl, fun _ => rfl⟩
    · next ch hch =>
      split
      · simp only [closeChannel, hch]
        exact ⟨rfl, rfl, rfl, ch.close_waiting h.host⟩
      · exact ⟨rfl, rfl, rfl, fun _ => rfl⟩

theorem push_result {id : ChannelId} {ch : Channel} {m : Message}
    (hch : h.channels.get? id = some ch) : (h.push id key m).1 = (ch.push h.host key m).result := by
  simp only [push, onChannel, hch]

theorem getOrCreate_host (h : Hub) (key : String) : (h.getOrCreate key).2.host = h.host := by
  unfold getOrCreate
  split <;> rfl

end Hub

namespace Node

variable {n n' : Node} {key : String} {m : Message} {id : Int}

/-! ## Finding the channel -/

/-- The node once the channel has been found that a message for a key goes to. -/
def opened (n : Node) (key : String) : Node := (n.channelForPush key).2

theorem opened_run (n : Node) (key : String) : ∃ es, (n.opened key).hub = n.hub.run es := by
  unfold opened channelForPush
  split
  · next hl => exact ⟨[.lookup key], (congrArg Prod.snd hl).symm⟩
  · next hub hl =>
    have hhub : hub = n.hub.step (.lookup key) := (congrArg Prod.snd hl).symm
    exact ⟨[.lookup key, .getOrCreate key], by rw [hhub]; rfl⟩

/-- A message goes to the channel that its key has from then on, and which is open. -/
theorem opened_serves (hs : n.hub.Sound) (key : String) :
    (n.opened key).hub.registry.find? key = some (n.channelForPush key).1 ∧
      (n.opened key).hub.IsOpen (n.channelForPush key).1 := by
  have hs' : (n.hub.lookup key).2.Sound := hs.step (.lookup key)
  unfold opened channelForPush
  split
  · next hl =>
    have hopen := hs.lookup_isOpen (congrArg Prod.fst hl)
    obtain ⟨hk, rfl⟩ := Desk.lookup_ok hl
    rw [hl] at hopen
    exact ⟨hk, hopen⟩
  · next hl =>
    rw [hl] at hs'
    exact hs'.getOrCreate_isOpen key

theorem opened_host (n : Node) (key : String) :
    (n.opened key).hub.host.now = n.hub.host.now ∧ (n.opened key).hub.host.ids = n.hub.host.ids ∧
      (n.opened key).hub.host.store = n.hub.host.store ∧
      ∀ c, (n.opened key).hub.host.waiting c = n.hub.host.waiting c := by
  have hhost := n.hub.lookup_host key
  unfold opened channelForPush
  split
  · next hl =>
    rw [hl] at hhost
    exact hhost
  · next hl =>
    rw [hl] at hhost
    rw [Hub.getOrCreate_host]
    exact hhost

/-! ## One key -/

/-- The message has got to the channel `channel` of a key, which it found as `ch`: it is kept as the
channels of the node keep messages, and waits on the connections that it reached. -/
structure Delivered (n : Node) (key : String) (m : Message) (channel : ChannelId) (ch : Channel)
    (n' : Node) : Prop where
  found : (n.opened key).hub.channels.get? channel = some ch
  serving : n'.hub.registry.find? key = some channel
  retained : n.hub.settings.kind = .inner → 0 < n.hub.settings.maxMessages →
    ∃ ch', n'.hub.channels.get? channel = some ch' ∧ m ∈ ch'.retained
  saved : n.hub.settings.kind = .outer → m.group = .personal →
    (n.hub.host.store.save key m).1 = .ok () ∧
      n'.hub.host.store = (n.hub.host.store.save key m).2
  written : ∀ c, n'.hub.host.waiting c = n.hub.host.waiting c ++
    if ch.reaches (n.opened key).hub.host m.id c then [m.push] else []

/-- The answer is the channel's. -/
theorem pushTo_result {ch : Channel}
    (hch : (n.opened key).hub.channels.get? (n.channelForPush key).1 = some ch) (m : Message) :
    (n.pushTo key m).1 = (ch.push (n.opened key).hub.host key m).result.mapError .channel := by
  show ((n.opened key).hub.push (n.channelForPush key).1 key m).1.mapError AdminError.channel = _
  rw [Hub.push_result hch]

/-- Taking a message to a key finds its channel and pushes the message to it. -/
theorem pushTo_opened (hs : n.hub.Sound) (key : String) (m : Message) :
    ∃ channel ch out, (n.opened key).hub.channels.get? channel = some ch ∧
      out = ch.push (n.opened key).hub.host key m ∧
      (n.pushTo key m).1 = out.result.mapError .channel ∧
      (n.pushTo key m).2.hub.registry.find? key = some channel ∧
      (n.pushTo key m).2.hub.channels.get? channel = some out.channel ∧
      (n.pushTo key m).2.hub.host = out.host := by
  obtain ⟨hk, ch, hch, -⟩ := opened_serves hs key
  have hcall : (n.pushTo key m).2.hub =
      (n.opened key).hub.call (n.channelForPush key).1 (.push key m) := rfl
  refine ⟨(n.channelForPush key).1, ch, _, hch, rfl, pushTo_result hch m, ?_, ?_, ?_⟩
  · rw [hcall, (Hub.call_rest _ _ _).1]
    exact hk
  · rw [hcall, Hub.call_channels, if_pos rfl, hch]
    rfl
  · rw [hcall, Hub.call_host, hch]
    rfl

theorem pushTo_run (n : Node) (key : String) (m : Message) :
    ∃ es, (n.pushTo key m).2.hub = n.hub.run es := by
  obtain ⟨es, hes⟩ := opened_run n key
  refine ⟨es ++ [.call (n.channelForPush key).1 (.push key m)], ?_⟩
  rw [Hub.run_append, ← hes]
  rfl

/-- A message that is not refused has got to its key.  It keeps its id, unless the channel persists it:
then the channel has drawn the id. -/
theorem pushTo_delivered (hr : n.hub.Reachable) (hok : (n.pushTo key m).1 = .ok id) :
    (∃ channel ch, Delivered n key (m.withId id) channel ch (n.pushTo key m).2) ∧
      (n.hub.settings.kind = .inner ∨ m.group = .broadcast → id = m.id) ∧
      (n.hub.settings.kind = .outer → m.group = .personal → n.hub.host.drawId.1 = .ok id) := by
  obtain ⟨channel, ch, out, hch, rfl, hres, hserving, hafter, hhost⟩ := pushTo_opened hr.sound key m
  obtain ⟨es, hes⟩ := opened_run n key
  obtain ⟨hnow, hids, hstore, hwait⟩ := opened_host n key
  have hpush : (ch.push (n.opened key).hub.host key m).result = .ok id := by
    rw [hok] at hres
    cases hp : (ch.push (n.opened key).hub.host key m).result with
    | error e => rw [hp] at hres; cases hres
    | ok id' => rw [hp] at hres; cases hres; rfl
  have hbound : ch.bound? = n.hub.settings.bound? := by
    have huniform : (n.opened key).hub.Uniform := (hes ▸ hr.run es).regular.uniform
    rw [huniform channel ch hch, hes, Hub.run_settings]
  have hkept := Channel.push_keptBy hbound hpush
  have hdraw : (n.opened key).hub.host.drawId.1 = n.hub.host.drawId.1 := by
    simp only [Host.drawId, hids, hnow]
  have hwritten := Channel.push_waiting hpush
  simp only [← hhost, hwait] at hwritten
  refine ⟨⟨channel, ch, hch, hserving, fun hkind hpos => ⟨_, hafter, hkept.retained hkind hpos⟩,
    fun hkind hg => ?_, hwritten⟩, hkept.own, fun hkind hg => hdraw ▸ hkept.drawn hkind hg⟩
  rw [hhost, ← hstore]
  exact hkept.saved hkind hg

/-! ## All keys -/

/-- One of the keys of a batch, and the node as the message comes to it. -/
structure Visit where
  key : String
  node : Node

namespace Visit

def result (v : Visit) (m : Message) : Except AdminError Int := (v.node.pushTo v.key m).1

/-- The node as the message leaves it. -/
def after (v : Visit) (m : Message) : Node := (v.node.pushTo v.key m).2

/-- What the answer lists, if the message is refused. -/
def failure? (v : Visit) (m : Message) : Option PushFailure :=
  match v.result m with
  | .ok _ => none
  | .error e => some ⟨v.key, e⟩

end Visit

/-- The keys in the order in which the message comes to them, each node being the one that the message
has left behind at the key before. -/
def visits (m : Message) : Node → List String → List Visit
  | _, [] => []
  | n, key :: keys => ⟨key, n⟩ :: visits m (n.pushTo key m).2 keys

theorem map_key_visits (m : Message) (n : Node) (keys : List String) :
    (visits m n keys).map Visit.key = keys := by
  induction keys generalizing n with
  | nil => rfl
  | cons key keys ih => exact congrArg (key :: ·) (ih _)

theorem visits_run (m : Message) (n : Node) (keys : List String) :
    ∀ v ∈ visits m n keys, ∃ es, v.node.hub = n.hub.run es := by
  induction keys generalizing n with
  | nil => exact fun v hv => by cases hv
  | cons key keys ih =>
    intro v hv
    rcases List.mem_cons.1 hv with rfl | hv
    · exact ⟨[], rfl⟩
    · obtain ⟨es, hes⟩ := pushTo_run n key m
      obtain ⟨fs, hfs⟩ := ih _ v hv
      exact ⟨es ++ fs, by rw [hfs, hes, Hub.run_append]⟩

/-- Once all keys have been come to, the node is as the last visit leaves it. -/
theorem getLast?_visits (m : Message) (n : Node) {keys : List String} (hne : keys ≠ []) :
    (visits m n keys).getLast?.map (fun v => v.after m) =
      some (keys.foldl (fun n key => (n.pushTo key m).2) n) := by
  induction keys generalizing n with
  | nil => exact absurd rfl hne
  | cons key keys ih =>
    cases keys with
    | nil => rfl
    | cons key' keys =>
      rw [List.foldl_cons, ← ih _ (List.cons_ne_nil key' keys), visits, visits,
        List.getLast?_cons_cons]

/-- A batch counts the keys at which the message is not refused, and lists the others. -/
theorem pushEach_visits (m : Message) (n : Node) (keys : List String) :
    n.pushEach m keys =
      (((visits m n keys).countP fun v => (v.failure? m).isNone,
        (visits m n keys).filterMap fun v => v.failure? m),
        keys.foldl (fun n key => (n.pushTo key m).2) n) := by
  induction keys generalizing n with
  | nil => rfl
  | cons key keys ih =>
    rcases hp : n.pushTo key m with ⟨e | id, n'⟩
    · have hfailure : Visit.failure? ⟨key, n⟩ m = some ⟨key, e⟩ := by
        simp only [Visit.failure?, Visit.result, hp]
      simp only [pushEach, visits, List.foldl_cons, hp, ih, List.countP_cons, List.filterMap_cons,
        hfailure, Option.isNone_some, Bool.false_eq_true, if_false, Nat.add_zero]
    · have hfailure : Visit.failure? ⟨key, n⟩ m = none := by
        simp only [Visit.failure?, Visit.result, hp]
      simp only [pushEach, visits, List.foldl_cons, hp, ih, List.countP_cons, List.filterMap_cons,
        hfailure, Option.isNone_none, if_true]

/-- Every key is counted or listed. -/
theorem count_add_failures (m : Message) (vs : List Visit) :
    (vs.countP fun v => (v.failure? m).isNone) + (vs.filterMap fun v => v.failure? m).length =
      vs.length := by
  rw [List.length_filterMap_eq_countP,
    List.length_eq_countP_add_countP fun v => (v.failure? m).isNone]
  congr 2
  funext v
  cases v.failure? m <;> rfl

/-! ## Answering -/

/-- The message that a batch takes to its keys. -/
def batchMessage (n : Node) (r : BatchRequest) (id : Int) : Message :=
  ⟨id, Utf8.ofString r.body, r.group, deadlineAfter n.hub.host.now (r.expireSecs * secondNanos)⟩

/-- A batch that is answered has drawn an id and has taken its message to the keys. -/
theorem adminBatch_ok {r : BatchRequest} {pushed : Nat} {failures : List PushFailure}
    (answered : n.adminBatch r = (.ok (.batch id pushed failures), n')) :
    r.keys ≠ [] ∧ n.drawId.1 = .ok id ∧
      n.drawId.2.pushEach (n.drawId.2.batchMessage r id) r.keys = ((pushed, failures), n') := by
  unfold adminBatch assignId at answered
  rw [if_pos rfl] at answered
  split at answered
  · cases answered
  · next hkeys =>
    have hne : r.keys ≠ [] := fun he => hkeys (List.isEmpty_iff.2 he)
    rcases hd : n.drawId with ⟨e | id', n₀⟩
    · rw [hd] at answered
      cases answered
    · rw [hd] at answered
      simp only [buildMessage] at answered
      split at answered
      · cases answered
      · next m hm =>
        split at hm
        · cases hm
        · cases hm
          cases answered
          exact ⟨hne, rfl, rfl⟩

/-- What the answer to a batch tells, on any node that has come about.  Every occurrence of a key is
counted or listed, and those listed are the ones at which the message was refused, in order and with the
causes.  At every other one the message has got to the key's channel under an id: it is kept there as
the channels of the node keep messages, and waits under that id on every connection that it reached.
That is the id of the answer, unless the channels persist messages and this one is for one subscriber.
Then it is an id that the channel has drawn.  The node is left as the message leaves it at the last key. -/
theorem batch_delivered (hr : n.hub.Reachable) {r : BatchRequest} {pushed : Nat}
    {failures : List PushFailure}
    (answered : n.adminBatch r = (.ok (.batch id pushed failures), n')) :
    let m := n.drawId.2.batchMessage r id
    let vs := visits m n.drawId.2 r.keys
    vs.map Visit.key = r.keys ∧ pushed + failures.length = r.keys.length ∧
    pushed = (vs.countP fun v => (v.failure? m).isNone) ∧
    failures = (vs.filterMap fun v => v.failure? m) ∧
    vs.getLast?.map (fun v => v.after m) = some n' ∧
    ∀ v ∈ vs, ∀ id', v.result m = .ok id' →
      (∃ channel ch, Delivered v.node v.key (m.withId id') channel ch (v.after m)) ∧
      (n.hub.settings.kind = .inner ∨ r.group = .broadcast → id' = id) ∧
      (n.hub.settings.kind = .outer → r.group = .personal → v.node.hub.host.drawId.1 = .ok id') := by
  intro m vs
  obtain ⟨hne, -, hpush⟩ := adminBatch_ok answered
  have hlast := getLast?_visits m n.drawId.2 hne
  rw [pushEach_visits] at hpush
  cases hpush
  have hkeys : vs.map Visit.key = r.keys := map_key_visits m n.drawId.2 r.keys
  have hlength : vs.length = r.keys.length := by
    rw [← List.length_map Visit.key, hkeys]
  refine ⟨hkeys, (count_add_failures m vs).trans hlength, rfl, rfl, hlast, fun v hv id' hok => ?_⟩
  obtain ⟨es, hes⟩ := visits_run m n.drawId.2 r.keys v hv
  have hrun : v.node.hub = n.hub.run (.host .draw :: es) := hes
  have hsettings : v.node.hub.settings = n.hub.settings := by
    rw [hrun, Hub.run_settings]
  have hreach : v.node.hub.Reachable := hrun ▸ hr.run _
  rw [← hsettings]
  exact pushTo_delivered hreach hok

/-- A node with a subscriber to "a", at ten nanoseconds, with channels of a kind. -/
def listeningNode (kind : ChannelKind) : Node where
  config := .loopback
  hub := ({ Hub.emptyHub with settings := { Hub.emptyHub.settings with kind } }).run
    [.getOrCreate "a", .host (.connect 2), .call 0 (.attach "a" 1 0), .call 0 (.replay 1 0)]
  ring := ⟨fun _ => 0, ["1"], 1, [(0, "1")]⟩

theorem reachable_listeningNode (kind : ChannelKind) : (listeningNode kind).hub.Reachable := by
  refine ⟨Registry.spread, 2, { Hub.emptyHub.settings with kind }, true, 10, .time, .ofMemory .new,
    _, _, ?_, rfl⟩
  cases kind <;> rfl

/-- A key that occurs twice has the message once. -/
theorem batch_delivered_to_a_repeated_key :
    let n := listeningNode .inner
    let r : BatchRequest := ⟨["a", "b", "a"], "x", 1, .personal⟩
    let m := n.drawId.2.batchMessage r 10
    let vs := visits m n.drawId.2 r.keys
    n.hub.Reachable ∧
    (n.adminBatch r).1 = .ok (.batch 10 2 [⟨"a", .channel (.duplicateMessage 10)⟩]) ∧
    vs.getLast?.map (fun v => v.after m) = some (n.adminBatch r).2 ∧
    (∀ v ∈ vs, ∀ id', v.result m = .ok id' → id' = 10 ∧
      ∃ channel ch, Delivered v.node v.key m channel ch (v.after m)) ∧
    (n.adminBatch r).2.hub.host.waiting 1 = [m.push] := by
  have answer : ((listeningNode .inner).adminBatch ⟨["a", "b", "a"], "x", 1, .personal⟩).1 =
      .ok (.batch 10 2 [⟨"a", .channel (.duplicateMessage 10)⟩]) := rfl
  intro n r m vs
  have hr : n.hub.Reachable := reachable_listeningNode .inner
  obtain ⟨-, -, -, -, hlast, hall⟩ := batch_delivered hr (Prod.ext answer rfl)
  refine ⟨hr, answer, hlast, fun v hv id' hok => ?_, by decide⟩
  obtain ⟨hdelivered, hid, -⟩ := hall v hv id' hok
  cases hid (Or.inl rfl)
  exact ⟨rfl, hdelivered⟩

/-- The answer says 10, and the message is written and persisted under 11. -/
theorem batch_delivered_under_another_id :
    let n := listeningNode .outer
    let r : BatchRequest := ⟨["a"], "x", 1, .personal⟩
    let m := n.drawId.2.batchMessage r 10
    n.hub.Reachable ∧ (n.adminBatch r).1 = .ok (.batch 10 1 []) ∧
    (n.adminBatch r).2.hub.host.waiting 1 = [(m.withId 11).push] ∧
    (n.adminBatch r).2.hub.host.store.stored "a" = [m.withId 11] :=
  ⟨reachable_listeningNode .outer, rfl, by decide, by decide⟩

end Node

end PushRelay
