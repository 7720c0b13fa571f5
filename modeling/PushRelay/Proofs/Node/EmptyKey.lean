import PushRelay.Proofs.Node.Migration
import PushRelay.Proofs.Node.Run

/-!
# The empty key

Whoever asks a node for the channel of the empty key is refused, and nothing happens.  A batch is the
exception: it takes its message to the empty key as to any other, and opens a channel for it.

    (n.run es).hub.contains "" = true → n.hub.contains "" = true ∨
      ∃ fs r gs, es = fs ++ .administer (.pushBatch r) :: gs ∧ "" ∈ r.keys ∧ …  (contains_empty_run)
-/

namespace PushRelay

/-- The key that a request is about.  A batch has several. -/
def AdminRequest.soleKey? : AdminRequest → Option String
  | .newChannel key | .closeChannel key | .addToken key _ => some key
  | .push r => some r.key
  | .pushBatch _ | .migrate .. | .stats => none

theorem AdminRequest.mem_keys {r : AdminRequest} {key : String} (hk : key ∈ r.keys) :
    r.soleKey? = some key ∨ ∃ b, r = .pushBatch b := by
  cases r with
  | pushBatch b => exact Or.inr ⟨b, rfl⟩
  | migrate nodes vnodes => cases hk
  | stats => cases hk
  | _ => exact Or.inl (congrArg some (List.mem_singleton.1 hk).symm)

theorem Hub.contains_lookup_of_ne {h : Hub} {key key' : String} (hp : h.registry.Placed)
    (hne : key' ≠ key) : (h.lookup key).2.contains key' = h.contains key' := by
  unfold lookup
  split
  · rfl
  · next id hf =>
    split
    · rfl
    · split
      · have hd := (dropped_erase hp hf).find? key'
        rw [if_neg (by simpa using hne)] at hd
        exact congrArg Option.isSome hd
      · rfl

namespace Node

variable {n : Node} {key key' : String} {m : Message} {r : BatchRequest}

/-! ## Refusals -/

theorem administer_empty {r : AdminRequest} (hr : r.soleKey? = some "") :
    n.administer r = (.error .emptyKey, n) := by
  cases r with
  | pushBatch r => cases hr
  | migrate nodes vnodes => cases hr
  | stats => cases hr
  | push r =>
    have hkey : r.key = "" := Option.some.inj hr
    simp only [administer, adminPush, hkey]
    rfl
  | _ =>
    cases hr
    rfl

theorem subscribe_empty (n : Node) (heartbeat : Nat) (token : Option String) (lastId : Int) :
    n.subscribe "" heartbeat token lastId = (.error .param, n) := rfl

theorem assignId_registry (n : Node) (requested : Int) :
    (n.assignId requested).2.hub.registry = n.hub.registry := by
  unfold assignId
  split
  · split
    · next he => exact congrArg (fun out => out.2.hub.registry) he.symm
    · next he => exact congrArg (fun out => out.2.hub.registry) he.symm
  · split
    · rfl
    · rfl

/-- A batch is refused and has not come to any key, or it is answered and has come to all of them. -/
theorem adminBatch_cases (n : Node) (r : BatchRequest) :
    ((∃ e, (n.adminBatch r).1 = .error e) ∧
      (n.adminBatch r).2.hub.registry = n.hub.registry) ∨
    ((∃ answer, (n.adminBatch r).1 = .ok answer) ∧
      ∃ m, (n.adminBatch r).2 = ((n.assignId 0).2.pushEach m r.keys).2) := by
  have hid := assignId_registry n 0
  unfold adminBatch
  split
  · exact Or.inl ⟨⟨_, rfl⟩, rfl⟩
  · split
    · next he =>
      rw [he] at hid
      exact Or.inl ⟨⟨_, rfl⟩, hid⟩
    · next he =>
      rw [he] at hid
      split
      · exact Or.inl ⟨⟨_, rfl⟩, hid⟩
      · next m _ => exact Or.inr ⟨⟨_, rfl⟩, m, by rw [he]⟩

theorem adminBatch_error {e : AdminError} (refused : (n.adminBatch r).1 = .error e) :
    (n.adminBatch r).2.hub.registry = n.hub.registry := by
  rcases adminBatch_cases n r with ⟨-, hreg⟩ | ⟨⟨answer, hok⟩, -⟩
  · exact hreg
  · rw [hok] at refused
    cases refused

/-! ## Keys that a batch comes to -/

theorem contains_pushTo (hs : n.hub.Sound) (key : String) (m : Message) :
    (n.pushTo key m).2.hub.contains key = true := by
  obtain ⟨channel, -, -, -, -, -, hserving, -⟩ := pushTo_opened hs key m
  exact Hub.contains_iff.2 ⟨channel, hserving⟩

/-- A key keeps having a channel while messages go to others. -/
theorem contains_opened_of_contains (hs : n.hub.Sound) (hne : key' ≠ key)
    (hk : n.hub.contains key' = true) : (n.opened key).hub.contains key' = true := by
  have hlook := (Hub.contains_lookup_of_ne hs.placed hne).trans hk
  have hsound : (n.hub.lookup key).2.Sound := hs.step (.lookup key)
  unfold opened channelForPush
  split
  · next hl => rwa [hl] at hlook
  · next hl =>
    rw [hl] at hlook hsound
    exact (Hub.contains_getOrCreate hsound.placed key key').2 (Or.inr hlook)

theorem contains_pushTo_of_contains (hs : n.hub.Sound) (m : Message)
    (hk : n.hub.contains key' = true) : (n.pushTo key m).2.hub.contains key' = true := by
  by_cases hne : key' = key
  · exact hne ▸ contains_pushTo hs key' m
  · have hcall : (n.pushTo key m).2.hub =
        (n.opened key).hub.call (n.channelForPush key).1 (.push key m) := rfl
    rw [hcall, Hub.contains, (Hub.call_rest _ _ _).1]
    exact contains_opened_of_contains hs hne hk

theorem contains_pushEach (hs : n.hub.Sound) (m : Message) {keys : List String}
    (hk : n.hub.contains key = true ∨ key ∈ keys) :
    (n.pushEach m keys).2.hub.contains key = true := by
  rw [pushEach_visits]
  induction keys generalizing n with
  | nil => exact hk.resolve_right List.not_mem_nil
  | cons first keys ih =>
    obtain ⟨es, hes⟩ := pushTo_run n first m
    have hs' : (n.pushTo first m).2.hub.Sound := hes ▸ hs.run es
    refine ih hs' ?_
    rcases hk with hk | hk
    · exact Or.inl (contains_pushTo_of_contains hs m hk)
    · rcases List.mem_cons.1 hk with rfl | hk
      · exact Or.inl (contains_pushTo hs key m)
      · exact Or.inr hk

/-- Every key of a batch that is answered has a channel then. -/
theorem contains_adminBatch (hs : n.hub.Sound) {answer : AdminAnswer}
    (answered : (n.adminBatch r).1 = .ok answer) (hk : key ∈ r.keys) :
    (n.adminBatch r).2.hub.contains key = true := by
  rcases adminBatch_cases n r with ⟨⟨e, he⟩, -⟩ | ⟨-, m, hm⟩
  · rw [he] at answered
    cases answered
  · have hid : Opening [] n (n.assignId 0).2 := opening_assignId n 0
    rw [hm]
    exact contains_pushEach (hid.sound hs) m (Or.inr hk)

/-! ## Runs -/

/-- The event is a batch that names the empty key, and the node answers it. -/
def OpensEmpty (n : Node) (e : NodeEvent) : Prop :=
  ∃ r answer, e = .administer (.pushBatch r) ∧ "" ∈ r.keys ∧ (n.adminBatch r).1 = .ok answer

/-- Only such a batch gives the empty key a channel. -/
theorem contains_empty_step (hs : n.hub.Sound) (e : NodeEvent)
    (hk : (n.step e).hub.contains "" = true) : n.hub.contains "" = true ∨ OpensEmpty n e := by
  rcases (opening_step n e).contains hs hk with hk' | hnamed
  · exact Or.inl hk'
  · cases e with
    | administer r =>
      rcases AdminRequest.mem_keys hnamed with hsole | ⟨r, rfl⟩
      · rw [step, administer_empty hsole] at hk
        exact Or.inl hk
      · cases hanswer : (n.adminBatch r).1 with
        | ok answer => exact Or.inr ⟨r, answer, rfl, hnamed, hanswer⟩
        | error e =>
          have hreg : (n.step (.administer (.pushBatch r))).hub.registry = n.hub.registry :=
            adminBatch_error hanswer
          rw [Hub.contains, hreg] at hk
          exact Or.inl hk
    | subscribe key heartbeat token lastId =>
      rw [step, ← List.mem_singleton.1 hnamed, subscribe_empty] at hk
      exact Or.inl hk
    | unsubscribe s => cases hnamed
    | sync members => cases hnamed
    | host e => cases hnamed

theorem contains_empty_run (hs : n.hub.Sound) (es : List NodeEvent)
    (hk : (n.run es).hub.contains "" = true) :
    n.hub.contains "" = true ∨ ∃ fs e gs, es = fs ++ e :: gs ∧ OpensEmpty (n.run fs) e := by
  induction es generalizing n with
  | nil => exact Or.inl hk
  | cons e es ih =>
    rcases ih ((opening_step n e).sound hs) hk with hk | ⟨fs, e', gs, rfl, hopens⟩
    · rcases contains_empty_step hs e hk with hk | hopens
      · exact Or.inl hk
      · exact Or.inr ⟨[], e, es, rfl, hopens⟩
    · exact Or.inr ⟨e :: fs, e', gs, rfl, hopens⟩

/-- A node just made has no channels. -/
theorem contains_withStore {hash : String → UInt32} {config : Config} {store : Option Store}
    {now : Int} (made : withStore hash config store now = .ok n) (key : String) :
    n.hub.contains key = false := by
  obtain ⟨ids, hmade⟩ := made_hub made
  obtain ⟨registry, hr, hhub⟩ := Hub.new_ok hmade
  rw [hhub]
  exact congrArg Option.isSome ((Registry.placed_new hr).2 key)

/-- The empty key on a node that has gone through any run.  A request about it is refused with a
parameter error, and so is a subscriber to it; neither changes the node.  A batch that names it is refused
and leaves every key as it was, or it is answered, and then the empty key has a channel.  It never has one
unless the node has answered such a batch before. -/
theorem empty_key_only_by_batch {hash : String → UInt32} {config : Config} {store : Option Store}
    {now : Int} (made : withStore hash config store now = .ok n) (es : List NodeEvent) :
    let n' := n.run es
    (∀ r : AdminRequest, r.soleKey? = some "" →
      ∃ e, n'.administer r = (.error e, n') ∧ e.status = 400 ∧ e.code = "param_error") ∧
    (∀ heartbeat token lastId, n'.subscribe "" heartbeat token lastId = (.error .param, n')) ∧
    (∀ r : BatchRequest, "" ∈ r.keys →
      ((∃ e, (n'.adminBatch r).1 = .error e) ∧
        (n'.adminBatch r).2.hub.registry = n'.hub.registry) ∨
      ((∃ answer, (n'.adminBatch r).1 = .ok answer) ∧
        (n'.adminBatch r).2.hub.contains "" = true)) ∧
    (n'.hub.contains "" = true → ∃ fs r gs, es = fs ++ .administer (.pushBatch r) :: gs ∧
      "" ∈ r.keys ∧ ∃ answer, ((n.run fs).adminBatch r).1 = .ok answer) := by
  intro n'
  have hs : n.hub.Sound := (reachable_withStore made).sound
  refine ⟨fun r hr => ⟨.emptyKey, administer_empty hr, rfl, rfl⟩, subscribe_empty n',
    fun r hr => ?_, fun hk => ?_⟩
  · rcases adminBatch_cases n' r with hrefused | ⟨⟨answer, hok⟩, -⟩
    · exact Or.inl hrefused
    · exact Or.inr ⟨⟨answer, hok⟩, contains_adminBatch (sound_run hs es) hok hr⟩
  · rcases contains_empty_run hs es hk with hstart | ⟨fs, e, gs, hes, r, answer, rfl, hr, hok⟩
    · rw [contains_withStore made] at hstart
      cases hstart
    · exact ⟨fs, r, gs, hes, hr, answer, hok⟩

/-- A node that has opened a channel for the empty key refuses to close it. -/
theorem empty_key_only_by_batch_of_two_keys :
    let es : List NodeEvent := [.administer (.newChannel "a"),
      .administer (.pushBatch ⟨["b", ""], "x", 1, .personal⟩)]
    let n := newNode.run es
    n.hub.contains "" = true ∧
    (∃ fs r gs, es = fs ++ .administer (.pushBatch r) :: gs ∧ "" ∈ r.keys) ∧
    ∃ e, n.administer (.closeChannel "") = (.error e, n) ∧ e.status = 400 := by
  intro es n
  have hopen : n.hub.contains "" = true := by decide +kernel
  obtain ⟨hrefused, -, -, honly⟩ := empty_key_only_by_batch made_newNode es
  obtain ⟨fs, r, gs, hes, hr, -⟩ := honly hopen
  obtain ⟨e, he, hstatus, -⟩ := hrefused (.closeChannel "") rfl
  exact ⟨hopen, ⟨fs, r, gs, hes, hr⟩, e, he, hstatus⟩

/-- A node without channels takes a batch for the empty key, which has a channel then. -/
theorem empty_key_opened :
    let r : BatchRequest := ⟨[""], "x", 1, .personal⟩
    newNode.hub.contains "" = false ∧
    (newNode.adminBatch r).1 = .ok (.batch 1306381411942404096 1 []) ∧
    (newNode.adminBatch r).2.hub.contains "" = true :=
  ⟨rfl, rfl, rfl⟩

end Node

end PushRelay
