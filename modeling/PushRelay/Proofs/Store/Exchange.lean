import Mathlib.Data.List.Forall2
import PushRelay.Proofs.Message
import PushRelay.Store.Remote

/-!
# What a service keeps

Messages come back from a service as they were sent to it.  What a save sends stands for its key and its
message, and what a get receives stands for the messages the service holds, whichever way it lays them out;
no two messages share a text.

    m.Sized → sent? (s.saveRequest key m) = some (key, Json.record m.members)
    List.Forall₂ Message.LaidOut ms layouts → answered with layouts → s.get peer key since = .ok ms
                                                                                    (messages_survive)
-/

namespace PushRelay

namespace RemoteStore

variable {s : RemoteStore} {m : Message} {ms : List Message} {layouts : List (List (String × Json))}

/-- The key and the message that the text of a request holds. -/
def sent? (r : Http.Request) : Option (String × Json) :=
  match (r.json.bind fun j => Json.parse? j.print).bind (Json.record? ["key", "message"]) with
  | some [some key, some message] => key.text?.map fun key => (key, message)
  | _ => none

/-- What a service answers that lays out its messages one way or the other. -/
def answerText (layouts : List (List (String × Json))) : Bytes :=
  (Json.record [("items", .array (layouts.map .record))]).print

/-- A save sends its key and its message. -/
theorem sent?_saveRequest (s : RemoteStore) (key : String) (m : Message) :
    sent? (s.saveRequest key m) = some (key, .record m.members) := by
  have hmembers : ∀ e ∈ [("key", Json.text key), ("message", m.toJson)], e.2.Written := by
    intro e he
    simp only [List.mem_cons, List.not_mem_nil, or_false] at he
    rcases he with rfl | rfl
    · exact .octets _
    · exact m.laidOut_members.written
  have hread : (Json.parse? (Json.record [("key", .text key), ("message", m.toJson)]).print).bind
      (Json.record? ["key", "message"]) = some [some (.text key), some m.toJson] :=
    Json.record?_print _ hmembers
  simp only [sent?, saveRequest, Option.bind_some, hread, Json.text?_text, Option.map_some]
  rw [Message.toJson_eq]

theorem written_layouts (h : List.Forall₂ Message.LaidOut ms layouts) :
    ∀ layout ∈ layouts, (Json.record layout).Written := by
  induction h with
  | nil => exact fun _ h => by cases h
  | cons hlayout _ ih => exact List.forall_mem_cons.2 ⟨hlayout.written, ih⟩

theorem mapM_ofJson? (hms : ∀ m ∈ ms, m.Sized) (h : List.Forall₂ Message.LaidOut ms layouts) :
    (layouts.map Json.record).mapM Message.ofJson? = some ms := by
  induction h with
  | nil => rfl
  | @cons m layout ms layouts hlayout _ ih =>
    have hfirst := Message.ofJson?_of_laidOut (hms m List.mem_cons_self) hlayout
    have hrest := ih fun m' hm' => hms m' (List.mem_cons_of_mem m hm')
    rw [List.map_cons, List.mapM_cons, hfirst, hrest]
    rfl

/-- The messages of an answer are those that were laid out. -/
theorem items?_answerText (hms : ∀ m ∈ ms, m.Sized) (h : List.Forall₂ Message.LaidOut ms layouts) :
    items? (answerText layouts) = some ms := by
  have hitems : ∀ e ∈ [("items", Json.array (layouts.map .record))], e.2.Written := by
    intro e he
    rw [List.mem_singleton.1 he]
    exact .array (List.forall_mem_map.2 (written_layouts h))
  have hread : (Json.parse? (answerText layouts)).bind (Json.record? ["items"]) =
      some [some (.array (layouts.map .record))] := Json.record?_print _ hitems
  rw [items?, hread]
  exact mapM_ofJson? hms h

theorem get_of_answer {peer : Http.Peer} {key : String} {since : Int} {status : Nat}
    (hms : ∀ m ∈ ms, m.Sized) (h : List.Forall₂ Message.LaidOut ms layouts)
    (hanswer : answer peer (s.getRequest key since) = .ok ⟨status, answerText layouts⟩) :
    s.get peer key since = .ok ms := by
  simp only [get, hanswer, items?_answerText hms h]

/-- Messages are read back from their texts, also with the fields in another order and without the group
of a personal message.  So no two messages share a text, and what a service was sent comes back
unchanged. -/
theorem messages_survive (s : RemoteStore) (key : String) (hm : m.Sized) :
    Message.parse? m.print = some m ∧
    (∀ layout, m.LaidOut layout → Message.parse? (Json.record layout).print = some m) ∧
    (∀ m' layout layout', m'.Sized → m.LaidOut layout → m'.LaidOut layout' →
      (Json.record layout).print = (Json.record layout').print → m = m') ∧
    sent? (s.saveRequest key m) = some (key, .record m.members) ∧
    ∀ peer since status ms layouts, (∀ m' ∈ ms, m'.Sized) →
      List.Forall₂ Message.LaidOut ms layouts →
      answer peer (s.getRequest key since) = .ok ⟨status, answerText layouts⟩ →
      s.get peer key since = .ok ms := by
  refine ⟨?_, ?_, ?_, sent?_saveRequest s key m, ?_⟩
  · exact Message.parse?_of_laidOut hm m.laidOut_members
  · exact fun layout hlayout => Message.parse?_of_laidOut hm hlayout
  · intro m' layout layout' hm' hlayout hlayout' htext
    have hread := Message.parse?_of_laidOut hm hlayout
    rw [htext, Message.parse?_of_laidOut hm' hlayout'] at hread
    exact (Option.some.inj hread).symm
  · exact fun peer since status ms layouts hms hlayouts hanswer => get_of_answer hms hlayouts hanswer

/-- A service of our own host. -/
def localService : RemoteStore :=
  ⟨⟨"http".toList, some ⟨none, "h".toList, none⟩, .segments [[]], none, none, false⟩⟩

/-- A service that answers with a message as it was sent and once more turned around, its group left out. -/
theorem messages_survive_turned :
    let m : Message := ⟨Numeral.int64Min, [0, 34, 255, 92], .personal, Numeral.int64Max⟩
    let turned := m.ungrouped.reverse
    let peer : Http.Peer := fun _ => some ⟨200, answerText [m.members, turned]⟩
    m.Sized ∧ m.LaidOut turned ∧ Message.parse? (Json.record turned).print = some m ∧
    localService.get peer "k" 0 = .ok [m, m] := by
  intro m turned peer
  have hm : m.Sized := ⟨by decide, by decide⟩
  have hturned : m.LaidOut turned := .ungrouped rfl (List.reverse_perm _)
  obtain ⟨-, hread, -, -, hget⟩ := messages_survive localService "k" hm
  refine ⟨hm, hturned, hread turned hturned, ?_⟩
  refine hget peer 0 200 [m, m] [m.members, turned] ?_ ?_ rfl
  · simp only [List.mem_cons, List.not_mem_nil, or_false, or_self, forall_eq]
    exact hm
  · exact .cons m.laidOut_members (.cons hturned .nil)

end RemoteStore

end PushRelay
