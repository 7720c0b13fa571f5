import PushRelay.Proofs.Net.Path
import PushRelay.Store.Remote

/-!
# Addresses of stored messages

The messages of a key have an address of their own: the key is one segment more behind the address of all
messages.  That holds of every key but those that are dots, and those that hold tabs or line breaks.
What becomes of a key is its `Url.placing`, and that is all the address tells of it.

    (s.messagesUrl k₁).print = (s.messagesUrl k₂).print ↔ placing k₁ = placing k₂
                                                                       (print_messagesUrl_eq_iff)
-/

namespace PushRelay

namespace RemoteStore

variable {s : RemoteStore} {url : String}

theorem new_ok (accepted : new url = .ok s) : ∃ path, s.base.path = .segments path := by
  unfold new at accepted
  split at accepted
  · cases accepted
  · split at accepted
    · cases accepted
    · next base _ hbase =>
      cases accepted
      unfold Url.cannotBeBase at hbase
      split at hbase
      · exact absurd rfl hbase
      · next path hpath => exact ⟨path, hpath⟩

/-- What becomes of a key; no key at all is left out. -/
def placing (key : Option String) : Url.Placing :=
  (key.map fun k => Url.placing k.toList).getD .omitted

/-- The segments of the service are written as they stand. -/
theorem encode_segment (u : Url) :
    ∀ name ∈ ["v1", "messages"], Percent.encode u.segmentSet name.toList = name.toList := by
  unfold Url.segmentSet
  split <;> decide

/-- The addresses of a service: behind that of all messages is what becomes of the key. -/
theorem messagesUrl_path (hbase : ∃ path, s.base.path = .segments path) :
    ∃ front, ∀ key, s.messagesUrl key = { s.base with
      path := .segments ((placing key).apply s.base.segmentSet (front ++ ["messages".toList])) } := by
  obtain ⟨path, hpath⟩ := hbase
  have he := Url.escapesPercent_segmentSet s.base
  have hversion : Url.IsPlain "v1".toList := ⟨by decide, by simp⟩
  have hmessages : Url.IsPlain "messages".toList := ⟨by decide, by simp⟩
  let start := Url.dropEmptyLast path
  let front := (if start = [[]] then [] else start) ++ ["v1".toList]
  have hfront : Url.appendSegment s.base.segmentSet start "v1".toList = front := by
    rw [Url.appendSegment_plain he hversion, encode_segment _ "v1" (by simp)]
  have hall : Url.appendSegment s.base.segmentSet front "messages".toList =
      front ++ ["messages".toList] := by
    rw [Url.appendSegment_plain he hmessages, encode_segment _ "messages" (by simp),
      if_neg (Url.append_singleton_ne_root (by decide))]
  have hkey (key : Option String) :
      key.toList.foldl (fun path k => Url.appendSegment s.base.segmentSet path k.toList)
        (front ++ ["messages".toList]) =
      (placing key).apply s.base.segmentSet (front ++ ["messages".toList]) := by
    cases key with
    | none => rfl
    | some k => exact Url.appendSegment_placing he (by decide) (by decide) front k.toList
  refine ⟨front, fun key => ?_⟩
  rw [← hkey, ← hall, ← hfront, messagesUrl, Url.extend, hpath]
  rfl

/-- The addresses of two keys are the same exactly if the same becomes of the keys. -/
theorem print_messagesUrl_eq_iff (hbase : ∃ path, s.base.path = .segments path)
    (k₁ k₂ : Option String) :
    (s.messagesUrl k₁).print = (s.messagesUrl k₂).print ↔ placing k₁ = placing k₂ := by
  obtain ⟨front, hurl⟩ := messagesUrl_path hbase
  rw [hurl, hurl, Url.print_eq_iff, Url.writeSegments_apply, Url.writeSegments_apply,
    List.append_cancel_left_eq]
  exact ⟨Url.Placing.write_injective (Url.escapesPercent_segmentSet _) (by decide), fun h => by rw [h]⟩

theorem placing_eq_none_iff (k : String) : placing (some k) = placing none ↔ k = "." ∨ k = ".." := by
  have hsingle : k.toList = ['.'] ↔ k = "." := @String.toList_inj k "."
  have hdouble : k.toList = ['.', '.'] ↔ k = ".." := @String.toList_inj k ".."
  rw [← hsingle, ← hdouble]
  exact Url.placing_eq_omitted_iff

/-- For every service, plain keys stay apart.  In general two keys share an address if the same becomes
of them, and only the dots share that of all messages. -/
theorem messagesUrl_eq_iff (accepted : new url = .ok s) (k₁ k₂ : String) :
    (Url.IsPlain k₁.toList → Url.IsPlain k₂.toList → k₁ ≠ k₂ →
      (s.messagesUrl (some k₁)).print ≠ (s.messagesUrl (some k₂)).print) ∧
    ((s.messagesUrl (some k₁)).print = (s.messagesUrl (some k₂)).print ↔
      Url.placing k₁.toList = Url.placing k₂.toList) ∧
    ((s.messagesUrl (some k₁)).print = (s.messagesUrl none).print ↔ k₁ = "." ∨ k₁ = "..") := by
  have hiff := print_messagesUrl_eq_iff (new_ok accepted)
  refine ⟨fun h₁ h₂ hne heq => ?_, hiff _ _, (hiff _ _).trans (placing_eq_none_iff k₁)⟩
  have hplacing : Url.placing k₁.toList = Url.placing k₂.toList := (hiff _ _).1 heq
  rw [h₁.placing, h₂.placing, Url.Placing.below.injEq] at hplacing
  exact hne (String.toList_inj.1 hplacing)

/-- A service at a base with a query and an empty last segment. -/
def archive : RemoteStore :=
  ⟨⟨"x".toList, some ⟨none, "h".toList, none⟩, .segments ["api".toList, []], some ['q'], none, false⟩⟩

theorem new_archive : new "x://h/api/?q" = .ok archive := by
  have hread : (new "x://h/api/?q").toOption = some archive := by decide +kernel
  revert hread
  cases new "x://h/api/?q" with
  | error e => intro h; cases h
  | ok s => intro h; rw [Option.some.inj h]

/-- An encoded slash and a slash that gets encoded, and a dot. -/
theorem messagesUrl_eq_iff_of_slashes :
    (archive.messagesUrl (some "a/b")).print ≠ (archive.messagesUrl (some "a%2Fb")).print ∧
    (archive.messagesUrl (some ".")).print = (archive.messagesUrl none).print := by
  have hplain : Url.IsPlain "a/b".toList := ⟨by decide, by simp⟩
  have hplain' : Url.IsPlain "a%2Fb".toList := ⟨by decide, by simp⟩
  obtain ⟨hapart, -, -⟩ := messagesUrl_eq_iff new_archive "a/b" "a%2Fb"
  obtain ⟨-, -, hall⟩ := messagesUrl_eq_iff new_archive "." "a/b"
  exact ⟨hapart hplain hplain' (by decide), hall.2 (.inl rfl)⟩

/-- Distinct keys at one address: those of dots are all messages, and a tab is gone. -/
theorem messagesUrl_collisions : new "x://h/api/?q" = .ok archive ∧
    (archive.messagesUrl (some ".")).print = "x://h/api/v1/messages?q" ∧
    (archive.messagesUrl (some "..")).print = "x://h/api/v1/messages?q" ∧
    (archive.messagesUrl none).print = "x://h/api/v1/messages?q" ∧
    (archive.messagesUrl (some "a\tb")).print = "x://h/api/v1/messages/ab?q" ∧
    (archive.messagesUrl (some "ab")).print = "x://h/api/v1/messages/ab?q" := by
  refine ⟨new_archive, ?_, ?_, ?_, ?_, ?_⟩ <;> decide

end RemoteStore

end PushRelay
