import PushRelay.Json.Record
import PushRelay.Proofs.Json.RoundTrip

/-!
# Records read back

The fields of a record are found by name, so the order of its members does not matter.

    members.Perm members' → record? fields (record members) = record? fields (record members')
                                                                                      (record?_perm)
-/

namespace PushRelay.Json

variable {members members' : List (String × Json)} {fields : List String}

theorem name?_escape (name : String) : name? (escape (Utf8.ofString name)) = some name :=
  text?_text name

theorem named?_record (members : List (String × Json)) :
    named? (members.map fun (name, value) => (escape (Utf8.ofString name), value)) =
      some members := by
  induction members with
  | nil => rfl
  | cons m members ih => simp only [List.map_cons, named?, name?_escape, ih]

/-- A record is looked through for one field after the other. -/
theorem record?_record (fields : List String) (members : List (String × Json)) :
    record? fields (record members) = fields.mapM fun field => only? field members := by
  simp only [record, record?, named?_record]

/-- The text of a record is looked through for one field after the other. -/
theorem record?_print (fields : List String) (h : ∀ m ∈ members, Written m.2) :
    (parse? (record members).print).bind (record? fields) =
      fields.mapM fun field => only? field members := by
  rw [(Written.record h).parse?_print, Option.bind_some, record?_record]

/-- The only member of a name is found wherever it stands. -/
theorem only?_perm (name : String) (h : members.Perm members') :
    only? name members = only? name members' := by
  have hfilter := h.filter (·.1 == name)
  unfold only?
  generalize members.filter (·.1 == name) = found at hfilter
  generalize members'.filter (·.1 == name) = found' at hfilter
  match found, found', hfilter with
  | [], [], _ => rfl
  | [], _ :: _, h => exact absurd h.length_eq (by simp)
  | [m], found', h => rw [List.perm_singleton.1 h.symm]
  | _ :: _ :: _, [], h => exact absurd h.length_eq (by simp)
  | _ :: _ :: _, [_], h => exact absurd h.length_eq (by simp)
  | _ :: _ :: _, _ :: _ :: _, _ => rfl

theorem record?_perm (h : members.Perm members') :
    record? fields (record members) = record? fields (record members') := by
  rw [record?_record, record?_record]
  simp only [only?_perm _ h]

end PushRelay.Json
