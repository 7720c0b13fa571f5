import PushRelay.Json.Reader

/-!
# Records in JSON

A record with named fields is written as an object, in which members with other names are ignored
and a field may be given once, or as an array of the values in the order of the fields, of which the
last ones may be left out.  `Json.record?` finds the values; whether a missing field has a default is
for the reader of the field to say.
-/

namespace PushRelay.Json

/-- The text of a member name. -/
def name? (name : Bytes) : Option String := text? (.string name)

/-- Members with their names decoded, `none` if one is not well-formed. -/
def named? : List (Bytes × Json) → Option (List (String × Json))
  | [] => some []
  | (name, value) :: members =>
    match name? name, named? members with
    | some name, some members => some ((name, value) :: members)
    | _, _ => none

/-- The value of the only member with the given name: `some none` if there is no such member, `none`
if there are several. -/
def only? (name : String) (members : List (String × Json)) : Option (Option Json) :=
  match members.filter (·.1 == name) with
  | [] => some none
  | [(_, value)] => some (some value)
  | _ => none

/-- As many entries as there are fields, missing ones at the end. -/
def pad : List String → List Json → Option (List (Option Json))
  | [], [] => some []
  | [], _ :: _ => none
  | _ :: fields, [] => (pad fields []).map (none :: ·)
  | _ :: fields, item :: items => (pad fields items).map (some item :: ·)

/-- The value of each field, if the value is a record with these fields. -/
def record? (fields : List String) : Json → Option (List (Option Json))
  | .object members =>
    match named? members with
    | none => none
    | some members => fields.mapM fun field => only? field members
  | .array items => pad fields items
  | _ => none

/-- An array of texts. -/
def texts? : Json → Option (List String)
  | .array items => items.mapM text?
  | _ => none

end PushRelay.Json
