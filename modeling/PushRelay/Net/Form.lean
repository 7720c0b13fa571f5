import PushRelay.Net.Percent

/-!
# Form-encoded queries

A query is a list of pairs `name=value` joined by `&`.  A plus sign stands for a space, other octets
may be percent-encoded, and octets that are not well-formed are replaced.
-/

namespace PushRelay.Form

/-- Decodes a name or a value. -/
def unescape (s : List Char) : String :=
  Utf8.toStringLossy (Percent.decode (s.map fun c => if c = '+' then ' ' else c))

/-- A pair without an equals sign has an empty value. -/
def pair (s : List Char) : String × String :=
  (unescape (s.takeWhile (· != '=')), unescape ((s.dropWhile (· != '=')).drop 1))

/-- The pairs of a query. -/
def parse (query : String) : List (String × String) :=
  ((query.toList.splitOn '&').filter fun s => !s.isEmpty).map pair

/-- The value of a name that occurs once: `some none` if it does not occur, `none` if it does more
often. -/
def only? (name : String) (pairs : List (String × String)) : Option (Option String) :=
  match pairs.filter (·.1 == name) with
  | [] => some none
  | [(_, value)] => some (some value)
  | _ => none

end PushRelay.Form
