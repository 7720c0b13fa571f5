import PushRelay.Net.Domain.Direction
import PushRelay.Net.Domain.Joining
import PushRelay.Net.Punycode
import PushRelay.Text.Normal

/-!
# Domains

`Domain.toAscii?` gives the form in which a domain is looked up: in lower case, with each label that
needs other characters than ASCII written in Punycode behind `xn--`.  A domain that is in this form
already stays as it is, but what its labels stand for is checked all the same.
-/

namespace PushRelay.Domain

/-- Characters of ASCII that no domain has. -/
def isForbidden (c : Char) : Bool :=
  decide (c.toNat ≤ 32) || c.toNat == 127 || "#/:<>?@[\\]^|%".toList.contains c

/-- A label with more characters is not written in Punycode, and one in Punycode that is longer is
not read. -/
def maxLabel : Nat := 1000

def maxEncoded : Nat := 2000

structure Label where
  chars : List Char
  /-- How it is looked up. -/
  ascii : List Char
  deriving DecidableEq, Repr

namespace Label

/-- Whether characters outside ASCII make up a label. -/
def isSound (s : List Char) : Bool := !s.head?.any Text.isMark && joinersFit [] s

/-- Whether a text is what mapping and normalization give. -/
def isSettled (s : List Char) : Bool :=
  s.all (fun c => mapChar? c == some [c]) && Text.normal s == s

/-- The label that stands behind `xn--`. -/
def ofCode? (code : List Char) : Option Label :=
  if code.isEmpty || code.getLast? == some '-' || maxEncoded < code.length then none
  else match Punycode.decode? code with
    | none => none
    | some s => if isSettled s && isSound s then some ⟨s, "xn--".toList ++ code⟩ else none

/-- A label of a mapped and normalized domain. -/
def ofChars? (s : List Char) : Option Label :=
  match s with
  | 'x' :: 'n' :: '-' :: '-' :: code => if code.all Text.isAscii then ofCode? code else none
  | s =>
    if s.all Text.isAscii then some ⟨s, s⟩
    else if isSound s && s.length ≤ maxLabel then some ⟨s, "xn--".toList ++ Punycode.encode s⟩
    else none

end Label

/-- The labels of a domain. -/
def labels? (domain : List Char) : Option (List Label) :=
  match domain.mapM mapChar? with
  | none => none
  | some mapped =>
    let domain := Text.normal mapped.flatten
    if domain.any isForbidden then none
    else match (domain.splitOn '.').mapM Label.ofChars? with
      | none => none
      | some labels =>
        let hasRight := labels.any fun label => label.chars.any isRight
        if !hasRight || labels.all fun label => isOneWay label.chars then some labels else none

/-- The form in which a domain is looked up, `none` if it is none. -/
def toAscii? (domain : List Char) : Option (List Char) :=
  (labels? domain).map fun labels => ['.'].intercalate (labels.map Label.ascii)

end PushRelay.Domain
