import PushRelay.Net.Percent
import PushRelay.Yaml.Cursor
import PushRelay.Yaml.Token

/-!
# Names, tags and directives of YAML

What starts with an ampersand, an asterisk, an exclamation mark or a percent sign.  A tag is written as
a whole between angle brackets, or as a handle and the rest of it; handles stand for what directives
lay down, of which `!` and `!!` need none.  Tags are octets: they may hold percent-encoded ones.
-/

namespace PushRelay.Yaml

/-! ## Anchors and references -/

/-- The name behind the sign that stands here, and the place behind the name. -/
def anchorName? (c : Cursor) : Option (List Char × Cursor) :=
  let name := (c.rest.drop 1).takeWhile isWordChar
  let c := c.pass (name.length + 1)
  let ends := c.rest.head?.all fun x => isBlankOrBreak x || "?:,]\x7d%@\x60".toList.contains x
  if !name.isEmpty && ends then some (name, c) else none

/-! ## Tags -/

/-- An octet that is percent-encoded here. -/
def encodedOctet? : List Char → Option UInt8
  | '%' :: a :: b :: _ =>
    match Percent.hexDigit? a, Percent.hexDigit? b with
    | some a, some b => some (UInt8.ofNat (a * 16 + b))
    | _, _ => none
  | _ => none

/-- Percent-encoded octets that continue a character. -/
def continuation? : Nat → List Char → Option Bytes
  | 0, _ => some []
  | n + 1, s =>
    match encodedOctet? s with
    | none => none
    | some b =>
      if 0x80 ≤ b && b < 0xC0 then (continuation? n (s.drop 3)).map (b :: ·) else none

/-- The percent-encoded octets of the character that starts here. -/
def encodedChar? (s : List Char) : Option Bytes :=
  match encodedOctet? s with
  | none => none
  | some b =>
    if b < 0x80 then some [b]
    else if b < 0xC0 then none
    else if b < 0xE0 then (continuation? 1 (s.drop 3)).map (b :: ·)
    else if b < 0xF0 then (continuation? 2 (s.drop 3)).map (b :: ·)
    else if b < 0xF8 then (continuation? 3 (s.drop 3)).map (b :: ·)
    else none

/-- The characters that tags are made of.  Those of flow collections belong to them only where
`brackets` says so. -/
def isTagChar (brackets : Bool) (c : Char) : Bool :=
  isWordChar c || ";/?:@&=+$.!~*'()".toList.contains c || (brackets && ",[]".toList.contains c)

/-- The octets of a tag and the place behind it. -/
def tagOctets? (fuel : Nat) (brackets : Bool) (c : Cursor) : Option (Bytes × Cursor) :=
  match fuel, c.rest with
  | 0, _ => none
  | _, [] => some ([], c)
  | fuel + 1, x :: _ =>
    if x == '%' then
      (encodedChar? c.rest).bind fun front =>
        (tagOctets? fuel brackets (c.pass (3 * front.length))).map fun (rest, c) => (front ++ rest, c)
    else if isTagChar brackets x then
      (tagOctets? fuel brackets (c.pass 1)).map fun (rest, c) => (UInt8.ofNat x.toNat :: rest, c)
    else some ([], c)

/-- The octets of a tag up to a zero, and the place behind it.  There has to be one unless something
stands in front of it. -/
def tagText? (brackets mayBeEmpty : Bool) (c : Cursor) : Option (Bytes × Cursor) :=
  match tagOctets? (c.rest.length + 1) brackets c with
  | some (octets, c) =>
    if octets.isEmpty && !mayBeEmpty then none else some (octets.takeWhile (· != 0), c)
  | none => none

/-- A handle, if one stands here: an exclamation mark, and possibly a word and another one. -/
def handle (s : List Char) : List Char :=
  match s with
  | '!' :: s =>
    let word := s.takeWhile isWordChar
    if (s.drop word.length).head? == some '!' then '!' :: word ++ ['!'] else '!' :: word
  | _ => []

/-- Whether a handle ends with a mark of its own. -/
def isClosed (handle : List Char) : Bool := 1 < handle.length && handle.getLast? == some '!'

/-- The tag whose exclamation mark stands here, and the place behind it. -/
def tag? (flow : Bool) (c : Cursor) : Option (Token × Cursor) :=
  let tag : Option (Token × Cursor) :=
    match c.rest with
    | '!' :: '<' :: _ =>
      match tagText? true false (c.pass 2) with
      | some (text, c) => if c.startsWith '>' then some (.tag [] text, c.pass 1) else none
      | none => none
    | s =>
      let h := handle s
      let c := c.pass h.length
      if isClosed h then (tagText? false false c).map fun (rest, c) => (.tag h rest, c)
      else
        -- What looked like a handle belongs to the tag.
        let front : Bytes := (h.drop 1).map fun x => UInt8.ofNat x.toNat
        (tagText? false true c).map fun (rest, c) =>
          if (front ++ rest).isEmpty then (.tag [] [33], c) else (.tag ['!'] (front ++ rest), c)
  tag.filter fun (_, c) => isBlankOrEnd c.rest || (flow && c.startsWith ',')

/-! ## Directives -/

/-- A number of at most nine digits, and the place behind it. -/
def versionNumber? (c : Cursor) : Option (Nat × Cursor) :=
  let digits := c.rest.takeWhile Char.isDigit
  if 9 < digits.length then none
  else (digits? 10 digits).map fun n => (n, c.pass digits.length)

def versionDirective? (c : Cursor) : Option (Token × Cursor) :=
  match versionNumber? (c.passWhile isSpaceOrTab) with
  | none => none
  | some (major, c) =>
    if c.startsWith '.' then
      (versionNumber? (c.pass 1)).map fun (minor, c) => (.version major minor, c)
    else none

def handleDirective? (c : Cursor) : Option (Token × Cursor) :=
  let c := c.passWhile isSpaceOrTab
  let h := handle c.rest
  let c := c.pass h.length
  if !(h == ['!'] || isClosed h) || !(c.rest.head?.any isSpaceOrTab) then none
  else match tagText? true false (c.passWhile isSpaceOrTab) with
    | some (front, c) => if isBlankOrEnd c.rest then some (.handle h front, c) else none
    | none => none

/-- The directive whose percent sign stands here, and the start of the next line. -/
def directive? (c : Cursor) : Option (Token × Cursor) :=
  let name := (c.rest.drop 1).takeWhile isWordChar
  let c := c.pass (name.length + 1)
  let directive :=
    if !isBlankOrEnd c.rest then none
    else if name == "YAML".toList then versionDirective? c
    else if name == "TAG".toList then handleDirective? c
    else none
  match directive with
  | none => none
  | some (token, c) =>
    let c := c.passLineEnd
    if c.rest.isEmpty || c.atBreak then some (token, c.nextLine) else none

end PushRelay.Yaml
