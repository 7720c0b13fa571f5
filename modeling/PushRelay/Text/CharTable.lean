/-!
# Tables of characters

Long tables are written down as texts.  Such a text is a list of items, separated by spaces and line
breaks, with code points in hexadecimal.

An item of a `CharSet` is a code point or a range of them: `2E` or `41-5A`.

An item of a `CharMap` tells what characters stand for.  `DF=73.73,E0` gives texts to U+00DF and to
the characters behind it.  `C0-D6>E0` gives each character of a range one of the range from U+00E0
on, and `100-12E/2>101` does so for every second one.
-/

namespace PushRelay

namespace CharTable

/-- The number that upper-case hexadecimal digits stand for. -/
def number (digits : List Char) : Nat :=
  digits.foldl (fun n c => n * 16 + if c.isDigit then c.toNat - 48 else c.toNat - 55) 0

def char (digits : List Char) : Char := Char.ofNat (number digits)

def items (text : String) : List (List Char) :=
  ((text.toList.map fun c => if c == '\n' then ' ' else c).splitOn ' ').filter fun item =>
    !item.isEmpty

/-- The first and the last code point of a range. -/
def range (item : List Char) : Nat × Nat :=
  match item.splitOn '-' with
  | [lo, hi] => (number lo, number hi)
  | _ => (number item, number item)

end CharTable

/-! ## Sets -/

/-- A set of characters, as ranges of code points. -/
structure CharSet where
  ranges : Array (Nat × Nat)

namespace CharSet

def ofText (text : String) : CharSet :=
  ⟨((CharTable.items text).map CharTable.range).toArray⟩

def contains (s : CharSet) (c : Char) : Bool :=
  s.ranges.any fun (lo, hi) => lo ≤ c.toNat && c.toNat ≤ hi

end CharSet

/-! ## Maps -/

/-- Texts that characters stand for. -/
structure CharMap where
  entries : Array (Char × List Char)

namespace CharMap

/-- The entries for a character and those behind it. -/
def listed (first : Nat) (texts : List (List Char)) : List (Char × List Char) :=
  texts.mapIdx fun i text => (Char.ofNat (first + i), (text.splitOn '.').map CharTable.char)

/-- The entries for the characters of a range that are `step` apart. -/
def shifted (range : Nat × Nat) (step target : Nat) : List (Char × List Char) :=
  (List.range ((range.2 - range.1) / step + 1)).map fun i =>
    (Char.ofNat (range.1 + i * step), [Char.ofNat (target + i * step)])

/-- The entries of an item. -/
def item (s : List Char) : List (Char × List Char) :=
  match s.splitOn '=', s.splitOn '>' with
  | [first, texts], _ => listed (CharTable.number first) (texts.splitOn ',')
  | _, [source, target] =>
    let target := CharTable.number target
    match source.splitOn '/' with
    | [range, step] => shifted (CharTable.range range) (CharTable.number step) target
    | _ => shifted (CharTable.range source) 1 target
  | _, _ => []

def ofText (text : String) : CharMap := ⟨((CharTable.items text).flatMap item).toArray⟩

def find? (m : CharMap) (c : Char) : Option (List Char) :=
  (m.entries.find? fun (source, _) => source == c).map fun (_, text) => text

end CharMap

end PushRelay
