import PushRelay.Json.Basic

/-!
# Reading JSON

`Json.read` takes one JSON value off the front of an octet sequence, `Json.parse?` reads a sequence
that holds one value and white space.  Strings are scanned for their end and for the shape of their
escapes; what they stand for is looked at when their text is asked for, so a value nobody asks for
may hold text that is not well-formed.
-/

namespace PushRelay.Json

/-! ## Tokens -/

def isSpace (b : UInt8) : Bool := b == 32 || b == 10 || b == 9 || b == 13

def skipSpace (s : Bytes) : Bytes := s.dropWhile isSpace

/-- Takes a fixed word off the front. -/
def word? : Bytes → Bytes → Option Bytes
  | [], s => some s
  | _ :: _, [] => none
  | b :: word, c :: s => if b = c then word? word s else none

def isDigit (b : UInt8) : Bool := 48 ≤ b && b ≤ 57

/-- One or more digits and what follows them. -/
def digits? (s : Bytes) : Option (Bytes × Bytes) :=
  let digits := s.takeWhile isDigit
  if digits.isEmpty then none else some (digits, s.dropWhile isDigit)

/-- The part of a numeral before the point: no leading zeros. -/
def whole? : Bytes → Option (Bytes × Bytes)
  | 48 :: s => if (s.head?.map isDigit).getD false then none else some ([48], s)
  | s => digits? s

/-- A point and digits, or nothing. -/
def fraction? : Bytes → Option (Bytes × Bytes)
  | 46 :: s => (digits? s).map fun (digits, s) => (46 :: digits, s)
  | s => some ([], s)

/-- An exponent mark, a sign if there is one and digits, or nothing. -/
def exponent? : Bytes → Option (Bytes × Bytes)
  | b :: s =>
    if b = 101 ∨ b = 69 then
      match s with
      | 43 :: s => (digits? s).map fun (digits, s) => (b :: 43 :: digits, s)
      | 45 :: s => (digits? s).map fun (digits, s) => (b :: 45 :: digits, s)
      | s => (digits? s).map fun (digits, s) => (b :: digits, s)
    else some ([], b :: s)
  | [] => some ([], [])

def unsigned? (s : Bytes) : Option (Bytes × Bytes) :=
  match whole? s with
  | none => none
  | some (whole, s) => match fraction? s with
    | none => none
    | some (fraction, s) => match exponent? s with
      | none => none
      | some (exponent, s) => some (whole ++ fraction ++ exponent, s)

def numeral? : Bytes → Option (Bytes × Bytes)
  | 45 :: s => (unsigned? s).map fun (numeral, s) => (45 :: numeral, s)
  | s => unsigned? s

/-- The content of a string whose opening quote is behind us, and what follows its closing quote. -/
def content? (s : Bytes) : Option (Bytes × Bytes) :=
  match s with
  | [] => none
  | 34 :: s => some ([], s)
  | 92 :: 117 :: a :: b :: c :: d :: s =>
    if (hexUnit? a b c d).isNone then none
    else (content? s).map fun (content, s) => (92 :: 117 :: a :: b :: c :: d :: content, s)
  | 92 :: b :: s =>
    if (letterEscape? b).isNone then none
    else (content? s).map fun (content, s) => (92 :: b :: content, s)
  | b :: s =>
    if b = backslash ∨ b < 32 then none
    else (content? s).map fun (content, s) => (b :: content, s)

/-! ## Values -/

mutual

/-- A value and what follows it.  Every call takes an octet or ends, so fuel of twice the octets is
enough. -/
def readWith : Nat → Bytes → Option (Json × Bytes)
  | 0, _ => none
  | fuel + 1, s =>
    match skipSpace s with
    | [] => none
    | 110 :: s => (word? [117, 108, 108] s).map fun s => (.null, s)
    | 116 :: s => (word? [114, 117, 101] s).map fun s => (.bool true, s)
    | 102 :: s => (word? [97, 108, 115, 101] s).map fun s => (.bool false, s)
    | 34 :: s => (content? s).map fun (content, s) => (.string content, s)
    | 91 :: s =>
      match skipSpace s with
      | 93 :: s => some (.array [], s)
      | s => (itemsWith fuel s).map fun (items, s) => (.array items, s)
    | 123 :: s =>
      match skipSpace s with
      | 125 :: s => some (.object [], s)
      | s => (membersWith fuel s).map fun (members, s) => (.object members, s)
    | s => (numeral? s).map fun (numeral, s) => (.number numeral, s)

/-- One or more items and the closing bracket. -/
def itemsWith : Nat → Bytes → Option (List Json × Bytes)
  | 0, _ => none
  | fuel + 1, s =>
    match readWith fuel s with
    | none => none
    | some (item, s) =>
      match skipSpace s with
      | 93 :: s => some ([item], s)
      | 44 :: s => (itemsWith fuel s).map fun (items, s) => (item :: items, s)
      | _ => none

/-- One or more members and the closing brace. -/
def membersWith : Nat → Bytes → Option (List (Bytes × Json) × Bytes)
  | 0, _ => none
  | fuel + 1, s =>
    match skipSpace s with
    | 34 :: s =>
      match content? s with
      | none => none
      | some (name, s) =>
        match skipSpace s with
        | 58 :: s =>
          match readWith fuel s with
          | none => none
          | some (value, s) =>
            match skipSpace s with
            | 125 :: s => some ([(name, value)], s)
            | 44 :: s => (membersWith fuel s).map fun (members, s) => ((name, value) :: members, s)
            | _ => none
        | _ => none
    | _ => none

end

/-- The value at the front of an octet sequence and what follows it. -/
def read (s : Bytes) : Option (Json × Bytes) := readWith (2 * s.length + 2) s

/-- The value of a sequence that holds nothing else but white space around it. -/
def parse? (s : Bytes) : Option Json :=
  match read s with
  | some (j, rest) => if (skipSpace rest).isEmpty then some j else none
  | none => none

end PushRelay.Json
