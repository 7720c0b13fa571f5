import PushRelay.Text.Numeral

/-!
# JSON documents

`Json` is the tree of a JSON text.  Leaves keep the octets they are written with: a number its
numeral, a string and a member name what stands between the quotes, escapes included.  So every tree
has one compact text, `Json.print`, and a text can be read without looking into its strings.

`Json.text`, `Json.int` and `Json.record` build trees, `Json.text?` and `Json.int?` read leaves.
-/

namespace PushRelay

inductive Json where
  | null
  | bool (b : Bool)
  | number (numeral : Bytes)
  | string (content : Bytes)
  | array (items : List Json)
  | object (members : List (Bytes × Json))
  deriving Repr

namespace Json

/-! ## Printing -/

def quote : UInt8 := 34
def backslash : UInt8 := 92
def comma : UInt8 := 44
def colon : UInt8 := 58
def openBracket : UInt8 := 91
def closeBracket : UInt8 := 93
def openBrace : UInt8 := 123
def closeBrace : UInt8 := 125

def nullWord : Bytes := [110, 117, 108, 108]
def trueWord : Bytes := [116, 114, 117, 101]
def falseWord : Bytes := [102, 97, 108, 115, 101]

/-- Octets between quotes. -/
def quoteContent (content : Bytes) : Bytes := quote :: content ++ [quote]

mutual

/-- The compact text: no white space, members in order. -/
def print : Json → Bytes
  | .null => nullWord
  | .bool true => trueWord
  | .bool false => falseWord
  | .number numeral => numeral
  | .string content => quoteContent content
  | .array items => openBracket :: printItems items ++ [closeBracket]
  | .object members => openBrace :: printMembers members ++ [closeBrace]

def printItems : List Json → Bytes
  | [] => []
  | [item] => print item
  | item :: items => print item ++ comma :: printItems items

def printMembers : List (Bytes × Json) → Bytes
  | [] => []
  | [(name, value)] => quoteContent name ++ colon :: print value
  | (name, value) :: members =>
    quoteContent name ++ colon :: print value ++ comma :: printMembers members

end

/-! ## Text in strings -/

/-- An octet below 32 without an escape of its own is written by its number. -/
def escapeOctet (b : UInt8) : Bytes :=
  if b = quote then [backslash, quote]
  else if b = backslash then [backslash, backslash]
  else if b = 8 then [backslash, 98]
  else if b = 9 then [backslash, 116]
  else if b = 10 then [backslash, 110]
  else if b = 12 then [backslash, 102]
  else if b = 13 then [backslash, 114]
  else if b < 32 then
    [backslash, 117, 48, 48, if b < 16 then 48 else 49,
      if b % 16 < 10 then 48 + b % 16 else 87 + b % 16]
  else [b]

/-- What a string that stands for the given octets is written with. -/
def escape (s : Bytes) : Bytes := s.flatMap escapeOctet

/-- The value of a hexadecimal digit of either case. -/
def hexDigit? (b : UInt8) : Option Nat :=
  if 48 ≤ b ∧ b ≤ 57 then some (b.toNat - 48)
  else if 65 ≤ b ∧ b ≤ 70 then some (b.toNat - 55)
  else if 97 ≤ b ∧ b ≤ 102 then some (b.toNat - 87)
  else none

/-- Four hexadecimal digits. -/
def hexUnit? (a b c d : UInt8) : Option Nat :=
  match hexDigit? a, hexDigit? b, hexDigit? c, hexDigit? d with
  | some a, some b, some c, some d => some (((a * 16 + b) * 16 + c) * 16 + d)
  | _, _, _, _ => none

/-- The octet that a one-letter escape stands for. -/
def letterEscape? (b : UInt8) : Option UInt8 :=
  if b = quote ∨ b = backslash ∨ b = 47 then some b
  else if b = 98 then some 8
  else if b = 102 then some 12
  else if b = 110 then some 10
  else if b = 114 then some 13
  else if b = 116 then some 9
  else none

/-- The octets of a code point. -/
def utf8 (code : Nat) : Bytes := String.utf8EncodeChar (Char.ofNat code)

/-- The octets that the content of a string stands for.  Units of a surrogate pair have to stand
together, the high one first. -/
def unescape (s : Bytes) : Option Bytes :=
  match s with
  | [] => some []
  | 92 :: 117 :: a :: b :: c :: d :: s =>
    match hexUnit? a b c d with
    | none => none
    | some unit =>
      if unit < 0xD800 ∨ 0xDFFF < unit then (unescape s).map (utf8 unit ++ ·)
      else if 0xDC00 ≤ unit then none
      else match s with
        | 92 :: 117 :: a :: b :: c :: d :: s =>
          match hexUnit? a b c d with
          | none => none
          | some low =>
            if 0xDC00 ≤ low ∧ low ≤ 0xDFFF then
              (unescape s).map
                (utf8 (0x10000 + (unit - 0xD800) * 0x400 + (low - 0xDC00)) ++ ·)
            else none
        | _ => none
  | 92 :: b :: s =>
    match letterEscape? b with
    | none => none
    | some b => (unescape s).map (b :: ·)
  | b :: s => if b = backslash then none else (unescape s).map (b :: ·)

/-! ## Leaves -/

/-- A string of octets, which have to be well-formed UTF-8. -/
def octets (s : Bytes) : Json := .string (escape s)

def text (s : String) : Json := octets (Utf8.ofString s)

def int (n : Int) : Json := .number (Numeral.ofInt n)

def nat (n : Nat) : Json := .number (Numeral.ofNat n)

/-- An object with the given members. -/
def record (members : List (String × Json)) : Json :=
  .object (members.map fun (name, value) => (escape (Utf8.ofString name), value))

/-- The octets of a string, if they are well-formed UTF-8. -/
def octets? : Json → Option Bytes
  | .string content =>
    match unescape content with
    | none => none
    | some s => (Utf8.decode? s).map fun _ => s
  | _ => none

def text? (j : Json) : Option String :=
  match octets? j with
  | none => none
  | some s => Utf8.toString? s

/-- An integer written without fraction or exponent, within the bounds.  Minus zero is none. -/
def int? (lo hi : Int) : Json → Option Int
  | .number numeral =>
    match numeral with
    | [45, 48] => none
    | numeral => Numeral.integer? lo hi numeral
  | _ => none

/-- As `int?`, for a natural number below `bound`. -/
def nat? (bound : Nat) (j : Json) : Option Nat := (int? 0 (bound - 1) j).map Int.toNat

end Json

end PushRelay
