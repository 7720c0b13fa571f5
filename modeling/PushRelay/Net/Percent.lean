import PushRelay.Text.Utf8

/-!
# Percent encoding

Octets that a part of a URL cannot hold are written as a percent sign and two upper-case hexadecimal
digits.  Which ones is a matter of the part: each part has its set of characters to encode, and
characters outside ASCII and control characters always belong to it.
-/

namespace PushRelay.Percent

/-- The digit for four bits, in upper case. -/
def hexDigit (n : Nat) : Char := if n < 10 then Char.ofNat (48 + n) else Char.ofNat (55 + n)

/-- The value of a hexadecimal digit of either case. -/
def hexDigit? (c : Char) : Option Nat :=
  let n := c.toNat
  if 48 ≤ n ∧ n ≤ 57 then some (n - 48)
  else if 97 ≤ n ∧ n ≤ 102 then some (n - 87)
  else if 65 ≤ n ∧ n ≤ 70 then some (n - 55)
  else none

def encodeOctet (b : UInt8) : List Char := ['%', hexDigit (b.toNat / 16), hexDigit (b.toNat % 16)]

/-- Whether a character is encoded in every part. -/
def isControl (c : Char) : Bool := decide (c.toNat < 0x20) || decide (0x7E < c.toNat)

/-- The characters that are encoded in a path. -/
def pathSet : List Char := [' ', '"', '#', '<', '>', '?', '\x60', '\x7b', '\x7d']

/-- The characters that are encoded in a segment put behind a path. -/
def segmentSet : List Char := pathSet ++ ['/', '%']

/-- The same where a backslash is as good as a slash. -/
def specialSegmentSet : List Char := segmentSet ++ ['\\']

/-- The characters that are encoded in a query. -/
def querySet : List Char := [' ', '"', '#', '<', '>', '\'']

/-- The characters that are encoded in a fragment. -/
def fragmentSet : List Char := [' ', '"', '<', '>', '\x60']

def encodeChar (set : List Char) (c : Char) : List Char :=
  if isControl c || set.contains c then (String.utf8EncodeChar c).flatMap encodeOctet else [c]

def encode (set : List Char) (s : List Char) : List Char := s.flatMap (encodeChar set)

/-- The octets of a text in which some are percent-encoded.  A percent sign without two digits stands
for itself. -/
def decode : List Char → Bytes
  | '%' :: a :: b :: s =>
    match hexDigit? a, hexDigit? b with
    | some a, some b => UInt8.ofNat (a * 16 + b) :: decode s
    | _, _ => 37 :: decode (a :: b :: s)
  | c :: s => String.utf8EncodeChar c ++ decode s
  | [] => []

end PushRelay.Percent
