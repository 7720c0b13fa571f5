import PushRelay.Text.Utf8

/-!
# Base 64

Three octets make four digits of the standard alphabet.  One or two octets at the end make two or
three digits, filled up with `=`; the bits that stand for no octet are zero.  `Base64.decode?` reads
what `Base64.encode` writes and refuses everything else.
-/

namespace PushRelay.Base64

/-- The digit for six bits. -/
def digit (n : Nat) : UInt8 :=
  if n < 26 then UInt8.ofNat (65 + n)
  else if n < 52 then UInt8.ofNat (97 + (n - 26))
  else if n < 62 then UInt8.ofNat (48 + (n - 52))
  else if n = 62 then 43
  else 47

def digit? (b : UInt8) : Option Nat :=
  if 65 ≤ b ∧ b ≤ 90 then some (b.toNat - 65)
  else if 97 ≤ b ∧ b ≤ 122 then some (b.toNat - 97 + 26)
  else if 48 ≤ b ∧ b ≤ 57 then some (b.toNat - 48 + 52)
  else if b = 43 then some 62
  else if b = 47 then some 63
  else none

/-- Fills up the last group. -/
def fill : UInt8 := 61

def encode : Bytes → Bytes
  | a :: b :: c :: s =>
    let n := (a.toNat * 256 + b.toNat) * 256 + c.toNat
    digit (n / 262144) :: digit (n / 4096 % 64) :: digit (n / 64 % 64) :: digit (n % 64) :: encode s
  | [a, b] =>
    let n := (a.toNat * 256 + b.toNat) * 4
    [digit (n / 4096), digit (n / 64 % 64), digit (n % 64), fill]
  | [a] =>
    let n := a.toNat * 16
    [digit (n / 64), digit (n % 64), fill, fill]
  | [] => []

/-- The octets of a last group. -/
def last? (a b c d : UInt8) : Option Bytes :=
  if d ≠ fill then
    match digit? a, digit? b, digit? c, digit? d with
    | some a, some b, some c, some d =>
      let n := ((a * 64 + b) * 64 + c) * 64 + d
      some [UInt8.ofNat (n / 65536), UInt8.ofNat (n / 256 % 256), UInt8.ofNat (n % 256)]
    | _, _, _, _ => none
  else if c ≠ fill then
    match digit? a, digit? b, digit? c with
    | some a, some b, some c =>
      let n := (a * 64 + b) * 64 + c
      if n % 4 = 0 then some [UInt8.ofNat (n / 1024), UInt8.ofNat (n / 4 % 256)] else none
    | _, _, _ => none
  else
    match digit? a, digit? b with
    | some a, some b =>
      let n := a * 64 + b
      if n % 16 = 0 then some [UInt8.ofNat (n / 16)] else none
    | _, _ => none

def decode? : Bytes → Option Bytes
  | [] => some []
  | [a, b, c, d] => last? a b c d
  | a :: b :: c :: d :: s =>
    match digit? a, digit? b, digit? c, digit? d with
    | some a, some b, some c, some d =>
      let n := ((a * 64 + b) * 64 + c) * 64 + d
      (decode? s).map fun rest =>
        UInt8.ofNat (n / 65536) :: UInt8.ofNat (n / 256 % 256) :: UInt8.ofNat (n % 256) :: rest
    | _, _, _, _ => none
  | _ => none

end PushRelay.Base64
