import PushRelay.Text.Utf8

/-!
# Decimal numerals

`Numeral.ofNat` and `Numeral.ofInt` write the shortest decimal numeral.  `Numeral.natural?` and
`Numeral.integer?` read one: an optional sign, then one or more digits, leading zeros allowed and
nothing else, refused outside the given range.
-/

namespace PushRelay.Numeral

/-! ## Ranges -/

/-- Natural numbers below this bound fit an unsigned 64-bit word. -/
def wordBound : Nat := 0x10000000000000000

/-- The least signed 64-bit integer. -/
def int64Min : Int := -0x8000000000000000

/-- The greatest signed 64-bit integer. -/
def int64Max : Int := 0x7fffffffffffffff

/-- The nearest signed 64-bit integer. -/
def clamp64 (n : Int) : Int := max int64Min (min int64Max n)

/-! ## Writing -/

/-- The octet of a digit below ten. -/
def digit (d : Nat) : UInt8 := UInt8.ofNat (48 + d)

def ofNat (n : Nat) : Bytes :=
  if n < 10 then [digit n] else ofNat (n / 10) ++ [digit (n % 10)]

/-- A negative number has a leading minus sign. -/
def ofInt : Int → Bytes
  | .ofNat n => ofNat n
  | .negSucc n => 45 :: ofNat (n + 1)

/-! ## Reading -/

/-- The value of a decimal digit. -/
def digit? (b : UInt8) : Option Nat :=
  if 48 ≤ b ∧ b ≤ 57 then some (b.toNat - 48) else none

/-- Reads digits behind a number already read. -/
def digits? (n : Nat) : Bytes → Option Nat
  | [] => some n
  | b :: s => match digit? b with
    | some d => digits? (n * 10 + d) s
    | none => none

/-- One or more digits. -/
def magnitude? : Bytes → Option Nat
  | [] => none
  | b :: s => digits? 0 (b :: s)

/-- A natural number below `bound`, with an optional plus sign. -/
def natural? (bound : Nat) (s : Bytes) : Option Nat :=
  let digits := match s with
    | 43 :: s => s
    | s => s
  match magnitude? digits with
  | some n => if n < bound then some n else none
  | none => none

/-- An integer within `lo` and `hi`, with an optional sign. -/
def integer? (lo hi : Int) (s : Bytes) : Option Int :=
  let n : Option Int := match s with
    | 45 :: s => (magnitude? s).map fun n => -(n : Int)
    | 43 :: s => (magnitude? s).map fun n => (n : Int)
    | s => (magnitude? s).map fun n => (n : Int)
  match n with
  | some n => if lo ≤ n ∧ n ≤ hi then some n else none
  | none => none

end PushRelay.Numeral
