import PushRelay.Text.Classes

/-!
# Punycode

A text of any characters is written with letters, digits and hyphens.  `encode` puts its ASCII
characters first, and a hyphen if there are any.  The others are put in one after the other, by
increasing code point and from left to right; for each there is a number that says how many
insertions that could have been made since the last one were not.

Of the digits of a number the least comes first.  How large one has to be to let more digits follow
depends on its place and on the numbers before, see `threshold`.
-/

namespace PushRelay.Punycode

/-! ## Digits -/

def digit (d : Nat) : Char := if d < 26 then Char.ofNat (97 + d) else Char.ofNat (22 + d)

def digit? (c : Char) : Option Nat :=
  if c.isLower then some (c.toNat - 97)
  else if c.isDigit then some (c.toNat - 22)
  else none

/-- A digit at least this large lets more digits follow. -/
def threshold (bias place : Nat) : Nat := max 1 (min 26 (36 * (place + 1) - bias))

theorem threshold_bounds (bias place : Nat) :
    1 ≤ threshold bias place ∧ threshold bias place ≤ 26 := by
  unfold threshold
  omega

/-- What a delta and a number of steps of division make in the end. -/
def settle (delta steps : Nat) : Nat :=
  if 455 < delta then settle (delta / 35) (steps + 1) else 36 * steps + 36 * delta / (delta + 38)
termination_by delta

/-- The bias behind a number, for a text that has `length` characters by then. -/
def adapt (delta length : Nat) (isFirst : Bool) : Nat :=
  let delta := if isFirst then delta / 700 else delta / 2
  settle (delta + delta / length) 0

/-! ## Writing -/

/-- The digits of a number from a place on. -/
def digits (bias place n : Nat) : List Char :=
  let t := threshold bias place
  if n < t then [digit n]
  else digit (t + (n - t) % (36 - t)) :: digits bias (place + 1) ((n - t) / (36 - t))
termination_by n
decreasing_by
  have := threshold_bounds bias place
  exact Nat.lt_of_le_of_lt (Nat.div_le_self _ _) (by omega)

structure Encoding where
  /-- The digits so far. -/
  digits : List Char
  /-- How many places have been passed since the last insertion. -/
  delta : Nat
  bias : Nat
  /-- How many characters there are so far, and how many of them were there at first. -/
  length : Nat
  basic : Nat

namespace Encoding

/-- Passes one character of the text while those of code point `n` are put in. -/
def pass (n : Nat) (e : Encoding) (c : Char) : Encoding :=
  if c.toNat < n then { e with delta := e.delta + 1 }
  else if c.toNat = n then
    { e with
      digits := e.digits ++ Punycode.digits e.bias 0 e.delta
      delta := 0
      bias := adapt e.delta (e.length + 1) (e.length == e.basic)
      length := e.length + 1 }
  else e

/-- Puts in the characters of the least code point from `n` on, then the rest of them.  There are
`fuel` characters left at most. -/
def run (fuel : Nat) (s : List Char) (n : Nat) (e : Encoding) : Encoding :=
  match fuel, ((s.map Char.toNat).filter (n ≤ ·)).min? with
  | fuel + 1, some m =>
    let e := s.foldl (pass m) { e with delta := e.delta + (m - n) * (e.length + 1) }
    run fuel s (m + 1) { e with delta := e.delta + 1 }
  | _, _ => e

end Encoding

def encode (s : List Char) : List Char :=
  let basic := s.filter Text.isAscii
  let e := Encoding.run s.length s 128 ⟨[], 0, 72, basic.length, basic.length⟩
  basic ++ (if basic.isEmpty then [] else ['-']) ++ e.digits

/-! ## Reading -/

/-- Numbers stay below this bound. -/
def bound : Nat := 0x100000000

/-- Adds the number that starts here, whose digits from this place on count `weight` times, to `n`.
-/
def number? (bias place weight n : Nat) : List Char → Option (Nat × List Char)
  | [] => none
  | c :: s =>
    match digit? c with
    | none => none
    | some d =>
      let n := n + d * weight
      let t := threshold bias place
      let more := weight * (36 - t)
      if bound ≤ n then none
      else if d < t then some (n, s)
      else if bound ≤ more then none
      else number? bias (place + 1) more n s

/-- Puts characters into a text.  The next one goes to `position` at least and has the code point
`n` at least.  Each takes one of `fuel`. -/
def insertAll? (fuel bias n position : Nat) (text s : List Char) : Option (List Char) :=
  match fuel, s with
  | _, [] => some text
  | 0, _ => none
  | fuel + 1, s =>
    match number? bias 0 1 position s with
    | none => none
    | some (i, rest) =>
      let length := text.length + 1
      let m := n + i / length
      if m.isValidChar then
        insertAll? fuel (adapt (i - position) length (position == 0)) m (i % length + 1)
          (text.insertIdx (i % length) (Char.ofNat m)) rest
      else none

/-- The ASCII characters and what follows the last hyphen, if there are any in front of it. -/
def splitBasic (s : List Char) : List Char × List Char :=
  let basic := (s.reverse.dropWhile (· ≠ '-')).drop 1
  if basic.isEmpty then ([], s) else (basic.reverse, s.drop (basic.length + 1))

/-- The text that is written so, if one is. -/
def decode? (s : List Char) : Option (List Char) :=
  let (basic, rest) := splitBasic s
  insertAll? rest.length 72 128 0 basic rest

end PushRelay.Punycode
