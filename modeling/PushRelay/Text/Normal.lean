import PushRelay.Text.CombiningClass
import PushRelay.Text.Decomposition

/-!
# Canonical composition

A character with marks may be written in several ways that mean the same.  `normal` gives the one
way in which as much as possible is put together, the normalization form C: it takes every character
apart, puts marks into the order of their combining classes, and puts characters together again.
-/

namespace PushRelay.Text

/-! ## Syllables of Hangul -/

/-- A syllable is made of one of 19 leading consonants, one of 21 vowels, and possibly one of 27
trailing consonants, the numbers of which start with 1. -/
def hangulBase : Nat := 0xAC00

def leadBase : Nat := 0x1100

def vowelBase : Nat := 0x1161

def trailBase : Nat := 0x11A7

/-- The consonants and the vowel of a syllable. -/
def hangulParts? (c : Char) : Option (List Char) :=
  let n := c.toNat - hangulBase
  if hangulBase ≤ c.toNat && n < 19 * 21 * 28 then
    let front := [Char.ofNat (leadBase + n / (21 * 28)), Char.ofNat (vowelBase + n / 28 % 21)]
    some (if n % 28 = 0 then front else front ++ [Char.ofNat (trailBase + n % 28)])
  else none

/-- The syllable of a consonant and a vowel, or of a syllable without trailing consonant and one. -/
def hangulSyllable? (a b : Char) : Option Char :=
  let lead := a.toNat - leadBase
  let vowel := b.toNat - vowelBase
  let front := a.toNat - hangulBase
  let trail := b.toNat - trailBase
  if leadBase ≤ a.toNat && lead < 19 && vowelBase ≤ b.toNat && vowel < 21 then
    some (Char.ofNat (hangulBase + (lead * 21 + vowel) * 28))
  else if hangulBase ≤ a.toNat && front < 19 * 21 * 28 && front % 28 = 0 && 0 < trail && trail < 28 then
    some (Char.ofNat (a.toNat + trail))
  else none

/-! ## Taking apart -/

/-- The characters that `c` is made of in the end, within `fuel` steps. -/
def parts (fuel : Nat) (c : Char) : List Char :=
  match fuel with
  | 0 => [c]
  | fuel + 1 =>
    match hangulParts? c with
    | some cs => cs
    | none =>
      match decompositions.find? c with
      | some cs => cs.flatMap (parts fuel)
      | none => [c]

/-- No character has to be taken apart more often. -/
def maxDepth : Nat := 8

/-- Puts a character of class `k` behind a text that is given last character first, in front of the
marks of greater classes that end it. -/
def putMark (c : Char) (k : Nat) : List Char → List Char
  | [] => [c]
  | x :: s => if 0 < k && k < combiningClass x then x :: putMark c k s else c :: x :: s

/-- A text with all characters taken apart and all marks in order. -/
def decomposed (s : List Char) : List Char :=
  ((s.flatMap (parts maxDepth)).foldl (fun r c => putMark c (combiningClass c) r) []).reverse

/-! ## Putting together -/

/-- What two characters make. -/
def pair? (a b : Char) : Option Char :=
  match hangulSyllable? a b with
  | some c => some c
  | none => (compositions.find? fun (ab, _) => ab == (a, b)).map fun (_, c) => c

/-- A text in which characters are being put together, all of it last character first. -/
structure Composition where
  done : List Char
  /-- The last character of class 0, which marks may join. -/
  base : Option Char
  /-- The marks behind it that did not. -/
  marks : List Char

namespace Composition

/-- The text so far, last character first. -/
def text (p : Composition) : List Char := p.marks ++ p.base.toList ++ p.done

/-- Whether a mark keeps characters of class `k` from the base. -/
def isBlocked (p : Composition) (k : Nat) : Bool :=
  match p.marks with
  | [] => false
  | m :: _ => k ≤ combiningClass m

/-- Reads one more character. -/
def push (p : Composition) (c : Char) : Composition :=
  let k := combiningClass c
  match if p.isBlocked k then none else p.base.bind fun base => pair? base c with
  | some c => { p with base := some c }
  | none =>
    if k = 0 then ⟨p.text, some c, []⟩
    else { p with marks := c :: p.marks }

end Composition

/-- The normalization form C of a text. -/
def normal (s : List Char) : List Char :=
  if s.all isAscii then s
  else ((decomposed s).foldl Composition.push ⟨[], none, []⟩).text.reverse

end PushRelay.Text
