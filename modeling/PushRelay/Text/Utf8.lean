/-!
# Bytes and UTF-8

`Bytes` is a finite sequence of octets.  `Utf8.chars` reads octets as UTF-8 and marks each
ill-formed stretch; `Utf8.decode?` accepts well-formed text only and `Utf8.lossy` writes the
replacement character for each stretch.  A stretch is the longest start of a character that the
octets give, so a character cut off at the end is marked once.

    (chars s).map (·.getD U+FFFD) = lossy s            (by definition)
    decode? s = some t → every octet of s belongs to a character of t
-/

namespace PushRelay

abbrev Bytes := List UInt8

namespace Utf8

/-! ## Encoding -/

/-- The octets of a text. -/
def ofChars (cs : List Char) : Bytes := cs.flatMap String.utf8EncodeChar

/-- The octets of a text. -/
def ofString (s : String) : Bytes := ofChars s.toList

/-! ## Decoding -/

/-- What a first octet announces: how many octets follow, the range of the next one, and the bits
it carries itself. -/
structure Lead where
  more : Nat
  lo : UInt8
  hi : UInt8
  bits : Nat

/-- The ranges leave out overlong forms, surrogates and everything above U+10FFFF. -/
def lead? (b : UInt8) : Option Lead :=
  if b < 0x80 then some ⟨0, 0, 0, b.toNat⟩
  else if b < 0xC2 then none
  else if b < 0xE0 then some ⟨1, 0x80, 0xBF, b.toNat - 0xC0⟩
  else if b == 0xE0 then some ⟨2, 0xA0, 0xBF, 0⟩
  else if b == 0xED then some ⟨2, 0x80, 0x9F, 0xD⟩
  else if b < 0xF0 then some ⟨2, 0x80, 0xBF, b.toNat - 0xE0⟩
  else if b == 0xF0 then some ⟨3, 0x90, 0xBF, 0⟩
  else if b < 0xF4 then some ⟨3, 0x80, 0xBF, b.toNat - 0xF0⟩
  else if b == 0xF4 then some ⟨3, 0x80, 0x8F, 4⟩
  else none

/-- Reads the `more` octets that complete a character.  Stops in front of the first that cannot. -/
def tail (more : Nat) (lo hi : UInt8) (bits : Nat) (s : Bytes) : Option Nat × Bytes :=
  match more, s with
  | 0, s => (some bits, s)
  | _ + 1, [] => (none, [])
  | more + 1, b :: s =>
    if lo ≤ b && b ≤ hi then tail more 0x80 0xBF (bits * 64 + (b.toNat - 0x80)) s
    else (none, b :: s)

theorem tail_length_le (more : Nat) (lo hi : UInt8) (bits : Nat) (s : Bytes) :
    (tail more lo hi bits s).2.length ≤ s.length := by
  induction more generalizing lo hi bits s with
  | zero => simp [tail]
  | succ more ih =>
    cases s with
    | nil => simp [tail]
    | cons b s =>
      simp only [tail]
      split
      · exact Nat.le_succ_of_le (ih ..)
      · exact Nat.le_refl _

/-- The character that starts with octet `b`, `none` if it is ill-formed, and what follows it. -/
def next (b : UInt8) (s : Bytes) : Option Char × Bytes :=
  match lead? b with
  | none => (none, s)
  | some l =>
    let (code, rest) := tail l.more l.lo l.hi l.bits s
    (code.map Char.ofNat, rest)

theorem next_length_le (b : UInt8) (s : Bytes) : (next b s).2.length ≤ s.length := by
  unfold next
  split
  · exact Nat.le_refl _
  · exact tail_length_le ..

/-- The characters of `s`, with `none` for each ill-formed stretch. -/
def chars (s : Bytes) : List (Option Char) :=
  match s with
  | [] => []
  | b :: s =>
    have : (next b s).2.length < s.length + 1 := Nat.lt_succ_of_le (next_length_le b s)
    (next b s).1 :: chars (next b s).2
  termination_by s.length

/-- The text of well-formed octets. -/
def decode? (s : Bytes) : Option (List Char) := (chars s).mapM id

/-- The text of any octets, with U+FFFD for each ill-formed stretch. -/
def lossy (s : Bytes) : List Char := (chars s).map (·.getD '\uFFFD')

/-- As `decode?`, as a string. -/
def toString? (s : Bytes) : Option String := (decode? s).map String.ofList

/-- As `lossy`, as a string. -/
def toStringLossy (s : Bytes) : String := String.ofList (lossy s)

end Utf8

end PushRelay
