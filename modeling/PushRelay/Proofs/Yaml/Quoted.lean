import PushRelay.Proofs.Yaml.Number
import PushRelay.Yaml.Scalar

/-!
# Quoted scalars

`quote` writes a text between double quotes, with an escape of eight digits for every character that is
not a visible one of ASCII, and for the two that mean something there.  `quoted?` reads the text back.

    c.rest = quote text ++ s → quoted? true c = some (text, c.pass (quote text).length)
                                                                                 (quoted?_quote)
-/

namespace PushRelay.Yaml

/-! ## Cursors -/

namespace Cursor

variable {c : Cursor} {s t : List Char}

theorem octets_append (s t : List Char) : octets (s ++ t) = octets s + octets t := by
  unfold octets
  rw [List.foldl_append]
  generalize s.foldl (fun n c => n + c.utf8Size) 0 = n
  induction t generalizing n with
  | nil => rfl
  | cons a t ih => rw [List.foldl_cons, List.foldl_cons, ih, ih (0 + a.utf8Size)]; omega

theorem pass_zero (c : Cursor) : c.pass 0 = c := rfl

theorem pass_pass (c : Cursor) (m n : Nat) : (c.pass m).pass n = c.pass (m + n) := by
  simp only [pass, List.drop_drop, List.take_add, octets_append, List.length_append, Nat.add_assoc]

/-- The place behind some text. -/
theorem pass_rest (h : c.rest = s ++ t) : (c.pass s.length).rest = t := by
  rw [pass, h, List.drop_left]

theorem pass_col (h : c.rest = s ++ t) : (c.pass s.length).col = c.col + s.length := by
  rw [pass, h, List.take_left]

theorem pass_index (h : c.rest = s ++ t) : (c.pass s.length).index = c.index + octets s := by
  rw [pass, h, List.take_left]

/-- Marks stand at the start of a line. -/
theorem isAnyMark_of_col (h : 0 < c.col) : c.isAnyMark = false := by
  have hcol : (c.col == 0) = false := beq_eq_false_iff_ne.2 (Nat.ne_of_gt h)
  rw [isAnyMark, isMark, isMark, hcol]
  rfl

end Cursor

/-! ## Writing -/

/-- Whether a character stands for itself in what `quote` writes. -/
def isVisible (c : Char) : Bool := 0x21 ≤ c.toNat && c.toNat ≤ 0x7E && c != '"' && c != '\\'

def quoteChar (c : Char) : List Char := if isVisible c then [c] else '\\' :: 'U' :: hex 8 c.toNat

def quote (text : List Char) : List Char := '"' :: text.flatMap quoteChar ++ ['"']

theorem length_quote (t : List Char) : 2 ≤ (quote t).length := by
  rw [quote, List.length_append, List.length_cons, List.length_singleton]
  omega

/-! ## Characters -/

/-- A visible character of ASCII separates nothing. -/
theorem not_blank_of_range {c : Char} (h : 0x21 ≤ c.toNat ∧ c.toNat ≤ 0x7E) :
    isBlankOrBreak c = false := by
  have hne (d : Char) (hd : d.toNat < 0x21 ∨ 0x7E < d.toNat) : (c == d) = false := by
    rw [beq_eq_false_iff_ne]
    rintro rfl
    omega
  simp only [isBlankOrBreak, isSpaceOrTab, isBreak, isSeparator, hne ' ' (by decide),
    hne '\t' (by decide), hne '\n' (by decide), hne '\r' (by decide), hne '\u0085' (by decide),
    hne '\u2028' (by decide), hne '\u2029' (by decide), Bool.or_self]

theorem isAllowed_of_range {c : Char} (h : 0x21 ≤ c.toNat ∧ c.toNat ≤ 0x7E) : isAllowed c = true := by
  have hlo : 0x20 ≤ c.toNat := by omega
  simp only [isAllowed, decide_eq_true hlo, decide_eq_true h.2, Bool.true_and, Bool.or_true,
    Bool.true_or]

theorem isVisible_iff {c : Char} :
    isVisible c = true ↔ (0x21 ≤ c.toNat ∧ c.toNat ≤ 0x7E) ∧ c ≠ '"' ∧ c ≠ '\\' := by
  simp [isVisible, and_assoc]

theorem all_isAllowed_hex (width n : Nat) : (hex width n).all isAllowed = true := by
  have hdigit : ∀ d < 16, isAllowed d.digitChar = true := by decide
  induction width generalizing n with
  | zero => rfl
  | succ width ih =>
    rw [hex, List.all_append, ih, List.all_cons, hdigit _ (Nat.mod_lt _ (by decide))]
    rfl

theorem all_isAllowed_quote (t : List Char) : (quote t).all isAllowed = true := by
  have hchar (c : Char) : (quoteChar c).all isAllowed = true := by
    unfold quoteChar
    split
    · next hv => rw [List.all_cons, isAllowed_of_range (isVisible_iff.1 hv).1]; rfl
    · rw [List.all_cons, List.all_cons, all_isAllowed_hex]; decide
  have htext : (t.flatMap quoteChar).all isAllowed = true := by
    rw [List.all_flatMap]
    exact List.all_eq_true.2 fun c _ => hchar c
  rw [quote, List.all_append, List.all_cons, htext]
  decide

/-! ## Reading -/

/-- An escape with the eight digits of a character's number. -/
theorem escape?_hex (c : Char) (s : List Char) :
    escape? ('U' :: (hex 8 c.toNat ++ s)) = some (c, 9) := by
  have hlen : ¬ (hex 8 c.toNat ++ s).length < 8 := by
    rw [List.length_append, length_hex]
    omega
  have hvalid : c.toNat < 0xD800 ∨ 0xDFFF < c.toNat ∧ c.toNat < 0x110000 := c.valid
  have hcode : c.toNat < 0xD800 ∨ 0xDFFF < c.toNat ∧ c.toNat ≤ 0x10FFFF := by omega
  have hlt : c.toNat < 16 ^ (7 + 1) := by omega
  have htake : (hex 8 c.toNat ++ s).take 8 = hex (7 + 1) c.toNat :=
    List.take_left' (length_hex 8 c.toNat)
  show (coded? 8 (hex 8 c.toNat ++ s)).map (fun x => (x, 8 + 1)) = some (c, 9)
  rw [coded?, if_neg hlen, htake, digits?_hex, Nat.mod_eq_of_lt hlt, Option.bind_some, if_pos hcode,
    Char.ofNat_toNat]
  rfl

theorem length_le_quoted (text : List Char) : text.length ≤ (text.flatMap quoteChar).length := by
  induction text with
  | nil => exact Nat.zero_le _
  | cons a text ih =>
    have hpos : 0 < (quoteChar a).length := by
      unfold quoteChar
      split
      · exact Nat.one_pos
      · exact Nat.succ_pos _
    rw [List.flatMap_cons, List.length_append, List.length_cons]
    omega

variable {c : Cursor} {s : List Char}

/-- There are no blanks in what is written, so that it is read in one part. -/
theorem quotedPart?_quoted (text pre : List Char)
    (hc : c.rest = text.flatMap quoteChar ++ '"' :: s) (fuel : Nat) (hf : text.length < fuel) :
    quotedPart? fuel true pre c = some ⟨pre ++ text, c.pass (text.flatMap quoteChar).length, false⟩ := by
  induction text generalizing c pre fuel with
  | nil =>
    obtain ⟨fuel, rfl⟩ := Nat.exists_eq_add_of_lt hf
    have hc : c.rest = '"' :: s := hc
    unfold quotedPart?
    rw [hc, List.append_nil]
    rfl
  | cons a text ih =>
    obtain ⟨fuel, rfl⟩ := Nat.exists_eq_add_of_lt hf
    rw [List.flatMap_cons, List.append_assoc] at hc
    have hfuel : (a :: text).length + fuel = text.length + fuel + 1 := by
      rw [List.length_cons]
      omega
    have ih := ih (pre ++ [a]) (c := c.pass (quoteChar a).length) (Cursor.pass_rest hc)
      (text.length + fuel + 1) (by omega)
    rw [Cursor.pass_pass, List.append_assoc, ← List.length_append] at ih
    unfold quotedPart?
    rw [hfuel, List.flatMap_cons]
    cases hv : isVisible a with
    | true =>
      have hq : quoteChar a = [a] := if_pos hv
      obtain ⟨hrange, hquote, hslash⟩ := isVisible_iff.1 hv
      rw [hq] at hc ih ⊢
      rw [hc]
      simp only [List.cons_append, List.nil_append, not_blank_of_range hrange,
        beq_eq_false_iff_ne.2 hquote, beq_eq_false_iff_ne.2 hslash, Bool.and_false, Bool.not_true,
        Bool.false_and, if_true, if_false, Bool.false_eq_true]
      exact ih
    | false =>
      have hq : quoteChar a = '\\' :: 'U' :: hex 8 a.toNat := if_neg (by rw [hv]; decide)
      have hlen : (quoteChar a).length = 10 := by
        rw [hq, List.length_cons, List.length_cons, length_hex]
      rw [List.length_append, hlen] at ih ⊢
      rw [hc, hq]
      simp only [List.cons_append, escape?_hex]
      exact ih

/-- A text in double quotes is read back. -/
theorem quoted?_quote (hcol : 0 < c.col) {text : List Char} (hc : c.rest = quote text ++ s) :
    quoted? true c = some (text, c.pass (quote text).length) := by
  have hlen : (quote text).length = 1 + (text.flatMap quoteChar).length + 1 := by
    rw [quote, List.length_append, List.length_cons, List.length_singleton]
    omega
  have hc : c.rest = ['"'] ++ (text.flatMap quoteChar ++ '"' :: s) := by
    rw [hc, quote, List.append_assoc]
    rfl
  have hinner : (c.pass 1).rest = text.flatMap quoteChar ++ '"' :: s := Cursor.pass_rest hc
  have hquote := Cursor.pass_rest hinner
  have hmark : (c.pass 1).isAnyMark = false := by
    refine Cursor.isAnyMark_of_col ?_
    rw [show 1 = ['"'].length from rfl, Cursor.pass_col hc]
    omega
  have hfuel : text.length < (c.pass 1).rest.length + 1 := by
    have hle := length_le_quoted text
    rw [hinner, List.length_append, List.length_cons]
    omega
  rw [Cursor.pass_pass] at hquote
  rw [quoted?, quotedWithin, hmark, quotedPart?_quoted text [] hinner _ hfuel]
  simp only [Bool.false_eq_true, if_false, List.nil_append, Cursor.startsWith, hquote,
    List.head?_cons, if_true, beq_self_eq_true, Cursor.pass_pass, hlen]

end PushRelay.Yaml
