import PushRelay.Json.Reader
import PushRelay.Proofs.Numeral
import PushRelay.Proofs.Text.Utf8

/-!
# Leaves of JSON read back

Text and integers are read back from the leaves that are made of them.

    text? (text s) = some s                                                         (text?_text)
    lo ≤ n → n ≤ hi → int? lo hi (int n) = some n                                     (int?_int)

In the text of a tree, the content of a string ends at its closing quote (`content?_escape`), and a
numeral where no more of it can follow (`numeral?_ofInt`).
-/

namespace PushRelay.Json

variable {b : UInt8} {s t rest : Bytes} {lo hi n : Int}

/-! ## Strings -/

/-- The ways in which an octet can be written in a string. -/
inductive Escaped (b : UInt8) : Bytes → Prop
  | letter {c : UInt8} (h : letterEscape? c = some b) : Escaped b [92, c]
  | unit {c d : UInt8} (h : hexUnit? 48 48 c d = some b.toNat) (hb : b.toNat < 128) :
      Escaped b [92, 117, 48, 48, c, d]
  | plain (hquote : b ≠ quote) (hescape : b ≠ backslash) (hb : 32 ≤ b) : Escaped b [b]

theorem escaped_control : ∀ n < 32, hexUnit? 48 48 (if UInt8.ofNat n < 16 then 48 else 49)
    (if UInt8.ofNat n % 16 < 10 then 48 + UInt8.ofNat n % 16 else 87 + UInt8.ofNat n % 16) =
    some n := by decide

theorem escaped_escapeOctet (b : UInt8) : Escaped b (escapeOctet b) := by
  unfold escapeOctet
  -- seven octets are escaped by a letter of their own
  iterate 7
    split
    next h =>
      subst h
      exact .letter rfl
  split
  · next h =>
    have hb : b.toNat < 32 := UInt8.lt_iff_toNat_lt.1 h
    have hunit := escaped_control b.toNat hb
    rw [UInt8.ofNat_toNat] at hunit
    exact .unit hunit (by omega)
  · next hquote hescape _ _ _ _ _ h =>
    exact .plain hquote hescape (UInt8.not_lt.1 h)

theorem ne_of_letterEscape? {c : UInt8} (h : letterEscape? c = some b) : c ≠ 117 := by
  rintro rfl
  cases h

theorem content?_escaped (h : Escaped b s) (t : Bytes) :
    content? (s ++ t) = (content? t).map fun (content, rest) => (s ++ content, rest) := by
  cases h with
  | @letter c h =>
    have hc := ne_of_letterEscape? h
    simp only [List.cons_append, List.nil_append]
    rw [content?.eq_4 _ _ fun _ _ _ _ _ hc' _ => hc hc', h]
    rfl
  | unit h hb =>
    simp only [List.cons_append, List.nil_append]
    rw [content?, h]
    rfl
  | plain hquote hescape hb =>
    rw [List.singleton_append, content?.eq_5 _ _ hquote (fun _ _ _ _ _ hb' _ => hescape hb')
      (fun _ _ hb' _ => hescape hb'), if_neg]
    · rfl
    · rintro (h | h)
      · exact hescape h
      · exact UInt8.not_lt.2 hb h

/-- The octets of a code point below 128. -/
theorem utf8_ascii (hb : b.toNat < 128) : utf8 b.toNat = [b] := by
  have hvalid : b.toNat.isValidChar := .inl (by omega)
  have hcode : (Char.ofNat b.toNat).val.toNat = b.toNat := by
    rw [Char.ofNat, dif_pos hvalid]
    rfl
  rw [utf8, String.utf8EncodeChar.eq_1, hcode, if_pos (by omega), UInt8.ofNat_toNat]

theorem unescape_escaped (h : Escaped b s) (t : Bytes) :
    unescape (s ++ t) = (unescape t).map (b :: ·) := by
  cases h with
  | @letter c h =>
    have hc := ne_of_letterEscape? h
    simp only [List.cons_append, List.nil_append]
    rw [unescape.eq_3 _ _ fun _ _ _ _ _ hc' _ => hc hc', h]
  | unit h hb =>
    simp only [List.cons_append, List.nil_append]
    rw [unescape, h]
    simp only [if_pos (show b.toNat < 0xD800 ∨ 0xDFFF < b.toNat from .inl (by omega)), utf8_ascii hb]
    rfl
  | plain hquote hescape hb =>
    rw [List.singleton_append, unescape.eq_4 _ _ (fun _ _ _ _ _ hb' _ => hescape hb')
      (fun _ _ hb' _ => hescape hb'), if_neg hescape]

theorem escape_cons (b : UInt8) (s : Bytes) : escape (b :: s) = escapeOctet b ++ escape s := rfl

/-- The content of a string ends at its closing quote. -/
theorem content?_escape (s rest : Bytes) :
    content? (escape s ++ 34 :: rest) = some (escape s, rest) := by
  induction s with
  | nil => exact content?.eq_2 rest
  | cons b s ih =>
    rw [escape_cons, List.append_assoc, content?_escaped (escaped_escapeOctet b), ih]
    rfl

theorem unescape_escape (s : Bytes) : unescape (escape s) = some s := by
  induction s with
  | nil => exact unescape.eq_1
  | cons b s ih =>
    rw [escape_cons, unescape_escaped (escaped_escapeOctet b), ih]
    rfl

/-- Octets that need no escape stand for themselves. -/
theorem escape_plain (h : ∀ b ∈ s, 32 ≤ b.toNat ∧ b ≠ quote ∧ b ≠ backslash) : escape s = s := by
  induction s with
  | nil => rfl
  | cons b s ih =>
    obtain ⟨hb, hquote, hescape⟩ := h b List.mem_cons_self
    have hne : ∀ c : UInt8, c.toNat < 32 → b ≠ c := by
      rintro c hc rfl
      omega
    have hlt : ¬b < 32 := fun h => Nat.not_lt_of_le hb (UInt8.lt_iff_toNat_lt.1 h)
    have hoctet : escapeOctet b = [b] := by
      rw [escapeOctet, if_neg hquote, if_neg hescape, if_neg (hne 8 (by decide)),
        if_neg (hne 9 (by decide)), if_neg (hne 10 (by decide)), if_neg (hne 12 (by decide)),
        if_neg (hne 13 (by decide)), if_neg hlt]
    rw [escape_cons, hoctet, ih fun b' hb' => h b' (List.mem_cons_of_mem b hb')]
    rfl

theorem octets?_octets (s : Bytes) : (octets s).octets? = (Utf8.decode? s).map fun _ => s := by
  rw [octets, octets?, unescape_escape]

/-- A text is read back. -/
theorem text?_text (s : String) : (text s).text? = some s := by
  have hoctets : (text s).octets? = some (Utf8.ofString s) := by
    rw [text, octets?_octets, Utf8.ofString, Utf8.decode?_ofChars]
    rfl
  rw [text?, hoctets]
  exact Utf8.toString?_ofString s

/-! ## Numerals -/

/-- A numeral ends in front of such octets. -/
def Stops (rest : Bytes) : Prop :=
  ∀ b t, rest = b :: t → isDigit b = false ∧ b ≠ 46 ∧ b ≠ 101 ∧ b ≠ 69

theorem stops_nil : Stops [] := fun _ _ h => by cases h

theorem stops_cons (hdigit : isDigit b = false) (hpoint : b ≠ 46) (hsmall : b ≠ 101) (hbig : b ≠ 69) :
    Stops (b :: t) := by
  intro b' t' h
  cases h
  exact ⟨hdigit, hpoint, hsmall, hbig⟩

theorem isDigit_iff : isDigit b = true ↔ 48 ≤ b.toNat ∧ b.toNat ≤ 57 := by
  rw [isDigit, Bool.and_eq_true, decide_eq_true_iff, decide_eq_true_iff, UInt8.le_iff_toNat_le,
    UInt8.le_iff_toNat_le]
  rfl

theorem isDigit_of_mem_ofNat {n : Nat} (h : b ∈ Numeral.ofNat n) : isDigit b = true :=
  isDigit_iff.2 (Numeral.range_of_mem_ofNat h)

theorem digits?_append (hs : s ≠ []) (hdigits : ∀ b ∈ s, isDigit b = true) (hrest : Stops rest) :
    digits? (s ++ rest) = some (s, rest) := by
  have hnone : rest.takeWhile isDigit = [] ∧ rest.dropWhile isDigit = rest := by
    cases rest with
    | nil => exact ⟨rfl, rfl⟩
    | cons b t =>
      have hb := (hrest b t rfl).1
      exact ⟨by rw [List.takeWhile_cons, hb]; rfl, by rw [List.dropWhile_cons, hb]; rfl⟩
  unfold digits?
  rw [List.takeWhile_append_of_pos hdigits, List.dropWhile_append_of_pos hdigits, hnone.1, hnone.2,
    List.append_nil]
  cases s with
  | nil => exact absurd rfl hs
  | cons b s => rfl

theorem whole?_ofNat (n : Nat) (hrest : Stops rest) :
    whole? (Numeral.ofNat n ++ rest) = some (Numeral.ofNat n, rest) := by
  by_cases hn : n = 0
  · subst hn
    have hzero : Numeral.ofNat 0 = [48] := by rw [Numeral.ofNat, if_pos (by decide)]; rfl
    rw [hzero, List.singleton_append, whole?, if_neg]
    cases rest with
    | nil => exact Bool.false_ne_true
    | cons b t =>
      show ¬isDigit b = true
      rw [(hrest b t rfl).1]
      exact Bool.false_ne_true
  · have hhead := Numeral.head_ofNat_ne (Nat.pos_of_ne_zero hn)
    have hdigits := digits?_append (Numeral.ofNat_ne_nil n) (fun _ => isDigit_of_mem_ofNat) hrest
    rw [← hdigits]
    cases hs : Numeral.ofNat n with
    | nil => exact absurd hs (Numeral.ofNat_ne_nil n)
    | cons b s =>
      rw [List.cons_append]
      exact whole?.eq_2 _ fun _ h => hhead b s hs (List.cons.inj h).1

theorem fraction?_stops (hrest : Stops rest) : fraction? rest = some ([], rest) :=
  fraction?.eq_2 rest fun t h => (hrest 46 t h).2.1 rfl

theorem exponent?_stops (hrest : Stops rest) : exponent? rest = some ([], rest) := by
  cases rest with
  | nil => rfl
  | cons b t =>
    obtain ⟨-, -, hsmall, hbig⟩ := hrest b t rfl
    simp only [exponent?.eq_def, if_neg (not_or.2 ⟨hsmall, hbig⟩)]

theorem unsigned?_ofNat (n : Nat) (hrest : Stops rest) :
    unsigned? (Numeral.ofNat n ++ rest) = some (Numeral.ofNat n, rest) := by
  simp only [unsigned?, whole?_ofNat n hrest, fraction?_stops hrest, exponent?_stops hrest,
    List.append_nil]

/-- A numeral is found in front of what cannot belong to it. -/
theorem numeral?_ofInt (n : Int) (hrest : Stops rest) :
    numeral? (Numeral.ofInt n ++ rest) = some (Numeral.ofInt n, rest) := by
  cases n with
  | ofNat n =>
    show numeral? (Numeral.ofNat n ++ rest) = _
    rw [numeral?.eq_2 _ fun t h => ?_, unsigned?_ofNat n hrest]
    · rfl
    · cases hs : Numeral.ofNat n with
      | nil => exact Numeral.ofNat_ne_nil n hs
      | cons b s =>
        rw [hs, List.cons_append] at h
        cases h
        have hmem : (45 : UInt8) ∈ Numeral.ofNat n := hs ▸ List.mem_cons_self
        exact absurd (Numeral.range_of_mem_ofNat hmem).1 (by decide)
  | negSucc n =>
    show numeral? (45 :: (Numeral.ofNat (n + 1) ++ rest)) = _
    rw [numeral?, unsigned?_ofNat (n + 1) hrest]
    rfl

/-- An integer within the bounds is read back. -/
theorem int?_int (hlo : lo ≤ n) (hhi : n ≤ hi) : (int n).int? lo hi = some n := by
  rw [int, int?.eq_2 _ _ _ (Numeral.ofInt_ne_minusZero n), Numeral.integer?_ofInt hlo hhi]

theorem nat?_nat {n bound : Nat} (h : n < bound) : (nat n).nat? bound = some n := by
  have hint : (int n).int? 0 (bound - 1) = some (n : Int) := int?_int (by omega) (by omega)
  show ((int n).int? 0 (bound - 1)).map Int.toNat = _
  rw [hint]
  rfl

end PushRelay.Json
