import PushRelay.Proofs.Numeral
import PushRelay.Yaml.Basic

/-!
# Numbers in YAML

What `hex` and `Numeral.decimal` write is read back, the former as the digits of an escape, the latter
as an integer.

    digits? 16 (hex (width + 1) n) = some (n % 16 ^ (width + 1))                    (digits?_hex)
    integer? (Numeral.decimal i) = some i                                        (integer?_decimal)
-/

namespace PushRelay.Yaml

/-! ## Digits -/

theorem digit?_digitChar : ∀ d < 16, digit? 16 d.digitChar = some d := by decide

/-- A further digit. -/
theorem digits?_concat (radix : Nat) {s : List Char} (hs : s ≠ []) (c : Char) :
    digits? radix (s ++ [c]) =
      (digits? radix s).bind fun n => (digit? radix c).map (n * radix + ·) := by
  cases s with
  | nil => exact absurd rfl hs
  | cons a s =>
    show (a :: s ++ [c]).foldl _ _ = _
    rw [List.foldl_append]
    rfl

/-- A number in so many hexadecimal digits. -/
def hex : Nat → Nat → List Char
  | 0, _ => []
  | width + 1, n => hex width (n / 16) ++ [(n % 16).digitChar]

theorem length_hex (width n : Nat) : (hex width n).length = width := by
  induction width generalizing n with
  | zero => rfl
  | succ width ih => rw [hex, List.length_append, ih]; rfl

theorem digits?_hex (width n : Nat) :
    digits? 16 (hex (width + 1) n) = some (n % 16 ^ (width + 1)) := by
  induction width generalizing n with
  | zero =>
    show (digit? 16 (n % 16).digitChar).map (0 * 16 + ·) = _
    rw [digit?_digitChar _ (Nat.mod_lt _ (by decide)), Option.map_some, Nat.zero_mul, Nat.zero_add]
    rfl
  | succ width ih =>
    have hne : hex (width + 1) (n / 16) ≠ [] :=
      List.ne_nil_of_length_pos (by rw [length_hex]; omega)
    rw [hex, digits?_concat 16 hne, ih, Option.bind_some,
      digit?_digitChar _ (Nat.mod_lt _ (by decide)), Option.map_some]
    have hmod : n % 16 ^ (width + 1 + 1) = n % 16 + 16 * (n / 16 % 16 ^ (width + 1)) := by
      rw [Nat.pow_succ', Nat.mod_mul]
    rw [hmod, Nat.mul_comm, Nat.add_comm]

theorem digits?_toDigits (n : Nat) : digits? 10 (Nat.toDigits 10 n) = some n := by
  have hdigit : ∀ d < 10, digits? 10 [d.digitChar] = some d := by decide
  induction n using Numeral.ofNat.induct with
  | case1 n hn => rw [Nat.toDigits_of_lt_base hn, hdigit n hn]
  | case2 n hn ih =>
    have hlt : n % 10 < 10 := Nat.mod_lt n (by decide)
    have hread : ∀ d < 10, digit? 10 d.digitChar = some d := by decide
    rw [Nat.toDigits_of_base_le (by decide) (Nat.not_lt.1 hn), digits?_concat 10 Nat.toDigits_ne_nil,
      ih, Option.bind_some, hread _ hlt, Option.map_some, Nat.div_add_mod']

/-! ## Integers -/

/-- No zero leads that could tell another radix, or that makes no number. -/
theorem magnitude?_toDigits (n : Nat) : magnitude? (Nat.toDigits 10 n) = some n := by
  rcases Nat.eq_zero_or_pos n with rfl | hpos
  · decide
  have hzero : ∀ s, Nat.toDigits 10 n ≠ '0' :: s := fun s hs =>
    Numeral.head_ofNat_ne hpos 48 (Utf8.ofChars s) (by
      rw [show Numeral.ofNat n = Numeral.ofInt (.ofNat n) from rfl, ← Numeral.ofChars_decimal,
        Numeral.decimal, hs]
      rfl) rfl
  have hradixed : radixed? (Nat.toDigits 10 n) = none := by
    unfold radixed?
    split
    · next hs => exact absurd hs (hzero _)
    · next hs => exact absurd hs (hzero _)
    · next hs => exact absurd hs (hzero _)
    · rfl
  have hleading : hasLeadingZero (Nat.toDigits 10 n) = false := by
    unfold hasLeadingZero
    split
    · next hs => exact absurd hs (hzero _)
    · rfl
  rw [magnitude?, hradixed, hleading, digits?_toDigits]
  rfl

theorem integer?_decimal (i : Int) : integer? (Numeral.decimal i) = some i := by
  cases i with
  | ofNat n =>
    -- there is no sign in front
    have hsign (c : Char) (hc : ∀ d < 10, d.digitChar ≠ c) (s : List Char) :
        Nat.toDigits 10 n ≠ c :: s := fun hs =>
      Numeral.forall_mem_toDigits (p := (· ≠ c)) hc n c (hs ▸ List.mem_cons_self) rfl
    unfold integer? Numeral.decimal
    split
    · next hs => exact absurd hs (hsign '-' (by decide) _)
    · next hs => exact absurd hs (hsign '+' (by decide) _)
    · rw [magnitude?_toDigits]
      rfl
  | negSucc n =>
    rw [Numeral.decimal, integer?, magnitude?_toDigits]
    rfl

/-! ## Nodes -/

theorem int?_decimal {lo hi i : Int} (hlo : lo ≤ i) (hhi : i ≤ hi) :
    int? lo hi (.scalar .plain none (Numeral.decimal i)) = some i := by
  have hrange : lo ≤ i ∧ i ≤ hi := ⟨hlo, hhi⟩
  rw [int?, textOf?, Option.bind_some, integer?_decimal, Option.filter_some, if_pos]
  exact decide_eq_true hrange

theorem nat?_decimal {bound n : Nat} (h : n < bound) :
    nat? bound (.scalar .plain none (Numeral.decimal n)) = some n := by
  have hsign : ∀ s, Numeral.decimal n ≠ '-' :: s := fun s hs =>
    Numeral.forall_mem_toDigits (p := (· ≠ '-')) (by decide) n '-'
      (show '-' ∈ Numeral.decimal n from hs ▸ List.mem_cons_self) rfl
  unfold nat?
  split
  · next hs => exact absurd (Option.some.inj hs) (hsign _)
  · rw [int?_decimal (Int.natCast_nonneg n) (by omega)]
    rfl

/-- A number is something. -/
theorem isUnset?_decimal (i : Int) :
    isUnset? (.scalar .plain none (Numeral.decimal i)) = some false := by
  have hword : isNullWord (Numeral.decimal i) = false := by
    rw [← Bool.not_eq_true, isNullWord, List.contains_iff_mem]
    intro hmem
    -- none of the words starts like a number
    have hall : ∀ word ∈ ["null", "Null", "NULL", "~"],
        word.toList.any (fun c => !(c == '-' || c.isDigit)) = true := by decide
    obtain ⟨c, hc, hno⟩ := List.any_eq_true.1 (hall _ hmem)
    rw [String.toList_ofList] at hc
    rw [Numeral.forall_mem_decimal (p := fun c => (c == '-' || c.isDigit) = true) rfl (by decide) i
      c hc] at hno
    cases hno
  have hempty : (Numeral.decimal i).isEmpty = false :=
    List.isEmpty_eq_false_iff.2 (Numeral.decimal_ne_nil i)
  rw [isUnset?, hword, hempty]
  rfl

end PushRelay.Yaml
