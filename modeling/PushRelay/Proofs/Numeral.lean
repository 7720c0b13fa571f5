import Mathlib.Data.Nat.Digits.Defs
import PushRelay.Text.Numeral

/-!
# Numerals read back

`ofNat` writes digits and nothing else, and `natural?` reads back what it has written; so does
`integer?` with what `ofInt` has written.  `IsNumeral` says what else may be written for a number, and
`natural?` reads just that.

    natural? bound s = some n ↔ IsNumeral s n ∧ n < bound                     (natural?_eq_some_iff)
-/

namespace PushRelay.Numeral

variable {n k bound : Nat} {b : UInt8}

/-! ## Digits -/

theorem toNat_digit (h : n < 10) : (digit n).toNat = 48 + n := by
  rw [digit, UInt8.toNat_ofNat']
  omega

theorem digit?_digit (h : n < 10) : digit? (digit n) = some n := by
  have hrange : 48 ≤ digit n ∧ digit n ≤ 57 := by
    simp only [UInt8.le_iff_toNat_le, toNat_digit h, UInt8.reduceToNat]
    omega
  rw [digit?, if_pos hrange, toNat_digit h, Nat.add_sub_cancel_left]

theorem digits?_append (m : Nat) (s t : Bytes) :
    digits? m (s ++ t) = (digits? m s).bind fun n => digits? n t := by
  induction s generalizing m with
  | nil => rfl
  | cons b s ih =>
    rw [List.cons_append, digits?, digits?]
    cases digit? b with
    | none => rfl
    | some d => exact ih _

/-! ## What is written -/

theorem ofNat_ne_nil (n : Nat) : ofNat n ≠ [] := by
  rw [ofNat]
  split <;> simp

/-- Every octet of a numeral is that of a digit. -/
theorem range_of_mem_ofNat (h : b ∈ ofNat n) : 48 ≤ b.toNat ∧ b.toNat ≤ 57 := by
  induction n using ofNat.induct with
  | case1 n hn =>
    rw [ofNat, if_pos hn] at h
    rw [List.mem_singleton.1 h, toNat_digit hn]
    omega
  | case2 n hn ih =>
    rw [ofNat, if_neg hn] at h
    rcases List.mem_append.1 h with h | h
    · exact ih h
    · rw [List.mem_singleton.1 h, toNat_digit (Nat.mod_lt n (by decide))]
      omega

/-- A number below the `k`th power of ten has `k` digits at most. -/
theorem length_ofNat_le (hk : 0 < k) (h : n < 10 ^ k) : (ofNat n).length ≤ k := by
  induction n using ofNat.induct generalizing k with
  | case1 n hn =>
    rw [ofNat, if_pos hn]
    exact hk
  | case2 n hn ih =>
    obtain ⟨k, rfl⟩ := Nat.exists_eq_add_one_of_ne_zero (Nat.ne_of_gt hk)
    rw [Nat.pow_succ] at h
    have hk' : 0 < k := Nat.pos_of_ne_zero (by rintro rfl; omega)
    have hle := ih hk' (by omega)
    rw [ofNat, if_neg hn, List.length_append]
    exact Nat.succ_le_succ hle

/-- No zeros lead. -/
theorem head_ofNat_ne (hn : 0 < n) : ∀ b s, ofNat n = b :: s → b ≠ 48 := by
  induction n using ofNat.induct with
  | case1 n hlt =>
    intro b s hs
    rw [ofNat, if_pos hlt] at hs
    cases hs
    intro hb
    have hdigit := toNat_digit hlt
    rw [hb] at hdigit
    have h48 : (48 : UInt8).toNat = 48 := rfl
    omega
  | case2 n hlt ih =>
    intro b s hs
    rw [ofNat, if_neg hlt] at hs
    cases hfront : ofNat (n / 10) with
    | nil => exact absurd hfront (ofNat_ne_nil _)
    | cons b' s' =>
      rw [hfront, List.cons_append] at hs
      cases hs
      exact ih (by omega) b s' hfront

/-- A numeral starts with a digit or a minus sign. -/
theorem head_ofInt (i : Int) :
    ∃ b s, ofInt i = b :: s ∧ (b.toNat = 45 ∨ 48 ≤ b.toNat ∧ b.toNat ≤ 57) := by
  cases i with
  | ofNat n =>
    show ∃ b s, ofNat n = b :: s ∧ _
    cases hs : ofNat n with
    | nil => exact absurd hs (ofNat_ne_nil n)
    | cons b s => exact ⟨b, s, rfl, .inr (range_of_mem_ofNat (hs ▸ List.mem_cons_self))⟩
  | negSucc n => exact ⟨45, ofNat (n + 1), rfl, .inl rfl⟩

/-- A numeral has no minus sign in front of a zero. -/
theorem ofInt_ne_minusZero (n : Int) : ofInt n ≠ [45, 48] := by
  intro h
  cases n with
  | ofNat n =>
    have hn : ofNat n = [45, 48] := h
    have hmem : (45 : UInt8) ∈ ofNat n := hn ▸ List.mem_cons_self
    exact absurd (range_of_mem_ofNat hmem).1 (by decide)
  | negSucc n => exact head_ofNat_ne (Nat.succ_pos n) 48 [] (List.cons.inj h).2 rfl

/-! ## Reading back -/

theorem digits?_ofNat (n : Nat) : digits? 0 (ofNat n) = some n := by
  induction n using ofNat.induct with
  | case1 n hn =>
    rw [ofNat, if_pos hn, digits?, digit?_digit hn]
    simp only [digits?, Nat.zero_mul, Nat.zero_add]
  | case2 n hn ih =>
    rw [ofNat, if_neg hn, digits?_append, ih, Option.bind_some, digits?,
      digit?_digit (Nat.mod_lt n (by decide))]
    simp only [digits?, Nat.div_add_mod']

theorem magnitude?_ofNat (n : Nat) : magnitude? (ofNat n) = some n := by
  have h := digits?_ofNat n
  cases hs : ofNat n with
  | nil => exact absurd hs (ofNat_ne_nil n)
  | cons b s => rwa [hs] at h

/-- A numeral is read back if its number is in range. -/
theorem natural?_ofNat (h : n < bound) : natural? bound (ofNat n) = some n := by
  -- there is no sign in front
  have hsign : ∀ s, ofNat n ≠ 43 :: s := fun s hs =>
    absurd (range_of_mem_ofNat (hs ▸ List.mem_cons_self : (43 : UInt8) ∈ ofNat n)).1 (by decide)
  unfold natural?
  split
  next s hs => exact absurd hs (hsign s)
  next => simp only [magnitude?_ofNat, if_pos h]

/-- An integer is read back if it is in range. -/
theorem integer?_ofInt {lo hi i : Int} (hlo : lo ≤ i) (hhi : i ≤ hi) :
    integer? lo hi (ofInt i) = some i := by
  have hrange : lo ≤ i ∧ i ≤ hi := ⟨hlo, hhi⟩
  cases i with
  | ofNat n =>
    have hsign : ∀ b, b = 45 ∨ b = 43 → ∀ s, ofNat n ≠ b :: s := by
      rintro b hb s hs
      have hmem : b ∈ ofNat n := hs ▸ List.mem_cons_self
      rcases hb with rfl | rfl <;> exact absurd (range_of_mem_ofNat hmem).1 (by decide)
    unfold integer? ofInt
    split
    next s hs => exact absurd hs (hsign 45 (.inl rfl) s)
    next s hs => exact absurd hs (hsign 43 (.inr rfl) s)
    next =>
      simp only [magnitude?_ofNat]
      exact if_pos hrange
  | negSucc n =>
    simp only [integer?, ofInt, magnitude?_ofNat]
    exact if_pos hrange

/-! ## Characters -/

/-- The characters of the shortest numeral. -/
def decimal : Int → List Char
  | .ofNat n => Nat.toDigits 10 n
  | .negSucc n => '-' :: Nat.toDigits 10 (n + 1)

theorem decimal_ne_nil (i : Int) : decimal i ≠ [] := by
  cases i with
  | ofNat n => exact Nat.toDigits_ne_nil
  | negSucc n => exact List.cons_ne_nil _ _

/-- What is so of the ten digits is so of every character that they make up. -/
theorem forall_mem_toDigits {p : Char → Prop} (hdigit : ∀ d < 10, p d.digitChar) (n : Nat) :
    ∀ c ∈ Nat.toDigits 10 n, p c := by
  induction n using ofNat.induct with
  | case1 n hn =>
    rw [Nat.toDigits_of_lt_base hn]
    exact List.forall_mem_singleton.2 (hdigit n hn)
  | case2 n hn ih =>
    rw [Nat.toDigits_of_base_le (by decide) (Nat.not_lt.1 hn)]
    refine List.forall_mem_append.2 ⟨ih, List.forall_mem_singleton.2 ?_⟩
    exact hdigit _ (Nat.mod_lt n (by decide))

theorem forall_mem_decimal {p : Char → Prop} (hminus : p '-') (hdigit : ∀ d < 10, p d.digitChar)
    (i : Int) : ∀ c ∈ decimal i, p c := by
  cases i with
  | ofNat n => exact forall_mem_toDigits hdigit n
  | negSucc n => exact List.forall_mem_cons.2 ⟨hminus, forall_mem_toDigits hdigit (n + 1)⟩

theorem ofChars_decimal (i : Int) : Utf8.ofChars (decimal i) = ofInt i := by
  have hdigit : ∀ d < 10, Utf8.ofChars [d.digitChar] = [digit d] := by decide
  have hdigits (n : Nat) : Utf8.ofChars (Nat.toDigits 10 n) = ofNat n := by
    induction n using ofNat.induct with
    | case1 n hn => rw [Nat.toDigits_of_lt_base hn, ofNat, if_pos hn, hdigit n hn]
    | case2 n hn ih =>
      rw [Nat.toDigits_of_base_le (by decide) (Nat.not_lt.1 hn), Utf8.ofChars, List.flatMap_append,
        ofNat, if_neg hn]
      exact congrArg₂ _ ih (hdigit _ (Nat.mod_lt n (by decide)))
  cases i with
  | ofNat n => exact hdigits n
  | negSucc n => exact congrArg (45 :: ·) (hdigits (n + 1))

/-! ## Other spellings -/

/-- The number that decimal digits stand for, the first one being the highest. -/
def valueOf (digits : Bytes) : Nat := Nat.ofDigits 10 (digits.reverse.map fun b => b.toNat - 48)

/-- One or more digits, with a plus sign in front or without.  Zeros may lead. -/
inductive IsNumeral : Bytes → Nat → Prop
  | unsigned {digits : Bytes} (hne : digits ≠ []) (hd : ∀ b ∈ digits, 48 ≤ b ∧ b ≤ 57) :
      IsNumeral digits (valueOf digits)
  | signed {digits : Bytes} (hne : digits ≠ []) (hd : ∀ b ∈ digits, 48 ≤ b ∧ b ≤ 57) :
      IsNumeral (43 :: digits) (valueOf digits)

/-- The first digit counts as often as the digits behind it have numbers. -/
theorem valueOf_cons (b : UInt8) (s : Bytes) :
    valueOf (b :: s) = (b.toNat - 48) * 10 ^ s.length + valueOf s := by
  simp only [valueOf, List.reverse_cons, List.map_append, List.map_cons, List.map_nil,
    Nat.ofDigits_append, Nat.ofDigits_singleton, List.length_map, List.length_reverse]
  rw [Nat.add_comm, Nat.mul_comm]

theorem digits?_eq_some_iff {m : Nat} {s : Bytes} :
    digits? m s = some n ↔ (∀ b ∈ s, 48 ≤ b ∧ b ≤ 57) ∧ m * 10 ^ s.length + valueOf s = n := by
  induction s generalizing m with
  | nil => simp [digits?, valueOf]
  | cons b s ih =>
    by_cases hb : 48 ≤ b ∧ b ≤ 57
    · have hvalue : (m * 10 + (b.toNat - 48)) * 10 ^ s.length + valueOf s =
          m * 10 ^ (b :: s).length + valueOf (b :: s) := by
        rw [valueOf_cons, List.length_cons, Nat.pow_succ', Nat.add_mul, Nat.mul_assoc, Nat.add_assoc]
      simp only [digits?, digit?, if_pos hb]
      rw [ih, hvalue, List.forall_mem_cons]
      exact and_congr_left fun _ => (and_iff_right hb).symm
    · simp only [digits?, digit?, if_neg hb]
      refine ⟨fun h => (by cases h), fun h => absurd (h.1 b List.mem_cons_self) hb⟩

theorem magnitude?_eq_some_iff {s : Bytes} :
    magnitude? s = some n ↔ s ≠ [] ∧ (∀ b ∈ s, 48 ≤ b ∧ b ≤ 57) ∧ valueOf s = n := by
  cases s with
  | nil => simp [magnitude?]
  | cons b s => simp [magnitude?, digits?_eq_some_iff]

theorem natural?_signed (bound : Nat) (s : Bytes) :
    natural? bound (43 :: s) = (magnitude? s).filter (· < bound) := by
  rw [natural?]
  cases magnitude? s with
  | none => rfl
  | some n => simp [Option.filter]

theorem natural?_unsigned (bound : Nat) {s : Bytes} (hs : ∀ t, s ≠ 43 :: t) :
    natural? bound s = (magnitude? s).filter (· < bound) := by
  unfold natural?
  split
  · exact absurd rfl (hs _)
  · dsimp only
    cases magnitude? s with
    | none => rfl
    | some n => simp [Option.filter]

/-- A number that is read is one whose numeral is there, and no numeral is refused that is in range. -/
theorem natural?_eq_some_iff {s : Bytes} :
    natural? bound s = some n ↔ IsNumeral s n ∧ n < bound := by
  have hbelow (digits : Bytes) : (magnitude? digits).filter (· < bound) = some n ↔
      (digits ≠ [] ∧ (∀ b ∈ digits, 48 ≤ b ∧ b ≤ 57) ∧ valueOf digits = n) ∧ n < bound := by
    rw [Option.filter_eq_some_iff, magnitude?_eq_some_iff, decide_eq_true_eq]
  by_cases hsign : ∃ t, s = 43 :: t
  · obtain ⟨t, rfl⟩ := hsign
    rw [natural?_signed, hbelow]
    refine and_congr_left fun _ => ⟨?_, fun h => ?_⟩
    · rintro ⟨hne, hd, rfl⟩
      exact .signed hne hd
    · cases h with
      | unsigned hne hd => exact absurd (hd 43 List.mem_cons_self) (by decide)
      | signed hne hd => exact ⟨hne, hd, rfl⟩
  · rw [natural?_unsigned bound fun t ht => hsign ⟨t, ht⟩, hbelow]
    refine and_congr_left fun _ => ⟨?_, fun h => ?_⟩
    · rintro ⟨hne, hd, rfl⟩
      exact .unsigned hne hd
    · cases h with
      | unsigned hne hd => exact ⟨hne, hd, rfl⟩
      | signed hne hd => exact absurd ⟨_, rfl⟩ hsign

end PushRelay.Numeral
