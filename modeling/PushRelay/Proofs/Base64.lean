import PushRelay.Base64

/-!
# Base 64 read back

Decoding takes back what encoding did.  What is written are digits and fillers, four octets for each three
that were begun.

    decode? (encode s) = some s                                                  (decode?_encode)
    (encode s).length = 4 * ((s.length + 2) / 3)                                  (length_encode)
-/

namespace PushRelay.Base64

variable {b : UInt8} {s : Bytes} {p q r t : Nat}

/-! ## Digits -/

theorem digit?_digit : ∀ n < 64, digit? (digit n) = some n := by decide

theorem digit_ne_fill : ∀ n < 64, digit n ≠ fill := by decide

/-- Whether an octet is a digit or fills up the last group. -/
def isCode (b : UInt8) : Bool := (digit? b).isSome || b == fill

theorem isCode_digit {n : Nat} (h : n < 64) : isCode (digit n) = true := by
  rw [isCode, digit?_digit n h]
  rfl

/-! ## Groups -/

/-- Four digits at the front make three octets. -/
theorem decode?_digits (hp : p < 64) (hq : q < 64) (hr : r < 64) (ht : t < 64) (s : Bytes) :
    decode? (digit p :: digit q :: digit r :: digit t :: s) = (decode? s).map fun rest =>
      UInt8.ofNat ((((p * 64 + q) * 64 + r) * 64 + t) / 65536) ::
      UInt8.ofNat ((((p * 64 + q) * 64 + r) * 64 + t) / 256 % 256) ::
      UInt8.ofNat ((((p * 64 + q) * 64 + r) * 64 + t) % 256) :: rest := by
  cases s with
  | nil =>
    simp only [decode?, last?, digit?_digit p hp, digit?_digit q hq, digit?_digit r hr,
      digit?_digit t ht, ne_eq, digit_ne_fill t ht, not_false_eq_true, if_true, Option.map_some]
  | cons e s =>
    simp only [decode?, digit?_digit p hp, digit?_digit q hq, digit?_digit r hr,
      digit?_digit t ht]

/-- Decoding takes back what encoding did. -/
theorem decode?_encode (s : Bytes) : decode? (encode s) = some s := by
  induction s using encode.induct with
  | case1 a b c s ih =>
    have ha : a.toNat < 256 := a.toNat_lt
    have hb : b.toNat < 256 := b.toNat_lt
    have hc : c.toNat < 256 := c.toNat_lt
    simp only [encode]
    generalize hn : (a.toNat * 256 + b.toNat) * 256 + c.toNat = n
    have hdigits : ((n / 262144 * 64 + n / 4096 % 64) * 64 + n / 64 % 64) * 64 + n % 64 = n := by
      omega
    have hfirst : n / 65536 = a.toNat := by omega
    have hsecond : n / 256 % 256 = b.toNat := by omega
    have hthird : n % 256 = c.toNat := by omega
    rw [decode?_digits (by omega) (by omega) (by omega) (by omega), ih, Option.map_some,
      hdigits, hfirst, hsecond, hthird]
    simp only [UInt8.ofNat_toNat]
  | case2 a b =>
    have ha : a.toNat < 256 := a.toNat_lt
    have hb : b.toNat < 256 := b.toNat_lt
    simp only [encode]
    generalize hn : (a.toNat * 256 + b.toNat) * 4 = n
    have hdigits : (n / 4096 * 64 + n / 64 % 64) * 64 + n % 64 = n := by omega
    have hzero : n % 4 = 0 := by omega
    have hfirst : n / 1024 = a.toNat := by omega
    have hsecond : n / 4 % 256 = b.toNat := by omega
    simp only [decode?, last?, ne_eq, not_true_eq_false, if_false,
      digit_ne_fill (n % 64) (by omega), not_false_eq_true, if_true,
      digit?_digit (n / 4096) (by omega), digit?_digit (n / 64 % 64) (by omega),
      digit?_digit (n % 64) (by omega), hdigits, hzero, hfirst, hsecond, UInt8.ofNat_toNat]
  | case3 a =>
    have ha : a.toNat < 256 := a.toNat_lt
    simp only [encode]
    generalize hn : a.toNat * 16 = n
    have hdigits : n / 64 * 64 + n % 64 = n := by omega
    have hzero : n % 16 = 0 := by omega
    have hfirst : n / 16 = a.toNat := by omega
    simp only [decode?, last?, ne_eq, not_true_eq_false, if_false,
      digit?_digit (n / 64) (by omega), digit?_digit (n % 64) (by omega), hdigits, hzero, if_true,
      hfirst, UInt8.ofNat_toNat]
  | case4 => rfl

/-! ## What is written -/

/-- Every octet that is written is a digit or a filler. -/
theorem isCode_of_mem_encode (h : b ∈ encode s) : isCode b = true := by
  induction s using encode.induct with
  | case1 a₁ a₂ a₃ s ih =>
    have h₁ : a₁.toNat < 256 := a₁.toNat_lt
    have h₂ : a₂.toNat < 256 := a₂.toNat_lt
    have h₃ : a₃.toNat < 256 := a₃.toNat_lt
    simp only [encode] at h
    rcases List.mem_cons.1 h with rfl | h
    · exact isCode_digit (by omega)
    rcases List.mem_cons.1 h with rfl | h
    · exact isCode_digit (by omega)
    rcases List.mem_cons.1 h with rfl | h
    · exact isCode_digit (by omega)
    rcases List.mem_cons.1 h with rfl | h
    · exact isCode_digit (by omega)
    · exact ih h
  | case2 a₁ a₂ =>
    have h₁ : a₁.toNat < 256 := a₁.toNat_lt
    have h₂ : a₂.toNat < 256 := a₂.toNat_lt
    simp only [encode, List.mem_cons, List.not_mem_nil, or_false] at h
    rcases h with rfl | rfl | rfl | rfl
    · exact isCode_digit (by omega)
    · exact isCode_digit (by omega)
    · exact isCode_digit (by omega)
    · rfl
  | case3 a₁ =>
    have h₁ : a₁.toNat < 256 := a₁.toNat_lt
    simp only [encode, List.mem_cons, List.not_mem_nil, or_false] at h
    rcases h with rfl | rfl | rfl | rfl
    · exact isCode_digit (by omega)
    · exact isCode_digit (by omega)
    · rfl
    · rfl
  | case4 => cases h

theorem length_encode (s : Bytes) : (encode s).length = 4 * ((s.length + 2) / 3) := by
  induction s using encode.induct with
  | case1 a b c s ih =>
    simp only [encode, List.length_cons, ih]
    omega
  | case2 a b => simp [encode]
  | case3 a => simp [encode]
  | case4 => rfl

end PushRelay.Base64
