import PushRelay.Text.Utf8

/-!
# UTF-8 read back

What a text is written with is well-formed and stands for that text.

    decode? (ofChars cs) = some cs                                              (decode?_ofChars)
    toString? (ofString s) = some s                                            (toString?_ofString)

A character has one octet, two, three or four; each of the four sizes is read back by a lemma of its own.
-/

namespace PushRelay.Utf8

variable {more bits n : Nat} {lo hi : UInt8} {s : Bytes}

/-! ## Octets -/

theorem toNat_octet (h : n < 256) : (UInt8.ofNat n).toNat = n := UInt8.toNat_ofNat_of_lt' h

/-- An octet within the range that is expected adds six bits. -/
theorem tail_cons (hlo : lo.toNat ≤ n % 64 + 128) (hhi : n % 64 + 128 ≤ hi.toNat) :
    tail (more + 1) lo hi bits (UInt8.ofNat (n % 64 + 128) :: s) =
      tail more 0x80 0xBF (bits * 64 + n % 64) s := by
  have hoctet : (UInt8.ofNat (n % 64 + 128)).toNat = n % 64 + 128 := toNat_octet (by omega)
  have hwithin : (lo ≤ UInt8.ofNat (n % 64 + 128) && UInt8.ofNat (n % 64 + 128) ≤ hi) = true := by
    simp only [Bool.and_eq_true, decide_eq_true_eq, UInt8.le_iff_toNat_le, hoctet]
    exact ⟨hlo, hhi⟩
  rw [tail, if_pos hwithin, hoctet, Nat.add_sub_cancel]

/-- An octet behind the second may be any of the middle range. -/
theorem tail_cons_any :
    tail (more + 1) 0x80 0xBF bits (UInt8.ofNat (n % 64 + 128) :: s) =
      tail more 0x80 0xBF (bits * 64 + n % 64) s := by
  have hlt : n % 64 < 64 := Nat.mod_lt n (by decide)
  have hlo : (0x80 : UInt8).toNat = 128 := rfl
  have hhi : (0xBF : UInt8).toNat = 191 := rfl
  exact tail_cons (by omega) (by omega)

/-- What a first octet announces, by its number. -/
theorem lead?_octet (h : n < 256) : lead? (UInt8.ofNat n) =
    if n < 0x80 then some ⟨0, 0, 0, n⟩
    else if n < 0xC2 then none
    else if n < 0xE0 then some ⟨1, 0x80, 0xBF, n - 0xC0⟩
    else if n = 0xE0 then some ⟨2, 0xA0, 0xBF, 0⟩
    else if n = 0xED then some ⟨2, 0x80, 0x9F, 0xD⟩
    else if n < 0xF0 then some ⟨2, 0x80, 0xBF, n - 0xE0⟩
    else if n = 0xF0 then some ⟨3, 0x90, 0xBF, 0⟩
    else if n < 0xF4 then some ⟨3, 0x80, 0xBF, n - 0xF0⟩
    else if n = 0xF4 then some ⟨3, 0x80, 0x8F, 4⟩
    else none := by
  simp only [lead?, UInt8.lt_iff_toNat_lt, beq_iff_eq, ← UInt8.toNat_inj, toNat_octet h,
    UInt8.reduceToNat]

/-! ## Characters -/

theorem next_of_tail {b : UInt8} {l : Lead} {rest : Bytes} (hlead : lead? b = some l)
    (htail : tail l.more l.lo l.hi l.bits s = (some n, rest)) :
    next b s = (some (Char.ofNat n), rest) := by
  simp only [next, hlead, htail, Option.map_some]

theorem next_one (h : n < 0x80) : next (UInt8.ofNat n) s = (some (Char.ofNat n), s) := by
  have hlead : lead? (UInt8.ofNat n) = some ⟨0, 0, 0, n⟩ := by
    rw [lead?_octet (by omega), if_pos h]
  exact next_of_tail hlead (tail.eq_1 ..)

theorem next_two (hlo : 0x80 ≤ n) (hhi : n < 0x800) :
    next (UInt8.ofNat (n / 64 + 192)) (UInt8.ofNat (n % 64 + 128) :: s) =
      (some (Char.ofNat n), s) := by
  have hlead : lead? (UInt8.ofNat (n / 64 + 192)) = some ⟨1, 0x80, 0xBF, n / 64⟩ := by
    rw [lead?_octet (by omega), if_neg (by omega), if_neg (by omega), if_pos (by omega),
      Nat.add_sub_cancel]
  have hcode : n / 64 * 64 + n % 64 = n := Nat.div_add_mod' n 64
  refine next_of_tail hlead ?_
  rw [tail_cons_any, hcode, tail]

/-- The first of three octets keeps out what two could do, and the surrogates. -/
theorem lead?_three (hlo : 0x800 ≤ n) (hhi : n < 0x10000) (hs : n < 0xD800 ∨ 0xDFFF < n) :
    ∃ lo hi : UInt8, lead? (UInt8.ofNat (n / 4096 + 224)) = some ⟨2, lo, hi, n / 4096⟩ ∧
      lo.toNat ≤ n / 64 % 64 + 128 ∧ n / 64 % 64 + 128 ≤ hi.toNat := by
  rw [lead?_octet (by omega), if_neg (by omega), if_neg (by omega), if_neg (by omega)]
  by_cases hfirst : n / 4096 = 0
  · refine ⟨0xA0, 0xBF, ?_, ?_, ?_⟩
    · rw [if_pos (by omega), hfirst]
    · show 160 ≤ _
      omega
    · show _ ≤ 191
      omega
  by_cases hsurrogate : n / 4096 = 13
  · refine ⟨0x80, 0x9F, ?_, ?_, ?_⟩
    · rw [if_neg (by omega), if_pos (by omega), hsurrogate]
    · show 128 ≤ _
      omega
    · show _ ≤ 159
      omega
  · refine ⟨0x80, 0xBF, ?_, ?_, ?_⟩
    · rw [if_neg (by omega), if_neg (by omega), if_pos (by omega), Nat.add_sub_cancel]
    · show 128 ≤ _
      omega
    · show _ ≤ 191
      omega

theorem next_three (hlo : 0x800 ≤ n) (hhi : n < 0x10000) (hs : n < 0xD800 ∨ 0xDFFF < n) :
    next (UInt8.ofNat (n / 4096 + 224))
      (UInt8.ofNat (n / 64 % 64 + 128) :: UInt8.ofNat (n % 64 + 128) :: s) =
      (some (Char.ofNat n), s) := by
  obtain ⟨lo, hi, hlead, hsecond, hsecond'⟩ := lead?_three hlo hhi hs
  have hcode : (n / 4096 * 64 + n / 64 % 64) * 64 + n % 64 = n := by omega
  refine next_of_tail hlead ?_
  rw [tail_cons hsecond hsecond', tail_cons_any, hcode, tail]

/-- The first of four octets keeps out what three could do, and all above the last character. -/
theorem lead?_four (hlo : 0x10000 ≤ n) (hhi : n < 0x110000) :
    ∃ lo hi : UInt8, lead? (UInt8.ofNat (n / 262144 + 240)) = some ⟨3, lo, hi, n / 262144⟩ ∧
      lo.toNat ≤ n / 4096 % 64 + 128 ∧ n / 4096 % 64 + 128 ≤ hi.toNat := by
  rw [lead?_octet (by omega), if_neg (by omega), if_neg (by omega), if_neg (by omega),
    if_neg (by omega), if_neg (by omega), if_neg (by omega)]
  by_cases hfirst : n / 262144 = 0
  · refine ⟨0x90, 0xBF, ?_, ?_, ?_⟩
    · rw [if_pos (by omega), hfirst]
    · show 144 ≤ _
      omega
    · show _ ≤ 191
      omega
  by_cases hlast : n / 262144 = 4
  · refine ⟨0x80, 0x8F, ?_, ?_, ?_⟩
    · rw [if_neg (by omega), if_neg (by omega), if_pos (by omega), hlast]
    · show 128 ≤ _
      omega
    · show _ ≤ 143
      omega
  · refine ⟨0x80, 0xBF, ?_, ?_, ?_⟩
    · rw [if_neg (by omega), if_pos (by omega), Nat.add_sub_cancel]
    · show 128 ≤ _
      omega
    · show _ ≤ 191
      omega

theorem next_four (hlo : 0x10000 ≤ n) (hhi : n < 0x110000) :
    next (UInt8.ofNat (n / 262144 + 240)) (UInt8.ofNat (n / 4096 % 64 + 128) ::
      UInt8.ofNat (n / 64 % 64 + 128) :: UInt8.ofNat (n % 64 + 128) :: s) =
      (some (Char.ofNat n), s) := by
  obtain ⟨lo, hi, hlead, hsecond, hsecond'⟩ := lead?_four hlo hhi
  have hcode : ((n / 262144 * 64 + n / 4096 % 64) * 64 + n / 64 % 64) * 64 + n % 64 = n := by omega
  refine next_of_tail hlead ?_
  rw [tail_cons hsecond hsecond', tail_cons_any, tail_cons_any, hcode, tail]

/-- The octets of a character are taken for that character, whatever follows them. -/
theorem chars_encode (c : Char) (s : Bytes) :
    chars (String.utf8EncodeChar c ++ s) = some c :: chars s := by
  have hvalid : c.toNat < 0xD800 ∨ 0xDFFF < c.toNat ∧ c.toNat < 0x110000 := c.valid
  have hchar : Char.ofNat c.toNat = c := Char.ofNat_toNat c
  rw [String.utf8EncodeChar.eq_1, show c.val.toNat = c.toNat from rfl]
  generalize c.toNat = n at hvalid hchar
  by_cases hone : n ≤ 127
  · rw [if_pos hone, List.singleton_append, chars, next_one (by omega), hchar]
  by_cases htwo : n ≤ 2047
  · rw [if_neg hone, if_pos htwo, Nat.mod_eq_of_lt (show n / 64 < 32 by omega)]
    simp only [List.cons_append, List.nil_append]
    rw [chars, next_two (by omega) (by omega), hchar]
  by_cases hthree : n ≤ 65535
  · rw [if_neg hone, if_neg htwo, if_pos hthree, Nat.mod_eq_of_lt (show n / 4096 < 16 by omega)]
    simp only [List.cons_append, List.nil_append]
    rw [chars, next_three (by omega) (by omega) (by omega), hchar]
  · rw [if_neg hone, if_neg htwo, if_neg hthree, Nat.mod_eq_of_lt (show n / 262144 < 8 by omega)]
    simp only [List.cons_append, List.nil_append]
    rw [chars, next_four (by omega) (by omega), hchar]

/-! ## Texts -/

theorem decode?_of_chars {cs : List Char} (h : chars s = cs.map some) : decode? s = some cs := by
  have hall : cs.mapM (fun c => pure (id c)) = (pure (cs.map id) : Option (List Char)) :=
    List.mapM_pure
  rw [List.map_id] at hall
  rw [decode?, h, List.mapM_map]
  exact hall

theorem chars_ofChars (cs : List Char) : chars (ofChars cs) = cs.map some := by
  induction cs with
  | nil => exact chars.eq_1
  | cons c cs ih =>
    show chars (String.utf8EncodeChar c ++ ofChars cs) = _
    rw [chars_encode, ih, List.map_cons]

/-- Decoding takes back what encoding did. -/
theorem decode?_ofChars (cs : List Char) : decode? (ofChars cs) = some cs :=
  decode?_of_chars (chars_ofChars cs)

/-- No two texts have the same octets. -/
theorem ofChars_injective {cs cs' : List Char} (h : ofChars cs = ofChars cs') : cs = cs' := by
  have hread := decode?_ofChars cs
  rw [h, decode?_ofChars cs'] at hread
  exact (Option.some.inj hread).symm

theorem toString?_ofString (s : String) : toString? (ofString s) = some s := by
  rw [toString?, ofString, decode?_ofChars, Option.map_some, String.ofList_toList]

/-- Octets below 128 are characters of their own. -/
theorem decode?_ascii (h : ∀ b ∈ s, b.toNat < 128) :
    decode? s = some (s.map fun b => Char.ofNat b.toNat) := by
  have hchars : chars s = (s.map fun b => Char.ofNat b.toNat).map some := by
    induction s with
    | nil => exact chars.eq_1
    | cons b s ih =>
      have hb := next_one (s := s) (h b List.mem_cons_self)
      rw [UInt8.ofNat_toNat] at hb
      rw [chars, hb, ih fun b' hb' => h b' (List.mem_cons_of_mem b hb')]
      rfl
  exact decode?_of_chars hchars

end PushRelay.Utf8
