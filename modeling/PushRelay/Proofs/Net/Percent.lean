import PushRelay.Net.Percent
import PushRelay.Proofs.Text.Utf8

/-!
# Reading percent encoding back

Where the percent sign itself is encoded, decoding takes back what encoding did, so no two texts are
encoded alike.

    '%' ∈ set → decode (encode set s) = Utf8.ofChars s                             (decode_encode)
    '%' ∈ set → encode set s = encode set t → s = t                              (encode_injective)
-/

namespace PushRelay.Percent

variable {set s t : List Char}

theorem hexDigit?_hexDigit : ∀ n < 16, hexDigit? (hexDigit n) = some n := by decide

theorem decode_encodeOctet (b : UInt8) (s : List Char) :
    decode (encodeOctet b ++ s) = b :: decode s := by
  have hb : b.toNat < 256 := b.toNat_lt
  show decode ('%' :: hexDigit (b.toNat / 16) :: hexDigit (b.toNat % 16) :: s) = _
  rw [decode, hexDigit?_hexDigit _ (by omega), hexDigit?_hexDigit _ (by omega)]
  have hparts : b.toNat / 16 * 16 + b.toNat % 16 = b.toNat := by omega
  simp only [hparts, UInt8.ofNat_toNat]

theorem decode_encodeOctets (bs : Bytes) (s : List Char) :
    decode (bs.flatMap encodeOctet ++ s) = bs ++ decode s := by
  induction bs with
  | nil => rfl
  | cons b bs ih =>
    rw [List.flatMap_cons, List.append_assoc, decode_encodeOctet, ih]
    rfl

/-- A character that is no percent sign stands for itself. -/
theorem decode_cons {c : Char} (hc : c ≠ '%') (s : List Char) :
    decode (c :: s) = String.utf8EncodeChar c ++ decode s := by
  rw [decode]
  exact fun _ _ _ h _ => hc h

theorem decode_encodeChar (hset : '%' ∈ set) (c : Char) (s : List Char) :
    decode (encodeChar set c ++ s) = String.utf8EncodeChar c ++ decode s := by
  unfold encodeChar
  split
  · exact decode_encodeOctets _ s
  · next hc =>
    refine decode_cons ?_ s
    rintro rfl
    exact hc (by rw [List.contains_iff_mem.2 hset, Bool.or_true])

/-- Decoding takes back what encoding did. -/
theorem decode_encode (hset : '%' ∈ set) (s : List Char) :
    decode (encode set s) = Utf8.ofChars s := by
  induction s with
  | nil => rfl
  | cons c s ih =>
    show decode (encodeChar set c ++ encode set s) = _
    rw [decode_encodeChar hset, ih]
    rfl

theorem encode_injective (hset : '%' ∈ set) (h : encode set s = encode set t) : s = t := by
  refine Utf8.ofChars_injective ?_
  rw [← decode_encode hset s, h, decode_encode hset]

/-- A text whose encoding decodes to the octets of `t` is `t`. -/
theorem eq_of_decode_encode (hset : '%' ∈ set) (h : decode (encode set s) = Utf8.ofChars t) : s = t :=
  Utf8.ofChars_injective ((decode_encode hset s).symm.trans h)

end PushRelay.Percent
