import PushRelay.Net.Url
import PushRelay.Proofs.Net.Percent

/-!
# Segments put behind a path

A segment put behind a path need not become a segment of it.  `Url.placing` says what becomes of it: it
is left out, it takes the place of the segment before it, or it stands behind that one as a text.

    appendSegment set (path ++ [last]) s = (placing s).apply set (path ++ [last])
                                                                                (appendSegment_placing)
    p.write set last = q.write set last → p = q                              (Placing.write_injective)
-/

namespace PushRelay.Url

/-- What becomes of a segment that is put behind a path. -/
inductive Placing where
  | omitted
  /-- An empty segment takes the place of the last one. -/
  | above
  /-- A segment with this text follows the last one. -/
  | below (text : List Char)
  deriving DecidableEq, Repr

/-- The characters that count. -/
def unbroken (s : List Char) : List Char := s.filter fun c => c != '\t' && c != '\n' && c != '\r'

/-- Only the segments `.` and `..` are left out.  One that comes to a dot when tabs and line breaks have
vanished is empty, and one that comes to two dots leads up. -/
def placing (s : List Char) : Placing :=
  if s = ['.'] ∨ s = ['.', '.'] then .omitted
  else if unbroken s = ['.', '.'] then .above
  else if unbroken s = ['.'] then .below []
  else .below (unbroken s)

def Placing.apply (set : List Char) (path : List (List Char)) : Placing → List (List Char)
  | omitted => path
  | above => path.dropLast ++ [[]]
  | below text => path ++ [Percent.encode set text]

/-- How segments are written. -/
def writeSegments (path : List (List Char)) : List Char := path.flatMap ('/' :: ·)

@[simp] theorem writeSegments_append (p q : List (List Char)) :
    writeSegments (p ++ q) = writeSegments p ++ writeSegments q := List.flatMap_append

@[simp] theorem writeSegments_nil : writeSegments [] = [] := rfl

@[simp] theorem writeSegments_cons (s : List Char) (path : List (List Char)) :
    writeSegments (s :: path) = '/' :: s ++ writeSegments path := rfl

/-- A set of characters that encodes every percent sign and no dot. -/
structure EscapesPercent (set : List Char) : Prop where
  percent : '%' ∈ set
  dot : '.' ∉ set

variable {set : List Char} {path : List (List Char)} {s last : List Char}

/-! ## Dots -/

theorem encode_dot (he : EscapesPercent set) : Percent.encodeChar set '.' = ['.'] := by
  unfold Percent.encodeChar
  rw [if_neg]
  simp [Percent.isControl, he.dot]

theorem isSingleDot_encode (he : EscapesPercent set) (s : List Char) :
    isSingleDot (Percent.encode set s) = true ↔ s = ['.'] := by
  -- every way to write a dot decodes to one
  have hnames : ∀ name ∈ [".", "%2e", "%2E"], Percent.decode name.toList = Utf8.ofChars ['.'] := by
    decide
  constructor
  · intro h
    have hdecode := hnames _ (List.contains_iff_mem.1 h)
    rw [String.toList_ofList] at hdecode
    exact Percent.eq_of_decode_encode he.percent hdecode
  · rintro rfl
    simp [Percent.encode, encode_dot he, isSingleDot]

theorem isDoubleDot_encode (he : EscapesPercent set) (s : List Char) :
    isDoubleDot (Percent.encode set s) = true ↔ s = ['.', '.'] := by
  have hnames : ∀ name ∈ doubleDots, Percent.decode name.toList = Utf8.ofChars ['.', '.'] := by decide
  constructor
  · intro h
    have hdecode := hnames _ (List.contains_iff_mem.1 h)
    rw [String.toList_ofList] at hdecode
    exact Percent.eq_of_decode_encode he.percent hdecode
  · rintro rfl
    simp [Percent.encode, encode_dot he, isDoubleDot, doubleDots]

/-! ## One segment -/

theorem append_singleton_ne_root (hlast : last ≠ []) : path ++ [last] ≠ [[]] := by
  intro h
  have hends := congrArg List.getLast? h
  rw [List.getLast?_concat] at hends
  exact hlast (Option.some.inj hends)

/-- What appending a segment comes to, behind a segment that is no drive. -/
theorem appendSegment_placing (he : EscapesPercent set) (hlast : last ≠ [])
    (hdrive : isDrive last = false) (path : List (List Char)) (s : List Char) :
    appendSegment set (path ++ [last]) s = (placing s).apply set (path ++ [last]) := by
  have hsingle := isSingleDot_encode he (unbroken s)
  have hdouble := isDoubleDot_encode he (unbroken s)
  by_cases homit : s = ['.'] ∨ s = ['.', '.']
  · rw [appendSegment, placing, if_pos homit, if_pos homit]
    rfl
  · have hpush : appendSegment set (path ++ [last]) s =
        pushSegment (path ++ [last]) (Percent.encode set (unbroken s)) true := by
      simp only [appendSegment, if_neg homit, if_neg (append_singleton_ne_root hlast), unbroken]
    have hnoDrive : (path ++ [last]).getLast?.any isDrive = false := by
      rw [List.getLast?_concat]
      exact hdrive
    rw [hpush, pushSegment, hnoDrive, placing, if_neg homit]
    by_cases hd : unbroken s = ['.', '.']
    · rw [if_pos (hdouble.2 hd), if_pos hd]
      rfl
    · rw [if_neg (mt hdouble.1 hd), if_neg hd]
      by_cases hs : unbroken s = ['.']
      · rw [if_pos (hsingle.2 hs), if_pos hs]
        rfl
      · rw [if_neg (mt hsingle.1 hs), if_neg hs]
        rfl

/-- A text that is a segment as it stands. -/
structure IsPlain (s : List Char) : Prop where
  notDots : s ≠ ['.'] ∧ s ≠ ['.', '.']
  unbroken : ∀ c ∈ s, c ≠ '\t' ∧ c ≠ '\n' ∧ c ≠ '\r'

theorem IsPlain.unbroken_eq (h : IsPlain s) : Url.unbroken s = s := by
  refine List.filter_eq_self.2 fun c hc => ?_
  obtain ⟨htab, hline, hreturn⟩ := h.unbroken c hc
  simp [htab, hline, hreturn]

theorem IsPlain.placing (h : IsPlain s) : placing s = .below s := by
  obtain ⟨hone, htwo⟩ := h.notDots
  simp [Url.placing, h.unbroken_eq, hone, htwo]

/-- A plain segment goes behind any path; the root is no segment. -/
theorem appendSegment_plain (he : EscapesPercent set) (h : IsPlain s) (path : List (List Char)) :
    appendSegment set path s = (if path = [[]] then [] else path) ++ [Percent.encode set s] := by
  obtain ⟨hone, htwo⟩ := h.notDots
  have hfilter : s.filter (fun c => c != '\t' && c != '\n' && c != '\r') = s := h.unbroken_eq
  rw [appendSegment, if_neg (by simp [hone, htwo]), hfilter, pushSegment,
    if_neg (mt (isDoubleDot_encode he s).1 htwo), if_neg (mt (isSingleDot_encode he s).1 hone)]

theorem placing_eq_omitted_iff : placing s = .omitted ↔ s = ['.'] ∨ s = ['.', '.'] := by
  unfold placing
  split
  · next h => simp [h]
  · next h =>
    split
    · simp [h]
    · split <;> simp [h]

/-- What is written behind a path from its last segment on. -/
def Placing.write (set last : List Char) : Placing → List Char
  | omitted => '/' :: last
  | above => ['/']
  | below text => '/' :: last ++ '/' :: Percent.encode set text

theorem writeSegments_apply (set : List Char) (path : List (List Char)) (last : List Char)
    (p : Placing) :
    writeSegments (p.apply set (path ++ [last])) = writeSegments path ++ p.write set last := by
  cases p <;> simp [Placing.apply, Placing.write]

/-- Segments that become different things are written differently. -/
theorem Placing.write_injective (he : EscapesPercent set) (hlast : last ≠ []) {p q : Placing}
    (h : p.write set last = q.write set last) : p = q := by
  have hpos := List.length_pos_iff.2 hlast
  have hlength := congrArg List.length h
  cases p <;> cases q
  case omitted.omitted => rfl
  case above.above => rfl
  case below.below t u =>
    have htexts : Percent.encode set t = Percent.encode set u := by simpa [write] using h
    rw [Percent.encode_injective he.percent htexts]
  -- an omitted segment leaves a text longer than one that leads up, and any other lengthens it
  all_goals
    simp only [write, List.length_append, List.length_cons, List.length_nil] at hlength
    omega

/-! ## Whole URLs -/

/-- The characters that are encoded in a segment that is put behind the path. -/
def segmentSet (u : Url) : List Char :=
  if isSpecial u.scheme then Percent.specialSegmentSet else Percent.segmentSet

theorem escapesPercent_segmentSet (u : Url) : EscapesPercent u.segmentSet := by
  unfold segmentSet
  split <;> constructor <;> decide

/-- URLs that differ in their paths at most are written alike exactly if their paths are. -/
theorem print_eq_iff (u : Url) (p q : List (List Char)) :
    { u with path := .segments p }.print = { u with path := .segments q }.print ↔
      writeSegments p = writeSegments q := by
  unfold print target
  rw [String.ofList_inj]
  simp [writeSegments]

end PushRelay.Url
