import PushRelay.Proofs.Numeral
import PushRelay.Proofs.Wire.Lines

/-!
# Requests read back

`decodeRequest` cuts off the request that `Request.encode` has written, whatever follows it.  The length
lines of a written request are short, so that a stream of requests may come in any chunks.

    requests fit → chunks.flatten = requests.flatMap Request.encode →
      feed (decodeRequest limit) chunks = ⟨requests, none, []⟩                           (feed_encode)
-/

namespace PushRelay.Wire

variable {lead : UInt8} {s rest payload : Bytes} {limit n : Nat} {args : List Bytes} {r : Request}
  {requests : List Request} {chunks : List Bytes}

/-! ## Length lines -/

theorem splitLine_append (h : 13 ∉ s) : splitLine (s ++ 13 :: 10 :: rest) = some (s, rest) := by
  induction s with
  | nil => rfl
  | cons b s ih =>
    rw [List.mem_cons, not_or] at h
    rw [List.cons_append, splitLine_cons fun _ hb _ => h.1 hb.symm, ih h.2]
    rfl

theorem splitLine_ofNat (n : Nat) (rest : Bytes) :
    splitLine (Numeral.ofNat n ++ 13 :: 10 :: rest) = some (Numeral.ofNat n, rest) :=
  splitLine_append fun h => absurd (Numeral.range_of_mem_ofNat h).1 (by decide)

theorem lengthLine_append (lead : UInt8) (n : Nat) (rest : Bytes) :
    lengthLine lead n ++ rest = lead :: (Numeral.ofNat n ++ 13 :: 10 :: rest) := by
  rw [lengthLine, List.append_assoc]
  rfl

theorem readLength_lengthLine (hn : n < Numeral.wordBound) :
    readLength lead (lengthLine lead n ++ rest) = .ok (some (n, rest)) := by
  rw [lengthLine_append, readLength_line (splitLine_ofNat n rest), Numeral.natural?_ofNat hn]

theorem lineAt_lengthLine (lead : UInt8) (n : Nat) (rest : Bytes) :
    lineAt lead (lengthLine lead n ++ rest) = [lead :: Numeral.ofNat n] := by
  rw [lengthLine_append, lineAt, if_pos rfl, splitLine_ofNat]
  rfl

theorem dropLine_lengthLine (hlead : lead ≠ 13) :
    dropLine (lengthLine lead n ++ rest) = rest := by
  rw [lengthLine_append, dropLine, splitLine_cons fun _ h _ => hlead h, splitLine_ofNat]
  rfl

/-- The length line of a 64-bit length is short. -/
theorem length_lengthLine_lt (lead : UInt8) (hn : n < Numeral.wordBound) :
    (lead :: Numeral.ofNat n).length < maxLine := by
  have hdigits : (Numeral.ofNat n).length ≤ 20 :=
    Numeral.length_ofNat_le (by decide) (Nat.lt_trans hn (by decide))
  exact Nat.lt_of_le_of_lt (Nat.succ_le_succ hdigits) (by decide)

/-! ## Bulk strings -/

theorem encodeBulk_append (payload rest : Bytes) :
    encodeBulk payload ++ rest = lengthLine bulkLead payload.length ++ (payload ++ crlf ++ rest) := by
  simp only [encodeBulk, List.append_assoc]

theorem passBody_append (h : payload.length ≤ limit) :
    passBody limit payload.length (payload ++ crlf ++ rest) = .ok (some ((), rest)) := by
  rw [passBody, if_neg (Nat.not_lt_of_le h), skipBody_eq_some_iff.2 ⟨payload, rfl, rfl⟩]

theorem measureArgs_encode (hl : limit < Numeral.wordBound) (h : ∀ a ∈ args, a.length ≤ limit) :
    measureArgs limit args.length (args.flatMap encodeBulk ++ rest) =
      .ok (some (args.map List.length, rest)) := by
  induction args with
  | nil => rfl
  | cons a args ih =>
    have ha := h a List.mem_cons_self
    have ih := ih fun b hb => h b (List.mem_cons_of_mem a hb)
    rw [List.length_cons, measureArgs_succ, List.flatMap_cons, List.append_assoc, encodeBulk_append]
    simp only [andThen, readLength_lengthLine (Nat.lt_of_le_of_lt ha hl), passBody_append ha, ih,
      List.map_cons]

theorem argLines_encode (hl : limit < Numeral.wordBound) (h : ∀ a ∈ args, a.length ≤ limit) :
    argLines limit args.length (args.flatMap encodeBulk ++ rest) =
      args.map fun a => bulkLead :: Numeral.ofNat a.length := by
  induction args with
  | nil => rfl
  | cons a args ih =>
    have ha := h a List.mem_cons_self
    have ih := ih fun b hb => h b (List.mem_cons_of_mem a hb)
    rw [List.length_cons, argLines, List.flatMap_cons, List.append_assoc, encodeBulk_append]
    simp only [linesThen, lineAt_lengthLine, readLength_lengthLine (Nat.lt_of_le_of_lt ha hl),
      passBody_append ha, ih, List.map_cons, List.nil_append, List.singleton_append]

theorem cutArgs_encode (args : List Bytes) :
    cutArgs (args.map List.length) (args.flatMap encodeBulk) = args := by
  induction args with
  | nil => rfl
  | cons a args ih =>
    have hdrop : (a ++ crlf ++ args.flatMap encodeBulk).drop (a.length + 2) =
        args.flatMap encodeBulk := List.drop_left' (by simp [crlf])
    rw [List.map_cons, List.flatMap_cons, encodeBulk_append, cutArgs,
      dropLine_lengthLine (by decide), hdrop, ih, List.append_assoc, List.take_left]

/-! ## Requests -/

/-- A request that may be sent where arguments have at most `limit` octets. -/
structure Request.Fits (limit : Nat) (r : Request) : Prop where
  count : minArgs ≤ r.args.length ∧ r.args.length ≤ maxArgs
  short : ∀ a ∈ r.args, a.length ≤ limit

theorem Request.Fits.count_lt (h : r.Fits limit) : r.args.length < Numeral.wordBound :=
  Nat.lt_of_le_of_lt h.count.2 (by decide)

/-- A request is cut off as it was written. -/
theorem decodeRequest_encode (hl : limit < Numeral.wordBound) (h : r.Fits limit) (rest : Bytes) :
    decodeRequest limit (r.encode ++ rest) = .ok (some (r, rest)) := by
  have hmeasure : measureRequest limit (r.encode ++ rest) =
      .ok (some (r.args.map List.length, rest)) := by
    rw [measureRequest_eq, Request.encode, List.append_assoc]
    simp only [andThen, readLength_lengthLine h.count_lt, if_pos h.count,
      measureArgs_encode hl h.short]
  rw [decodeRequest_of_measure hmeasure, Request.encode, dropLine_lengthLine (by decide),
    cutArgs_encode]

/-- The length lines of a written request are short. -/
theorem length_lt_of_mem_requestLines_encode (hl : limit < Numeral.wordBound) (h : r.Fits limit)
    {line : Bytes} (hline : line ∈ requestLines limit (r.encode ++ rest)) :
    line.length < maxLine := by
  rw [requestLines, Request.encode, List.append_assoc] at hline
  simp only [linesThen, lineAt_lengthLine, readLength_lengthLine h.count_lt, if_pos h.count,
    argLines_encode hl h.short, List.singleton_append, List.mem_cons, List.mem_map] at hline
  rcases hline with rfl | ⟨a, ha, rfl⟩
  · exact length_lengthLine_lt requestLead h.count_lt
  · exact length_lengthLine_lt bulkLead (Nat.lt_of_le_of_lt (h.short a ha) hl)

/-! ## Streams of requests -/

/-- A request is written so that it may come in any chunks. -/
theorem writes_encode (hl : limit < Numeral.wordBound) (h : r.Fits limit) :
    Writes (decodeRequest limit) Request.encode r where
  back := decodeRequest_encode hl h
  steady _ := (scans_decodeRequest limit).steady_iff.2 (.inr fun _ hline =>
    length_lt_of_mem_requestLines_encode hl h hline)

/-- A stream of requests comes to the same in all chunks. -/
theorem outcome_feed_encode (hl : limit < Numeral.wordBound) (h : ∀ r ∈ requests, r.Fits limit)
    (hc : chunks.flatten = requests.flatMap Request.encode) :
    (feed (decodeRequest limit) chunks).outcome = (requests, .waiting []) :=
  (framing_decodeRequest limit).outcome_feed_written (fun r hr => writes_encode hl (h r hr)) hc

/-- Requests with one to four arguments within the limit, written one after the other, come out as they
were sent in whatever chunks they come: nothing is refused on the way, after each chunk every request
that has arrived has been cut off, and nothing is left at the end. -/
theorem feed_encode (hl : limit < Numeral.wordBound) (h : ∀ r ∈ requests, r.Fits limit)
    (hc : chunks.flatten = requests.flatMap Request.encode) :
    (∀ n, (feed (decodeRequest limit) (chunks.take n)).refusal = none ∧
      decodeRequest limit (feed (decodeRequest limit) (chunks.take n)).left = .ok none) ∧
    feed (decodeRequest limit) chunks = ⟨requests, none, []⟩ := by
  have hout := outcome_feed_encode hl h hc
  have hfeed : feed (decodeRequest limit) chunks = ⟨requests, none, []⟩ := by
    generalize feed (decodeRequest limit) chunks = d at hout
    obtain ⟨frames, refusal, left⟩ := d
    cases refusal <;> cases hout
    rfl
  refine ⟨fun n => ?_, hfeed⟩
  have hrefusal : (feed (decodeRequest limit) (chunks.take n)).refusal = none := by
    rw [← List.take_append_drop n chunks] at hfeed
    exact refusal_of_refusal_append (by rw [hfeed])
  exact ⟨hrefusal, (framing_decodeRequest limit).feed_idle hrefusal⟩

/-- A request whose argument of ten octets looks like line ends and leads, and one with an empty argument,
in chunks that end within a length, within a line end and nowhere. -/
theorem feed_encode_of_two_requests :
    let lines := [13, 10, 42, 36, 13, 10, 42, 36, 13, 10]
    let requests : List Request := [⟨[lines]⟩, ⟨[[115], []]⟩]
    let chunks : List Bytes := [[42, 49, 13, 10, 36, 49], [48, 13], [], 10 :: lines,
      [13, 10, 42, 50, 13, 10, 36, 49, 13, 10, 115, 13, 10, 36], [48, 13, 10, 13], [10]]
    (∀ n, (feed (decodeRequest 10) (chunks.take n)).refusal = none ∧
      decodeRequest 10 (feed (decodeRequest 10) (chunks.take n)).left = .ok none) ∧
    feed (decodeRequest 10) chunks = ⟨requests, none, []⟩ := by
  intro lines requests chunks
  refine feed_encode (by decide) ?_ ?_
  · simp only [requests, List.mem_cons, List.not_mem_nil, or_false, forall_eq_or_imp, forall_eq]
    exact ⟨⟨by decide, by decide⟩, ⟨by decide, by decide⟩⟩
  · decide +kernel

end PushRelay.Wire
