import PushRelay.Proofs.Wire.RoundTrip

/-!
# The grammar of requests

`RequestFrame` says what a request may look like.  `decodeRequest` takes a frame off the start of a buffer
exactly if there is one, and the frame tells the arguments.

    decodeRequest limit buf = .ok (some (r, rest)) ↔
      ∃ frame, buf = frame ++ rest ∧ RequestFrame limit r.args frame       (decodeRequest_eq_some_iff)

A request is measured, then cut.  `cutWithin` is the cutting that notices when it would leave the frame,
which after measuring it never does, so that taking a request off a receive buffer never stops on the way
(`takeRequest_eq`).
-/

namespace PushRelay.Wire

variable {β γ : Type} {lead : UInt8} {buf rest s line frame : Bytes} {limit n count : Nat}
  {args : List Bytes} {lengths : List Nat} {r : Request}

/-! ## Grammar -/

/-- A lead octet, a numeral in the range of machine words and a line end. -/
inductive LengthLine (lead : UInt8) (n : Nat) : Bytes → Prop
  | mk {numeral : Bytes} (hn : Numeral.IsNumeral numeral n) (hword : n < Numeral.wordBound) :
      LengthLine lead n (lead :: numeral ++ crlf)

/-- A length line for each argument, and behind it the argument and a line end. -/
inductive BulkStrings (limit : Nat) : List Bytes → Bytes → Prop
  | nil : BulkStrings limit [] []
  | cons {arg line : Bytes} {args : List Bytes} {s : Bytes} (hline : LengthLine bulkLead arg.length line)
      (hshort : arg.length ≤ limit) (hs : BulkStrings limit args s) :
      BulkStrings limit (arg :: args) (line ++ (arg ++ crlf ++ s))

/-- A length line that counts the arguments, one to four of them, and their bulk strings. -/
inductive RequestFrame (limit : Nat) (args : List Bytes) : Bytes → Prop
  | mk {line s : Bytes} (hline : LengthLine requestLead args.length line)
      (hcount : 1 ≤ args.length ∧ args.length ≤ 4) (hs : BulkStrings limit args s) :
      RequestFrame limit args (line ++ s)

/-! ## Measuring -/

theorem andThen_eq_some_iff {read : Reader β} {next : β → Reader γ} {c : γ} :
    andThen read next buf = .ok (some (c, rest)) ↔
      ∃ b mid, read buf = .ok (some (b, mid)) ∧ next b mid = .ok (some (c, rest)) := by
  unfold andThen
  constructor
  · intro h
    split at h
    · cases h
    · cases h
    · next b mid hb => exact ⟨b, mid, hb, h⟩
  · rintro ⟨b, mid, hb, hc⟩
    simp only [hb, hc]

/-- No line ends within a numeral. -/
theorem not_mem_of_isNumeral (h : Numeral.IsNumeral s n) : 13 ∉ s := by
  cases h with
  | unsigned _ hd => exact fun hmem => absurd (hd 13 hmem) (by decide)
  | signed _ hd =>
    intro hmem
    rcases List.mem_cons.1 hmem with h13 | hmem
    · cases h13
    · exact absurd (hd 13 hmem) (by decide)

theorem LengthLine.append (hline : LengthLine lead n line) (rest : Bytes) :
    ∃ numeral, line ++ rest = lead :: (numeral ++ 13 :: 10 :: rest) ∧
      splitLine (numeral ++ 13 :: 10 :: rest) = some (numeral, rest) ∧
      Numeral.natural? Numeral.wordBound numeral = some n := by
  cases hline with
  | @mk numeral hn hword =>
    refine ⟨numeral, ?_, splitLine_append (not_mem_of_isNumeral hn),
      Numeral.natural?_eq_some_iff.2 ⟨hn, hword⟩⟩
    rw [List.append_assoc]
    rfl

theorem lengthLine_of_natural? (lead : UInt8) (numeral : Bytes)
    (h : Numeral.natural? Numeral.wordBound numeral = some n) :
    LengthLine lead n (lead :: numeral ++ crlf) := by
  obtain ⟨hn, hword⟩ := Numeral.natural?_eq_some_iff.1 h
  exact .mk hn hword

theorem readLength_eq_some_iff :
    readLength lead buf = .ok (some (n, rest)) ↔ ∃ line, buf = line ++ rest ∧ LengthLine lead n line := by
  constructor
  · intro h
    have hread := readLength_lengthRead lead buf
    rw [h] at hread
    cases hread with
    | @length s numeral _ _ hs hn =>
      obtain ⟨rfl, -, -⟩ := splitLine_some hs
      exact ⟨lead :: numeral ++ crlf, by simp [crlf], lengthLine_of_natural? lead numeral hn⟩
  · rintro ⟨line, rfl, hline⟩
    obtain ⟨numeral, happend, hs, hn⟩ := hline.append rest
    rw [happend, readLength_line hs, hn]

theorem passBody_eq_some_iff :
    passBody limit n buf = .ok (some ((), rest)) ↔
      n ≤ limit ∧ ∃ body, body.length = n ∧ buf = body ++ crlf ++ rest := by
  unfold passBody
  rw [← skipBody_eq_some_iff]
  split
  · next hlong => exact ⟨fun h => (by cases h), fun h => absurd h.1 (Nat.not_le_of_lt hlong)⟩
  · next hshort =>
    rw [and_iff_right (Nat.le_of_not_lt hshort)]
    rcases skipBody n buf with e | _ | rest' <;> simp

/-- Measuring goes past bulk strings, and tells the lengths of what they hold. -/
theorem measureArgs_eq_some_iff :
    measureArgs limit count buf = .ok (some (lengths, rest)) ↔
      ∃ args s, buf = s ++ rest ∧ BulkStrings limit args s ∧ args.length = count ∧
        args.map List.length = lengths := by
  induction count generalizing buf lengths with
  | zero =>
    constructor
    · intro h
      cases h
      exact ⟨[], [], rfl, .nil, rfl, rfl⟩
    · rintro ⟨args, s, rfl, hs, hcount, rfl⟩
      cases List.length_eq_zero_iff.1 hcount
      cases hs
      rfl
  | succ count ih =>
    rw [measureArgs_succ]
    simp only [andThen_eq_some_iff, readLength_eq_some_iff]
    constructor
    · rintro ⟨n, body, ⟨line, rfl, hline⟩, ⟨⟩, mid, hbody, lengths', left, hmore, h⟩
      cases h
      obtain ⟨hshort, arg, rfl, rfl⟩ := passBody_eq_some_iff.1 hbody
      obtain ⟨args, s, rfl, hs, rfl, rfl⟩ := ih.1 hmore
      refine ⟨arg :: args, line ++ (arg ++ crlf ++ s), ?_, .cons hline hshort hs, rfl, rfl⟩
      simp only [List.append_assoc]
    · rintro ⟨args, s, rfl, hs, hcount, rfl⟩
      cases hs with
      | nil => cases hcount
      | @cons arg line args s hline hshort hs =>
        refine ⟨arg.length, arg ++ crlf ++ (s ++ rest), ⟨line, by simp only [List.append_assoc], hline⟩,
          (), s ++ rest, passBody_eq_some_iff.2 ⟨hshort, arg, rfl, rfl⟩, args.map List.length, rest,
          ih.2 ⟨args, s, rfl, hs, Nat.succ.inj hcount, rfl⟩, rfl⟩

theorem measureRequest_eq_some_iff :
    measureRequest limit buf = .ok (some (lengths, rest)) ↔
      ∃ args frame, buf = frame ++ rest ∧ RequestFrame limit args frame ∧
        args.map List.length = lengths := by
  rw [measureRequest_eq, andThen_eq_some_iff]
  simp only [readLength_eq_some_iff]
  constructor
  · rintro ⟨count, mid, ⟨line, rfl, hline⟩, h⟩
    split at h
    · next hcount =>
      obtain ⟨args, s, rfl, hs, rfl, hlengths⟩ := measureArgs_eq_some_iff.1 h
      exact ⟨args, line ++ s, (List.append_assoc ..).symm, .mk hline hcount hs, hlengths⟩
    · cases h
  · rintro ⟨args, frame, rfl, hframe, hlengths⟩
    cases hframe with
    | @mk line s hline hcount hs =>
      refine ⟨args.length, s ++ rest, ⟨line, List.append_assoc .., hline⟩, ?_⟩
      have hcount : minArgs ≤ args.length ∧ args.length ≤ maxArgs := hcount
      rw [if_pos hcount]
      exact measureArgs_eq_some_iff.2 ⟨args, s, rfl, hs, rfl, hlengths⟩

/-- No argument is longer than the limit. -/
theorem BulkStrings.short (hs : BulkStrings limit args s) : ∀ arg ∈ args, arg.length ≤ limit := by
  induction hs with
  | nil => exact fun arg harg => by cases harg
  | cons _ hshort _ ih => exact List.forall_mem_cons.2 ⟨hshort, ih⟩

theorem RequestFrame.short (hframe : RequestFrame limit args frame) :
    ∀ arg ∈ args, arg.length ≤ limit := by
  cases hframe with
  | mk _ _ hs => exact hs.short

/-! ## Cutting -/

/-- Cuts that stay within the frame are those that are made. -/
theorem cutArgs_of_cutWithin {left : Bytes} (h : cutWithin lengths s = some (args, left)) :
    cutArgs lengths s = args := by
  induction lengths generalizing s args with
  | nil =>
    cases h
    rfl
  | cons n lengths ih =>
    simp only [cutWithin, Option.ite_none_left_eq_some, Option.map_eq_some_iff, Prod.mk.injEq,
      Prod.exists] at h
    obtain ⟨-, args', left', hmore, rfl, rfl⟩ := h
    rw [cutArgs, ih hmore]

theorem LengthLine.dropLine (hline : LengthLine lead n line) (hlead : lead ≠ 13) (rest : Bytes) :
    dropLine (line ++ rest) = rest := by
  obtain ⟨numeral, happend, hs, -⟩ := hline.append rest
  rw [Wire.dropLine, happend, splitLine_cons fun _ h _ => hlead h, hs]
  rfl

/-- All of the bulk strings is used up, and what they hold is cut out. -/
theorem BulkStrings.cutWithin (hs : BulkStrings limit args s) :
    cutWithin (args.map List.length) s = some (args, []) := by
  induction hs with
  | nil => rfl
  | @cons arg line args s hline _ _ ih =>
    have hlen : ¬ (arg ++ crlf ++ s).length < arg.length + 2 := by simp [crlf]
    have hdrop : (arg ++ crlf ++ s).drop (arg.length + 2) = s := List.drop_left' (by simp [crlf])
    rw [List.map_cons, Wire.cutWithin, hline.dropLine (by decide), if_neg hlen, hdrop, ih,
      List.append_assoc, List.take_left]
    rfl

/-- The cuts in a measured frame stay within it. -/
theorem RequestFrame.cutWithin (hframe : RequestFrame limit args frame) :
    cutWithin (args.map List.length) (dropLine frame) = some (args, []) := by
  cases hframe with
  | mk hline _ hs => rw [hline.dropLine (by decide), hs.cutWithin]

/-! ## Decoding -/

theorem RequestFrame.decodeRequest (hframe : RequestFrame limit r.args frame) (rest : Bytes) :
    decodeRequest limit (frame ++ rest) = .ok (some (r, rest)) := by
  rw [decodeRequest_of_measure (measureRequest_eq_some_iff.2 ⟨r.args, frame, rfl, hframe, rfl⟩),
    cutArgs_of_cutWithin hframe.cutWithin]

/-- A request is found exactly if the buffer starts with a frame of it. -/
theorem decodeRequest_eq_some_iff :
    decodeRequest limit buf = .ok (some (r, rest)) ↔
      ∃ frame, buf = frame ++ rest ∧ RequestFrame limit r.args frame := by
  constructor
  · intro h
    rcases hm : measureRequest limit buf with e | _ | ⟨lengths, rest'⟩ <;>
      simp only [Wire.decodeRequest, hm] at h <;> cases h
    obtain ⟨args, frame, rfl, hframe, rfl⟩ := measureRequest_eq_some_iff.1 hm
    refine ⟨frame, rfl, ?_⟩
    rw [List.length_append, Nat.add_sub_cancel, List.take_left, cutArgs_of_cutWithin hframe.cutWithin]
    exact hframe
  · rintro ⟨frame, rfl, hframe⟩
    exact hframe.decodeRequest rest

/-! ## Receive buffers -/

/-- Taking a request off a buffer comes to what decoding tells: it goes past no place that is not a word and
makes no cut outside the frame. -/
theorem takeRequest_eq (hlimit : limit + 2 < Numeral.wordBound) (buf : Bytes) :
    takeRequest limit buf = some (match Wire.decodeRequest limit buf with
      | .error e => (.error e, buf)
      | .ok none => (.ok none, buf)
      | .ok (some (r, rest)) => (.ok (some r), rest)) := by
  rcases hm : measureRequest limit buf with e | _ | ⟨lengths, rest⟩ <;>
    simp only [takeRequest, Wire.decodeRequest, lookRequest_eq hlimit, hm, Look.ofRead]
  obtain ⟨args, frame, rfl, hframe, rfl⟩ := measureRequest_eq_some_iff.1 hm
  rw [List.length_append, Nat.add_sub_cancel, List.take_left, List.drop_left, hframe.cutWithin,
    cutArgs_of_cutWithin hframe.cutWithin]
  rfl

/-- Decoding accepts the frames of the grammar and nothing else: it finds a request and leaves `rest`
exactly if the buffer is a frame of the request with `rest` behind it.  Whenever a buffer has been
measured, the cuts that follow stay within the frame, use it up and give the arguments that were measured,
and no place in it is beyond the range of words.  Taking a request off a buffer never stops for such a
place or cut, answers as decoding does, and unless it finds a request the buffer stays as it is. -/
theorem decodeRequest_grammar (hlimit : limit + 2 < Numeral.wordBound) (buf : Bytes) :
    (∀ r rest, decodeRequest limit buf = .ok (some (r, rest)) ↔
      ∃ frame, buf = frame ++ rest ∧ RequestFrame limit r.args frame) ∧
    (∀ lengths rest, measureRequest limit buf = .ok (some (lengths, rest)) →
      (∀ n ∈ lengths, n + 2 < Numeral.wordBound) ∧
      ∃ args frame, buf = frame ++ rest ∧ RequestFrame limit args frame ∧
        lengths = args.map List.length ∧ cutWithin lengths (dropLine frame) = some (args, []) ∧
        decodeRequest limit buf = .ok (some (⟨args⟩, rest))) ∧
    ∃ answer left, takeRequest limit buf = some (answer, left) ∧
      (∀ r, answer = .ok (some r) ↔ ∃ frame, buf = frame ++ left ∧ RequestFrame limit r.args frame) ∧
      (answer = .ok none ↔ decodeRequest limit buf = .ok none) ∧
      (∀ e, answer = .error e ↔ decodeRequest limit buf = .error e) ∧
      ((answer = .ok none ∨ ∃ e, answer = .error e) → left = buf) := by
  refine ⟨fun r rest => decodeRequest_eq_some_iff, fun lengths rest h => ?_,
    _, _, takeRequest_eq hlimit buf, ?_⟩
  · obtain ⟨args, frame, rfl, hframe, rfl⟩ := measureRequest_eq_some_iff.1 h
    refine ⟨fun n hn => ?_, args, frame, rfl, hframe, rfl, hframe.cutWithin,
      hframe.decodeRequest rest⟩
    obtain ⟨arg, harg, rfl⟩ := List.mem_map.1 hn
    exact Nat.lt_of_le_of_lt (Nat.add_le_add_right (hframe.short arg harg) 2) hlimit
  · simp only [← decodeRequest_eq_some_iff]
    rcases decodeRequest limit buf with e | _ | ⟨r, rest⟩ <;> simp

/-- Two arguments, of which one looks like line ends and leads and the other is empty, under numerals with
signs and zeros in front, and a heartbeat behind the request. -/
theorem decodeRequest_grammar_padded :
    let args := [[13, 10, 36, 42], []]
    let frame := [42, 43, 48, 50, 13, 10, 36, 48, 48, 52, 13, 10, 13, 10, 36, 42, 13, 10,
      36, 43, 48, 13, 10, 13, 10]
    1024 + 2 < Numeral.wordBound ∧
      decodeRequest 1024 (frame ++ [104]) = .ok (some (⟨args⟩, [104])) ∧
      cutWithin [4, 0] (dropLine frame) = some (args, []) ∧
      takeRequest 1024 (frame ++ [104]) = some (.ok (some ⟨args⟩), [104]) := by
  intro args frame
  have hlimit : 1024 + 2 < Numeral.wordBound := by decide
  have htwo : LengthLine requestLead 2 [42, 43, 48, 50, 13, 10] :=
    lengthLine_of_natural? requestLead [43, 48, 50] (by decide)
  have hfour : LengthLine bulkLead 4 [36, 48, 48, 52, 13, 10] :=
    lengthLine_of_natural? bulkLead [48, 48, 52] (by decide)
  have hnone : LengthLine bulkLead 0 [36, 43, 48, 13, 10] :=
    lengthLine_of_natural? bulkLead [43, 48] (by decide)
  have hargs : BulkStrings 1024 args _ := .cons hfour (by decide) (.cons hnone (by decide) .nil)
  have hframe : RequestFrame 1024 args frame := @RequestFrame.mk 1024 args _ _ htwo (by decide) hargs
  obtain ⟨hiff, hcut, -⟩ := decodeRequest_grammar hlimit (frame ++ [104])
  have hmeasure : measureRequest 1024 (frame ++ [104]) = .ok (some ([4, 0], [104])) :=
    measureRequest_eq_some_iff.2 ⟨_, frame, rfl, hframe, rfl⟩
  obtain ⟨-, args', frame', happend, -, hlengths, hwithin, hdecode⟩ := hcut [4, 0] [104] hmeasure
  have hreq := (hiff ⟨args⟩ [104]).2 ⟨frame, rfl, hframe⟩
  cases List.append_cancel_right happend
  cases hreq.symm.trans hdecode
  exact ⟨hlimit, hreq, hwithin, by rw [takeRequest_eq hlimit, hreq]⟩

end PushRelay.Wire
