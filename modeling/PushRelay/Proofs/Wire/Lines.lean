import PushRelay.Proofs.Wire.Stream
import PushRelay.Wire.Buffer

/-!
# Length lines in chunks

Everything that decoding a request looks at is settled by the octets it has looked at, but for one
thing: a length line of `maxLine` octets or more, its lead included, is refused while its end has not
arrived.  `requestLines` lists the length lines that have ended.

    (∀ ways of cutting s, same outcome) ↔ at each request of s: it is refused for a missing line end
      however it comes, or its lines that end are short                  (outcome_eq_iff_short_lines)

A reader `Scans` if that is all that can change when more arrives; readers in a row (`andThen`) do if
each of them does.  All places that are looked at are machine words if the limit for arguments is not at
the end of their range (`lookRequest_eq`).
-/

namespace PushRelay.Wire

variable {β γ : Type} {lead : UInt8} {buf rest s u line taken more : Bytes} {limit n count : Nat}
  {e : WireError}

/-! ## Lines -/

theorem splitLine_cons {b : UInt8} (hb : ∀ rest, b = 13 → s = 10 :: rest → False) :
    splitLine (b :: s) = (splitLine s).map fun (line, rest) => (b :: line, rest) := by
  rw [splitLine.eq_def]
  split
  · next h => exact absurd (List.cons.inj h).2 fun hs => hb _ (List.cons.inj h).1 hs
  · next h => cases h
  · next h => cases h; rfl

/-- A line is found in its own octets, and is not found without the last one of its end. -/
theorem splitLine_some (h : splitLine s = some (line, rest)) :
    s = line ++ 13 :: 10 :: rest ∧ splitLine (line ++ [13]) = none ∧
      ∀ rest', splitLine (line ++ 13 :: 10 :: rest') = some (line, rest') := by
  fun_induction splitLine s generalizing line rest with
  | case1 rest' =>
    cases h
    exact ⟨rfl, rfl, fun _ => rfl⟩
  | case2 => cases h
  | case3 b s hb ih =>
    obtain ⟨⟨line', rest'⟩, hs, he⟩ := Option.map_eq_some_iff.1 h
    cases he
    obtain ⟨rfl, hopen, hline⟩ := ih hs
    -- whatever follows the line, `b` is not the first octet of its end
    have hb' : ∀ t t', b = 13 → line' ++ 13 :: t = 10 :: t' → False := by
      rintro t t' h13 ht
      cases line' with
      | nil => cases ht
      | cons b' line' =>
        cases ht
        exact hb _ h13 rfl
    refine ⟨rfl, ?_, fun rest'' => ?_⟩
    · rw [List.cons_append, splitLine_cons (hb' []), hopen]
      rfl
    · rw [List.cons_append, splitLine_cons (hb' _), hline]
      rfl

/-- A line that ends only in what comes later has come up to its last octet at most. -/
theorem length_le_of_splitLine_none (hs : splitLine s = none)
    (h : splitLine (s ++ more) = some (line, rest)) : s.length ≤ line.length + 1 := by
  obtain ⟨heq, -, hline⟩ := splitLine_some h
  refine Nat.le_of_not_lt fun hlt => ?_
  -- otherwise all of the line and of its end would have come
  have hline' : (line ++ [13, 10]) <+: s ++ more := ⟨rest, by rw [heq, List.append_assoc]; rfl⟩
  obtain ⟨s', rfl⟩ := List.prefix_of_prefix_length_le hline' (List.prefix_append s more)
    (by rw [List.length_append]; exact hlt)
  rw [List.append_assoc] at hs
  cases (hline s').symm.trans hs

/-! ## Readers that scan -/

/-- Readers in a row: the second one is chosen by what the first one finds. -/
def andThen (read : Reader β) (next : β → Reader γ) : Reader γ := fun buf =>
  match read buf with
  | .error e => .error e
  | .ok none => .ok none
  | .ok (some (b, rest)) => next b rest

/-- The length lines that have ended and that readers in a row come across. -/
def linesThen (read : Reader β) (lines : Bytes → List Bytes) (next : β → Bytes → List Bytes)
    (buf : Bytes) : List Bytes :=
  lines buf ++ match read buf with
    | .ok (some (b, rest)) => next b rest
    | _ => []

/-- What a reader makes of a buffer stays when more arrives, unless it was waiting, or refused a length
line that turns out to be one of `lines`, which are those that it comes across. -/
structure Scans (read : Reader β) (lines : Bytes → List Bytes) : Prop where
  own : ∀ {buf b rest}, read buf = .ok (some (b, rest)) →
    ∃ taken, buf = taken ++ rest ∧ ∀ rest', read (taken ++ rest') = .ok (some (b, rest'))
  refused : ∀ {buf e}, read buf = .error e → ∀ more, read (buf ++ more) = .error e ∨
    e = .missingCrlf ∧ ∃ line ∈ lines (buf ++ more), maxLine ≤ line.length
  cut : ∀ {buf line}, line ∈ lines buf → maxLine ≤ line.length →
    ∃ taken more, buf = taken ++ more ∧ read taken = .error .missingCrlf

theorem Scans.extend {read : Reader β} {lines : Bytes → List Bytes} (h : Scans read lines) {b : β}
    (hb : read buf = .ok (some (b, rest))) (more : Bytes) :
    read (buf ++ more) = .ok (some (b, rest ++ more)) := by
  obtain ⟨taken, rfl, htaken⟩ := h.own hb
  rw [List.append_assoc]
  exact htaken (rest ++ more)

theorem Scans.andThen {read : Reader β} {lines : Bytes → List Bytes} {next : β → Reader γ}
    {nextLines : β → Bytes → List Bytes} (h : Scans read lines)
    (hn : ∀ b, Scans (next b) (nextLines b)) :
    Scans (andThen read next) (linesThen read lines nextLines) where
  own := by
    intro buf c rest hc
    unfold Wire.andThen at hc
    split at hc
    · cases hc
    · cases hc
    · next b mid hb =>
      obtain ⟨taken, rfl, htaken⟩ := h.own hb
      obtain ⟨taken', rfl, htaken'⟩ := (hn b).own hc
      refine ⟨taken ++ taken', (List.append_assoc ..).symm, fun rest' => ?_⟩
      simp only [Wire.andThen, List.append_assoc, htaken, htaken']
  refused := by
    intro buf e he more
    unfold Wire.andThen at he
    split at he
    · next hb =>
      cases he
      rcases h.refused hb more with hmore | ⟨rfl, line, hline, hlong⟩
      · exact Or.inl (by simp only [Wire.andThen, hmore])
      · exact Or.inr ⟨rfl, line, List.mem_append_left _ hline, hlong⟩
    · cases he
    · next b rest hb =>
      have hmore := h.extend hb more
      rcases (hn b).refused he more with hnext | ⟨rfl, line, hline, hlong⟩
      · exact Or.inl (by simp only [Wire.andThen, hmore, hnext])
      · refine Or.inr ⟨rfl, line, List.mem_append_right _ ?_, hlong⟩
        simp only [hmore]
        exact hline
  cut := by
    intro buf line hline hlong
    rcases List.mem_append.1 hline with hfirst | hnext
    · obtain ⟨taken, more, rfl, hcut⟩ := h.cut hfirst hlong
      exact ⟨taken, more, rfl, by simp only [Wire.andThen, hcut]⟩
    · split at hnext
      · next b rest hb =>
        obtain ⟨taken, rfl, htaken⟩ := h.own hb
        obtain ⟨taken', more, rfl, hcut⟩ := (hn b).cut hnext hlong
        refine ⟨taken ++ taken', more, (List.append_assoc ..).symm, ?_⟩
        simp only [Wire.andThen, htaken, hcut]
      · cases hnext

/-- A reader that refuses everything. -/
theorem scans_refuse (e : WireError) : Scans (fun _ => .error e : Reader β) (fun _ => []) where
  own h := by cases h
  refused h _ := Or.inl h
  cut h := by cases h

/-- A reader that takes nothing. -/
theorem scans_yield (b : β) : Scans (fun buf => .ok (some (b, buf)) : Reader β) (fun _ => []) where
  own h := by
    cases h
    exact ⟨[], rfl, fun _ => rfl⟩
  refused h := by cases h
  cut h := by cases h

theorem linesThen_nil (read : Reader β) (lines : Bytes → List Bytes) :
    linesThen read lines (fun (_ : β) _ => []) = lines := by
  funext buf
  rw [linesThen]
  split <;> exact List.append_nil _

/-- What a reader finds may be reworked. -/
theorem Scans.map {read : Reader β} {lines : Bytes → List Bytes} (h : Scans read lines) (f : β → γ) :
    Scans (Wire.andThen read fun b buf => .ok (some (f b, buf))) lines := by
  have hyield := h.andThen fun b => scans_yield (f b)
  rwa [linesThen_nil] at hyield

/-! ## Reading a length -/

/-- The outcomes of reading a length line. -/
inductive LengthRead (lead : UInt8) : Bytes → Except WireError (Option (Nat × Bytes)) → Prop
  | empty : LengthRead lead [] (.ok none)
  | otherLead {first : UInt8} {s : Bytes} (hf : first ≠ lead) :
      LengthRead lead (first :: s) (.error (.unexpectedLead first))
  | long {s : Bytes} (hs : splitLine s = none) (hl : maxLine ≤ s.length) :
      LengthRead lead (lead :: s) (.error .missingCrlf)
  | unfinished {s : Bytes} (hs : splitLine s = none) (hl : s.length < maxLine) :
      LengthRead lead (lead :: s) (.ok none)
  | noNumeral {s line rest : Bytes} (hs : splitLine s = some (line, rest))
      (hn : Numeral.natural? Numeral.wordBound line = none) :
      LengthRead lead (lead :: s) (.error .invalidLength)
  | length {s line rest : Bytes} {n : Nat} (hs : splitLine s = some (line, rest))
      (hn : Numeral.natural? Numeral.wordBound line = some n) :
      LengthRead lead (lead :: s) (.ok (some (n, rest)))

theorem readLength_lengthRead (lead : UInt8) (buf : Bytes) :
    LengthRead lead buf (readLength lead buf) := by
  unfold readLength
  split
  · exact .empty
  · next first s =>
    split
    · next hf => exact .otherLead hf
    · next hf =>
      cases Decidable.not_not.1 hf
      split
      · next hs =>
        split
        · next hl => exact .long hs (Nat.le_of_lt_succ hl)
        · next hl => exact .unfinished hs (Nat.lt_of_succ_le (Nat.le_of_not_lt hl))
      · next hs =>
        split
        · next hn => exact .noNumeral hs hn
        · next hn => exact .length hs hn

theorem readLength_otherLead {first : UInt8} (hf : first ≠ lead) (s : Bytes) :
    readLength lead (first :: s) = .error (.unexpectedLead first) := by
  simp [readLength, hf]

theorem readLength_long (hs : splitLine s = none) (hl : maxLine ≤ s.length) :
    readLength lead (lead :: s) = .error .missingCrlf := by
  simp only [readLength, ne_eq, not_true_eq_false, if_false, hs, List.length_cons]
  rw [if_pos (Nat.lt_succ_of_le hl)]

theorem readLength_line (hs : splitLine s = some (line, rest)) :
    readLength lead (lead :: s) = match Numeral.natural? Numeral.wordBound line with
      | none => .error .invalidLength
      | some n => .ok (some (n, rest)) := by
  cases hn : Numeral.natural? Numeral.wordBound line <;>
    simp only [readLength, ne_eq, not_true_eq_false, if_false, hs, hn]

/-- The length line at the start of a buffer, with its lead, if it has ended. -/
def lineAt (lead : UInt8) : Bytes → List Bytes
  | [] => []
  | first :: rest =>
    if first = lead then ((splitLine rest).map fun (line, _) => lead :: line).toList else []

theorem mem_lineAt :
    line ∈ lineAt lead buf ↔ ∃ digits rest, line = lead :: digits ∧
      buf = lead :: digits ++ 13 :: 10 :: rest ∧
      splitLine (digits ++ 13 :: 10 :: rest) = some (digits, rest) := by
  constructor
  · intro h
    cases buf with
    | nil => cases h
    | cons first s =>
      by_cases hf : first = lead
      · simp only [lineAt, if_pos hf] at h
        obtain ⟨⟨digits, rest⟩, hs, rfl⟩ := Option.map_eq_some_iff.1 (Option.mem_toList.1 h)
        obtain ⟨rfl, -, hline⟩ := splitLine_some hs
        exact ⟨digits, rest, rfl, by rw [hf]; rfl, hs⟩
      · simp only [lineAt, if_neg hf] at h
        cases h
  · rintro ⟨digits, rest, rfl, rfl, hs⟩
    simp [lineAt, hs]

theorem scans_readLength (lead : UInt8) : Scans (readLength lead) (lineAt lead) where
  own := by
    intro buf n rest h
    have hr := readLength_lengthRead lead buf
    rw [h] at hr
    cases hr with
    | @length s line _ _ hs hn =>
      obtain ⟨rfl, -, hline⟩ := splitLine_some hs
      refine ⟨lead :: line ++ [13, 10], by simp, fun rest' => ?_⟩
      rw [List.append_assoc, List.cons_append]
      exact (readLength_line (hline rest')).trans (by rw [hn])
  refused := by
    intro buf e h more
    have hr := readLength_lengthRead lead buf
    rw [h] at hr
    cases hr with
    | otherLead hf => exact Or.inl (readLength_otherLead hf _)
    | @noNumeral s line rest hs hn =>
      obtain ⟨rfl, -, hline⟩ := splitLine_some hs
      refine Or.inl ?_
      rw [List.cons_append, List.append_assoc]
      exact (readLength_line (hline (rest ++ more))).trans (by rw [hn])
    | @long s hs hl =>
      cases hmore : splitLine (s ++ more) with
      | none =>
        have hlen : maxLine ≤ (s ++ more).length := by rw [List.length_append]; omega
        exact Or.inl (readLength_long hmore hlen)
      | some p =>
        obtain ⟨line, rest⟩ := p
        have hle := length_le_of_splitLine_none hs hmore
        obtain ⟨heq, -, -⟩ := splitLine_some hmore
        refine Or.inr ⟨rfl, lead :: line, mem_lineAt.2 ⟨line, rest, rfl, ?_, heq ▸ hmore⟩, ?_⟩
        · rw [List.cons_append, heq]
          rfl
        · rw [List.length_cons]
          omega
  cut := by
    intro buf line hline hlong
    obtain ⟨digits, rest, rfl, rfl, hs⟩ := mem_lineAt.1 hline
    obtain ⟨-, hopen, -⟩ := splitLine_some hs
    refine ⟨lead :: (digits ++ [13]), 10 :: rest, by simp, readLength_long hopen ?_⟩
    rw [List.length_append]
    exact hlong

/-! ## Passing over a body -/

theorem skipBody_eq_some_iff :
    skipBody n buf = .ok (some rest) ↔ ∃ body, body.length = n ∧ buf = body ++ crlf ++ rest := by
  unfold skipBody
  constructor
  · intro h
    split at h
    · cases h
    · next hlen =>
      split at h
      · cases h
      · next hend =>
        cases h
        refine ⟨buf.take n, by rw [List.length_take]; omega, ?_⟩
        rw [← Decidable.not_not.1 hend, List.append_assoc, ← List.drop_drop, List.take_append_drop,
          List.take_append_drop]
  · rintro ⟨body, rfl, rfl⟩
    rw [if_neg (by simp [crlf]), List.append_assoc, List.drop_left, if_neg (by simp [crlf])]
    simp [crlf]

theorem skipBody_refused (h : skipBody n buf = .error e) (more : Bytes) :
    skipBody n (buf ++ more) = .error e := by
  unfold skipBody at h ⊢
  split at h
  · cases h
  · next hlen =>
    split at h
    · next hend =>
      have hsame : ((buf ++ more).drop n).take 2 = (buf.drop n).take 2 := by
        rw [List.drop_append_of_le_length (by omega),
          List.take_append_of_le_length (by rw [List.length_drop]; omega)]
      rw [if_neg (by rw [List.length_append]; omega), if_pos (by rwa [hsame]), h]
    · cases h

/-- Cuts off a body and passes over the line end behind it. -/
def takeBody (n : Nat) : Reader Bytes := fun buf =>
  match skipBody n buf with
  | .error e => .error e
  | .ok none => .ok none
  | .ok (some rest) => .ok (some (buf.take n, rest))

theorem takeBody_append {body : Bytes} (hbody : body.length = n) (rest : Bytes) :
    takeBody n (body ++ crlf ++ rest) = .ok (some (body, rest)) := by
  have htake : (body ++ crlf ++ rest).take n = body := by
    rw [List.append_assoc, ← hbody, List.take_left]
  simp only [takeBody, skipBody_eq_some_iff.2 ⟨body, hbody, rfl⟩, htake]

theorem scans_takeBody (n : Nat) : Scans (takeBody n) (fun _ => []) where
  own := by
    intro buf body rest h
    unfold takeBody at h
    split at h <;> cases h
    next hskip =>
    obtain ⟨body, hbody, rfl⟩ := skipBody_eq_some_iff.1 hskip
    refine ⟨body ++ crlf, rfl, fun rest' => ?_⟩
    rw [takeBody_append hbody, List.append_assoc, ← hbody, List.take_left]
  refused := by
    intro buf e h more
    unfold takeBody at h
    split at h <;> cases h
    next hskip => exact Or.inl (by simp only [takeBody, skipBody_refused hskip])
  cut h := by cases h

/-- Passes over a body and the line end behind it, if the body may be that long. -/
def passBody (limit n : Nat) : Reader Unit := fun buf =>
  if n > limit then .error (.argumentTooLarge n limit)
  else match skipBody n buf with
    | .error e => .error e
    | .ok none => .ok none
    | .ok (some rest) => .ok (some ((), rest))

theorem scans_passBody (limit n : Nat) : Scans (passBody limit n) (fun _ => []) := by
  by_cases hn : n > limit
  · have hread : passBody limit n = fun _ => .error (.argumentTooLarge n limit) :=
      funext fun _ => if_pos hn
    exact hread ▸ scans_refuse _
  · have hread : passBody limit n = andThen (takeBody n) fun _ buf => .ok (some ((), buf)) := by
      funext buf
      rcases hskip : skipBody n buf with e | _ | rest <;>
        simp only [passBody, andThen, takeBody, hskip, if_neg hn]
    exact hread ▸ (scans_takeBody n).map fun _ => ()

/-! ## Measuring a request -/

theorem measureArgs_succ (limit count : Nat) :
    measureArgs limit (count + 1) = andThen (readLength bulkLead) fun n =>
      andThen (passBody limit n) fun _ => andThen (measureArgs limit count) fun lengths buf =>
        .ok (some (n :: lengths, buf)) := by
  funext buf
  rcases hread : readLength bulkLead buf with e | _ | ⟨n, body⟩ <;>
    simp only [measureArgs, andThen, hread, passBody]
  split
  · rfl
  · rcases skipBody n body with e | _ | rest
    · rfl
    · rfl
    · dsimp only
      rcases measureArgs limit count rest with e | _ | ⟨lengths, rest⟩ <;> rfl

/-- The length lines that have ended and that measuring `count` bulk strings comes across. -/
def argLines (limit : Nat) : Nat → Bytes → List Bytes
  | 0 => fun _ => []
  | count + 1 => linesThen (readLength bulkLead) (lineAt bulkLead) fun n =>
    linesThen (passBody limit n) (fun _ => []) fun _ => argLines limit count

theorem scans_measureArgs (limit count : Nat) :
    Scans (measureArgs limit count) (argLines limit count) := by
  induction count with
  | zero => exact scans_yield []
  | succ count ih =>
    rw [measureArgs_succ]
    exact (scans_readLength bulkLead).andThen fun n => (scans_passBody limit n).andThen fun _ =>
      ih.map (n :: ·)

theorem measureRequest_eq (limit : Nat) :
    measureRequest limit = andThen (readLength requestLead) fun count =>
      if minArgs ≤ count ∧ count ≤ maxArgs then measureArgs limit count
      else fun _ => .error (.argumentCount count) := by
  funext buf
  rcases hread : readLength requestLead buf with e | _ | ⟨count, rest⟩ <;>
    simp only [measureRequest, andThen, hread]
  split <;> rfl

/-! ## Measuring in machine words -/

theorem ofRead_andThen (read : Reader β) (next : β → Reader γ) (buf : Bytes) :
    Look.ofRead (andThen read next buf) =
      (Look.ofRead (read buf)).andThen fun b rest => Look.ofRead (next b rest) := by
  rcases hread : read buf with e | _ | ⟨b, rest⟩ <;> simp only [andThen, hread] <;> rfl

/-- An argument within the limit ends at a word. -/
theorem lookBody_eq (hlimit : limit + 2 < Numeral.wordBound) (n : Nat) (buf : Bytes) :
    lookBody limit n buf = .ofRead (passBody limit n buf) := by
  unfold lookBody passBody
  split
  · rfl
  · rw [if_neg (by omega)]
    rcases skipBody n buf with e | _ | rest <;> rfl

theorem lookArgs_eq (hlimit : limit + 2 < Numeral.wordBound) (count : Nat) (buf : Bytes) :
    lookArgs limit count buf = .ofRead (measureArgs limit count buf) := by
  induction count generalizing buf with
  | zero => rfl
  | succ count ih =>
    rw [measureArgs_succ]
    simp only [lookArgs, ofRead_andThen, lookBody_eq hlimit, ih]
    rfl

/-- Measuring in machine words comes to the same. -/
theorem lookRequest_eq (hlimit : limit + 2 < Numeral.wordBound) (buf : Bytes) :
    lookRequest limit buf = .ofRead (measureRequest limit buf) := by
  rw [measureRequest_eq, ofRead_andThen]
  unfold lookRequest
  congr 1
  funext count rest
  split
  · exact lookArgs_eq hlimit count rest
  · rfl

/-- The length lines that have ended and that decoding a request comes across. -/
def requestLines (limit : Nat) : Bytes → List Bytes :=
  linesThen (readLength requestLead) (lineAt requestLead) fun count =>
    if minArgs ≤ count ∧ count ≤ maxArgs then argLines limit count else fun _ => []

theorem scans_measureRequest (limit : Nat) :
    Scans (measureRequest limit) (requestLines limit) := by
  rw [measureRequest_eq]
  refine (scans_readLength requestLead).andThen fun count => ?_
  split
  · exact scans_measureArgs limit count
  · exact scans_refuse _

/-- The frame that a request is cut out of is what measuring it has taken. -/
theorem decodeRequest_of_measure {lengths : List Nat}
    (h : measureRequest limit (taken ++ rest) = .ok (some (lengths, rest))) :
    decodeRequest limit (taken ++ rest) = .ok (some (⟨cutArgs lengths (dropLine taken)⟩, rest)) := by
  simp only [decodeRequest, h, List.length_append, Nat.add_sub_cancel, List.take_left]

theorem scans_decodeRequest (limit : Nat) : Scans (decodeRequest limit) (requestLines limit) where
  own := by
    intro buf request rest h
    rcases hm : measureRequest limit buf with e | _ | ⟨lengths, rest'⟩ <;>
      simp only [decodeRequest, hm] at h <;> cases h
    obtain ⟨taken, rfl, htaken⟩ := (scans_measureRequest limit).own hm
    refine ⟨taken, rfl, fun rest' => ?_⟩
    rw [decodeRequest_of_measure (htaken rest')]
    simp
  refused := by
    intro buf e h more
    rcases hm : measureRequest limit buf with e' | _ | ⟨lengths, rest⟩ <;>
      simp only [decodeRequest, hm] at h <;> cases h
    refine ((scans_measureRequest limit).refused hm more).imp_left fun hmore => ?_
    simp only [decodeRequest, hmore]
  cut := by
    intro buf line hline hlong
    obtain ⟨taken, more, rfl, hcut⟩ := (scans_measureRequest limit).cut hline hlong
    exact ⟨taken, more, rfl, by simp only [decodeRequest, hcut]⟩

/-- A request is found in its own octets. -/
theorem framing_decodeRequest (limit : Nat) : Framing (decodeRequest limit) where
  idle := rfl
  own := (scans_decodeRequest limit).own

/-! ## Chunks of requests -/

/-- A part of a stream is steady if it is refused for a missing line end in any case, or if the lines in
it are short. -/
theorem Scans.steady_iff {read : Reader β} {lines : Bytes → List Bytes} (h : Scans read lines) :
    Steady read u ↔ read u = .error .missingCrlf ∨ ∀ line ∈ lines u, line.length < maxLine := by
  constructor
  · intro hs
    refine Classical.or_iff_not_imp_left.2 fun hne line hline => Nat.lt_of_not_le fun hlong => hne ?_
    obtain ⟨taken, more, rfl, hcut⟩ := h.cut hline hlong
    exact hs taken more _ rfl hcut
  · rintro hu buf more e rfl hbuf
    rcases h.refused hbuf more with hmore | ⟨rfl, line, hline, hlong⟩
    · exact hmore
    · exact hu.resolve_right fun hshort => absurd (hshort line hline) (Nat.not_lt_of_le hlong)

/-- The outcome of a stream is the same in all chunks exactly if, at each of its requests, either the
request is refused for a missing line end, or no length line in it that ends has `maxLine` octets.  No place
that is looked at on the way is beyond the range of words, as long as the limit for arguments is not at its
end. -/
theorem outcome_eq_iff_short_lines (limit : Nat) (s : Bytes) :
    ((∀ chunks chunks', chunks.flatten = s → chunks'.flatten = s →
      (feed (decodeRequest limit) chunks).outcome = (feed (decodeRequest limit) chunks').outcome) ↔
    ∀ requests u, Passes (decodeRequest limit) s requests u →
      decodeRequest limit u = .error .missingCrlf ∨
        ∀ line ∈ requestLines limit u, line.length < maxLine) ∧
    (limit + 2 < Numeral.wordBound →
      ∀ buf, lookRequest limit buf = .ofRead (measureRequest limit buf)) := by
  refine ⟨?_, lookRequest_eq⟩
  rw [(framing_decodeRequest limit).outcome_eq_iff_steady]
  simp only [(scans_decodeRequest limit).steady_iff]

/-- An argument count with 24 zeros in front: in one piece it is a request with the argument `a`, and
what comes before the last digit is refused when it comes first. -/
theorem outcome_of_a_padded_count :
    let zeros := 42 :: List.replicate 24 48
    let request := [49, 13, 10, 36, 49, 13, 10, 97, 13, 10]
    [zeros ++ request].flatten = [zeros, request].flatten ∧
      (feed (decodeRequest 1024) [zeros ++ request]).outcome = ([⟨[[97]]⟩], .waiting []) ∧
      (feed (decodeRequest 1024) [zeros, request]).outcome = ([], .refused .missingCrlf) := by
  decide

end PushRelay.Wire
