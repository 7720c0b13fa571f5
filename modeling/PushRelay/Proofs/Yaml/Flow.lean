import PushRelay.Proofs.Yaml.Quoted
import PushRelay.Yaml.Reader

/-!
# Flow mappings on one line

`Flow.text` writes names and what they stand for between braces: each name in double quotes with a colon
behind it, and a comma behind each value, which is a text in double quotes, a word without quotes or a
list of texts.  The lexer takes that apart again.

    (∀ e ∈ es, e.IsSound) →
      tokens? (text es) = some (.flowMappingStart :: es.flatMap Entry.tokens ++ [.flowMappingEnd])
                                                                                  (tokens?_text)

`Inside` says where the lexer stands, and a lemma `lexes_…` takes it over one token or over all of a value
or an entry.  What makes that more than reading left to right is that the lexer learns only from a colon
that it has passed a key: it remembers where one may have started, and puts the token in front of what it
has read since, unless that is too long ago.
-/

namespace PushRelay.Yaml.Flow

variable {c : Cursor} {s : List Char}

/-! ## One token -/

/-- From `l` the lexer comes to `l'` within so many tokens. -/
def Lexes (n : Nat) (l l' : Lexer) : Prop := ∀ fuel, l.run? (fuel + n) = l'.run? fuel

theorem Lexes.trans {l l' l'' : Lexer} {m n : Nat} (h : Lexes m l l') (h' : Lexes n l' l'') :
    Lexes (n + m) l l'' := by
  intro fuel
  rw [← Nat.add_assoc, h, h']

/-- The lexer stands in front of `s`, inside so many brackets, behind the tokens `ts`.  No key has to
start at any place that it remembers. -/
structure Inside (depth : Nat) (ts : List Token) (s : List Char) (l : Lexer) : Prop where
  rest : l.cursor.rest = s
  col : 0 < l.cursor.col
  tokens : l.tokens = ts
  blocks : l.blocks = []
  depth : l.outer.length = depth
  candidate : l.candidate.any Candidate.required = false
  outer : ∀ k ∈ l.outer, k.any Candidate.required = false

variable {l : Lexer} {depth : Nat} {ts : List Token} {x : Char}

theorem Inside.inFlow (h : Inside (depth + 1) ts s l) : l.inFlow = true := by
  have hd := h.depth
  unfold Lexer.inFlow
  cases ho : l.outer with
  | nil => rw [ho] at hd; cases hd
  | cons k outer => rfl

theorem keep?_optional {k : Option Candidate} (hk : k.any Candidate.required = false) (c : Cursor) :
    ∃ k', Lexer.keep? c k = some k' ∧ k'.any Candidate.required = false := by
  unfold Lexer.keep?
  simp only
  split
  · exact ⟨none, by rw [Lexer.abandon?, hk]; rfl, rfl⟩
  · exact ⟨k, rfl, hk⟩

/-- A candidate that is not far is kept. -/
theorem keep?_near {k : Candidate} (hline : c.line ≤ k.line) (hindex : c.index ≤ k.index + maxKey) :
    Lexer.keep? c (some k) = some (some k) := by
  have hnear : (some k).any (fun k => k.line < c.line || k.index + maxKey < c.index) = false := by
    rw [Option.any_some, Bool.or_eq_false_iff]
    exact ⟨decide_eq_false (Nat.not_lt.2 hline), decide_eq_false (Nat.not_lt.2 hindex)⟩
  rw [Lexer.keep?, hnear]
  rfl

theorem mapM_keep? {ks : List (Option Candidate)} (hk : ∀ k ∈ ks, k.any Candidate.required = false)
    (c : Cursor) :
    ∃ ks', ks.mapM (Lexer.keep? c) = some ks' ∧ ks'.length = ks.length ∧
      ∀ k ∈ ks', k.any Candidate.required = false := by
  induction ks with
  | nil => exact ⟨[], rfl, rfl, nofun⟩
  | cons k ks ih =>
    obtain ⟨k', hk', hreq⟩ := keep?_optional (hk k List.mem_cons_self) c
    obtain ⟨ks', hks', hlen, hreqs⟩ := ih fun k h => hk k (List.mem_cons_of_mem _ h)
    refine ⟨k' :: ks', ?_, by rw [List.length_cons, hlen, List.length_cons], ?_⟩
    · rw [List.mapM_cons, hk', hks']
      rfl
    · exact List.forall_mem_cons.2 ⟨hreq, hreqs⟩

theorem skip_here (hc : c.rest = x :: s) (hcol : 0 < c.col) (hx : isBlankOrBreak x = false)
    (hcomment : x ≠ '#') (keyAllowed : Bool) : c.skip true keyAllowed = (c, keyAllowed) := by
  obtain ⟨hblank, hbreak⟩ := Bool.or_eq_false_iff.1 hx
  have hcol : (c.col == 0) = false := beq_eq_false_iff_ne.2 (Nat.ne_of_gt hcol)
  have hstart : c.startsWith '#' = false := by
    rw [Cursor.startsWith, hc, List.head?_cons, beq_eq_false_iff_ne]
    exact fun he => hcomment (Option.some.inj he)
  have hpass : c.passWhile (fun x => x == ' ' || ((true || !keyAllowed) && x == '\t')) = c := by
    rw [Cursor.passWhile, hc, List.takeWhile_cons_of_neg]
    · exact Cursor.pass_zero c
    · rw [Bool.true_or, Bool.true_and, Bool.not_eq_true]
      exact hblank
  have hat : c.atBreak = false := by
    rw [Cursor.atBreak, hc]
    exact hbreak
  unfold Cursor.skip Cursor.skipWithin
  simp only [hcol, Bool.false_and, Bool.false_eq_true, if_false, hpass, hstart, hat]

/-- In front of a token within brackets nothing is passed. -/
theorem approach?_inside (h : Inside (depth + 1) ts (x :: s) l) (hx : isBlankOrBreak x = false)
    (hcomment : x ≠ '#') :
    ∃ l', l.approach? = some l' ∧ Inside (depth + 1) ts (x :: s) l' ∧ l'.cursor = l.cursor ∧
      l'.keyAllowed = l.keyAllowed ∧
      ∀ k, l.candidate = some k → l.cursor.line ≤ k.line → l.cursor.index ≤ k.index + maxKey →
        l'.candidate = some k := by
  obtain ⟨k, hk, hreq⟩ := keep?_optional h.candidate l.cursor
  obtain ⟨ks, hks, hlen, hreqs⟩ := mapM_keep? h.outer l.cursor
  have hskip := skip_here h.rest h.col hx hcomment l.keyAllowed
  have hin : Inside (depth + 1) ts (x :: s) { l with candidate := k, outer := ks } :=
    { rest := h.rest, col := h.col, tokens := h.tokens, blocks := h.blocks
      depth := hlen.trans h.depth, candidate := hreq, outer := hreqs }
  refine ⟨{ l with candidate := k, outer := ks }, ?_, hin, rfl, rfl, fun k' hk' hline hindex => ?_⟩
  · unfold Lexer.approach?
    rw [h.inFlow, hskip]
    simp only [Lexer.dropStale?, hk, hks, Option.map_some, Lexer.closeBlocks, hin.inFlow, if_true]
  · rw [hk', keep?_near hline hindex] at hk
    exact (Option.some.inj hk).symm

/-- One token within brackets. -/
theorem lexes_token (h : Inside (depth + 1) ts (x :: s) l) (hx : isBlankOrBreak x = false)
    (hcomment : x ≠ '#') {P : Lexer → Prop}
    (ht : ∀ l', Inside (depth + 1) ts (x :: s) l' → l'.cursor = l.cursor →
      l'.keyAllowed = l.keyAllowed →
      (∀ k, l.candidate = some k → l.cursor.line ≤ k.line → l.cursor.index ≤ k.index + maxKey →
        l'.candidate = some k) → ∃ l'', l'.token? x s = some l'' ∧ P l'') :
    ∃ l', Lexes 1 l l' ∧ P l' := by
  obtain ⟨l', hl', hin, hcursor, hkey, hnear⟩ := approach?_inside h hx hcomment
  obtain ⟨l'', ht, hp⟩ := ht l' hin hcursor hkey hnear
  refine ⟨l'', fun fuel => ?_, hp⟩
  rw [Lexer.run?, hl']
  simp only [hin.rest, ht]
  rfl

/-- Giving up a candidate that is not required. -/
theorem Inside.dropCandidate? (h : Inside depth ts s l) :
    l.dropCandidate? = some { l with candidate := none } := by
  rw [Lexer.dropCandidate?, Lexer.abandon?, h.candidate]
  rfl

/-- Behind some text with further tokens. -/
theorem Inside.pass {w : List Char} (h : Inside depth ts (w ++ s) l) (t : Token) :
    Inside depth (t :: ts) s (l.take w.length t) :=
  { rest := Cursor.pass_rest h.rest
    col := Nat.lt_of_lt_of_le h.col (Nat.le_add_right _ _)
    tokens := congrArg (t :: ·) h.tokens, blocks := h.blocks, depth := h.depth
    candidate := h.candidate, outer := h.outer }

/-- Which token a character starts that has its meaning within brackets only. -/
theorem token?_inside (h : Inside (depth + 1) ts (x :: s) l) :
    l.token? ',' s = l.flowEntry? ∧ l.token? ':' s = l.value? ∧
      l.token? '[' s = l.openFlow? .flowSeqStart ∧ l.token? ']' s = l.closeFlow? .flowSeqEnd ∧
      l.token? '\x7d' s = l.closeFlow? .flowMappingEnd ∧
      l.token? '"' s =
        l.node? fun c => (quoted? true c).map fun (text, c) => (.scalar .quoted text, c) := by
  have hmark := Cursor.isAnyMark_of_col h.col
  rw [Cursor.isAnyMark, Bool.or_eq_false_iff] at hmark
  unfold Lexer.token?
  simp only [hmark, h.inFlow]
  simp

theorem Inside.withKey (h : Inside depth ts s l) {k : Option Candidate}
    (hk : k.any Candidate.required = false) (keyAllowed : Bool) :
    Inside depth ts s { l with candidate := k, keyAllowed } :=
  { h with candidate := hk }

theorem lexes_comma (h : Inside (depth + 1) ts (',' :: s) l) :
    ∃ l', Lexes 1 l l' ∧ Inside (depth + 1) (.flowEntry :: ts) s l' ∧ l'.keyAllowed = true := by
  refine lexes_token h (by decide) (by decide) fun l hin _ _ _ => ?_
  rw [(token?_inside hin).1, Lexer.flowEntry?, hin.dropCandidate?]
  exact ⟨_, rfl, (hin.pass (w := [',']) .flowEntry).withKey rfl true, rfl⟩

theorem lexes_open (h : Inside (depth + 1) ts ('[' :: s) l) (hkey : l.keyAllowed = false) :
    ∃ l', Lexes 1 l l' ∧ Inside (depth + 2) (.flowSeqStart :: ts) s l' ∧ l'.keyAllowed = true := by
  refine lexes_token h (by decide) (by decide) fun l hin _ hl _ => ?_
  have hno : l.mayBeKey? = some l := by rw [Lexer.mayBeKey?, hl, hkey]; rfl
  rw [(token?_inside hin).2.2.1, Lexer.openFlow?, hno]
  have hpass := hin.pass (w := ['[']) .flowSeqStart
  exact ⟨_, rfl, { hpass with
    depth := congrArg (· + 1) hpass.depth, candidate := rfl
    outer := List.forall_mem_cons.2 ⟨hpass.candidate, hpass.outer⟩ }, rfl⟩

/-- A bracket that closes, possibly the outermost. -/
theorem closeFlow?_inside (h : Inside (depth + 1) ts ([x] ++ s) l) (t : Token) :
    ∃ l', l.closeFlow? t = some l' ∧ Inside depth (t :: ts) s l' := by
  rw [Lexer.closeFlow?, h.dropCandidate?]
  have hpass := h.pass t
  cases ho : l.outer with
  | nil =>
    have hd := h.depth
    rw [ho] at hd
    cases hd
  | cons k outer =>
    have hreq := hpass.outer
    have hlen : outer.length + 1 = depth + 1 := by rw [← h.depth, ho]; rfl
    rw [show (l.take [x].length t).outer = k :: outer from ho] at hreq
    obtain ⟨hk, houter⟩ := List.forall_mem_cons.1 hreq
    simp only [Option.map_some]
    exact ⟨_, rfl, { hpass with depth := Nat.succ.inj hlen, candidate := hk, outer := houter }⟩

theorem lexes_close (h : Inside (depth + 2) ts (']' :: s) l) :
    ∃ l', Lexes 1 l l' ∧ Inside (depth + 1) (.flowSeqEnd :: ts) s l' := by
  refine lexes_token h (by decide) (by decide) fun l hin _ _ _ => ?_
  rw [(token?_inside hin).2.2.2.1]
  exact closeFlow?_inside hin _

theorem lexes_end (h : Inside 1 ts ('\x7d' :: s) l) :
    ∃ l', Lexes 1 l l' ∧ Inside 0 (.flowMappingEnd :: ts) s l' := by
  refine lexes_token h (by decide) (by decide) fun l hin _ _ _ => ?_
  rw [(token?_inside hin).2.2.2.2.1]
  exact closeFlow?_inside hin _

/-- A key that may start within brackets does not have to. -/
theorem mayBeKey?_inside (h : Inside (depth + 1) ts s l) :
    ∃ k, l.mayBeKey? = some { l with candidate := k } ∧ k.any Candidate.required = false ∧
      (l.keyAllowed = true →
        k = some ⟨l.cursor.index, l.cursor.line, l.cursor.col, ts.length, false⟩) := by
  by_cases hkey : l.keyAllowed = true
  · have hreq : (!l.inFlow && l.blocks.head? == some l.cursor.col) = false := by rw [h.inFlow]; rfl
    refine ⟨some ⟨l.cursor.index, l.cursor.line, l.cursor.col, ts.length, false⟩, ?_, rfl, fun _ => rfl⟩
    rw [Lexer.mayBeKey?, if_neg (by rw [hkey]; decide), h.dropCandidate?, ← hreq, ← h.tokens]
    rfl
  · refine ⟨l.candidate, ?_, h.candidate, fun hk => absurd hk hkey⟩
    rw [Lexer.mayBeKey?, if_pos (by rw [Bool.eq_false_iff.2 hkey]; rfl)]

theorem lexes_quote {text : List Char} (h : Inside (depth + 1) ts (quote text ++ s) l) :
    ∃ l', Lexes 1 l l' ∧ Inside (depth + 1) (.scalar .quoted text :: ts) s l' ∧
      l'.keyAllowed = false ∧ l'.cursor = l.cursor.pass (quote text).length ∧
      (l.keyAllowed = true → l'.candidate =
        some ⟨l.cursor.index, l.cursor.line, l.cursor.col, ts.length, false⟩) := by
  refine lexes_token (x := '"') h (by decide) (by decide) fun l₁ hin hcursor hkey _ => ?_
  obtain ⟨k, hk, hreq, hkept⟩ := mayBeKey?_inside hin
  have hread := quoted?_quote hin.col hin.rest
  rw [(token?_inside hin).2.2.2.2.2, Lexer.node?, hk]
  simp only [hread, Option.map_some]
  refine ⟨_, rfl, (hin.pass (.scalar .quoted text)).withKey hreq false, rfl, ?_, fun hallowed => ?_⟩
  · rw [hcursor]
  · rw [← hcursor]
    exact hkept (hkey.trans hallowed)

/-- The colon behind a key that is not far. -/
theorem lexes_colon {t : Token} (h : Inside (depth + 1) (t :: ts) (':' :: s) l) {k : Candidate}
    (hk : l.candidate = some k) (htokens : k.tokens = ts.length) (hline : l.cursor.line ≤ k.line)
    (hindex : l.cursor.index ≤ k.index + maxKey) :
    ∃ l', Lexes 1 l l' ∧ Inside (depth + 1) (.value :: t :: .key :: ts) s l' ∧
      l'.keyAllowed = false := by
  refine lexes_token h (by decide) (by decide) fun l₁ hin _ _ hnear => ?_
  have hlater : l₁.tokens.length - k.tokens = 1 := by
    rw [hin.tokens, htokens, List.length_cons]
    omega
  have hinsert : l₁.insert k.tokens .key = { l₁ with tokens := t :: .key :: ts } := by
    rw [Lexer.insert, hlater, hin.tokens]
    rfl
  have hopen : Lexer.openBlock { l₁ with tokens := t :: .key :: ts } k.col k.tokens .blockMappingStart =
      { l₁ with tokens := t :: .key :: ts } := by
    have hflow : Lexer.inFlow { l₁ with tokens := t :: .key :: ts } = true := hin.inFlow
    rw [Lexer.openBlock, hflow]
    rfl
  have hin' : Inside (depth + 1) (t :: .key :: ts) ([':'] ++ s) { l₁ with tokens := t :: .key :: ts } :=
    { hin with tokens := rfl }
  rw [(token?_inside hin).2.1, Lexer.value?, hnear k hk hline hindex]
  simp only [hinsert, hopen]
  exact ⟨_, rfl, (hin'.pass .value).withKey rfl false, rfl⟩

/-- A key: a text and its colon. -/
theorem lexes_key {name : List Char} (h : Inside (depth + 1) ts (quote name ++ ':' :: s) l)
    (hallowed : l.keyAllowed = true) (hname : octets (quote name) ≤ maxKey) :
    ∃ l', Lexes 2 l l' ∧
      Inside (depth + 1) (.value :: .scalar .quoted name :: .key :: ts) s l' ∧
      l'.keyAllowed = false := by
  obtain ⟨l₁, hl₁, hin₁, -, hcursor, hkept⟩ := lexes_quote h
  obtain ⟨l₂, hl₂, hin₂, hkey⟩ := lexes_colon hin₁ (hkept hallowed) rfl
    (by rw [hcursor]; exact Nat.le_refl _)
    (by rw [hcursor, Cursor.pass_index h.rest]; exact Nat.add_le_add_left hname _)
  exact ⟨l₂, hl₁.trans hl₂, hin₂, hkey⟩

/-! ## Words -/

/-- Digits, the letters of ASCII and the minus sign, of which words are made that need no quotes. -/
def isBare (c : Char) : Bool :=
  let n := c.toNat
  n == 45 || (48 ≤ n && n ≤ 57) || (65 ≤ n && n ≤ 90) || (97 ≤ n && n ≤ 122)

theorem beq_of_isBare {c d : Char} (hc : isBare c = true) (hd : isBare d = false) :
    (c == d) = false := by
  refine beq_eq_false_iff_ne.2 ?_
  rintro rfl
  rw [hc] at hd
  cases hd

theorem range_of_isBare {c : Char} (hc : isBare c = true) : 0x21 ≤ c.toNat ∧ c.toNat ≤ 0x7E := by
  simp only [isBare, Bool.or_eq_true, Bool.and_eq_true, decide_eq_true_eq, beq_iff_eq] at hc
  omega

theorem not_blank_of_isBare {c : Char} (hc : isBare c = true) : isBlankOrBreak c = false :=
  not_blank_of_range (range_of_isBare hc)

theorem not_mark_of_isBare {c : Char} (hc : isBare c = true) {marks : List Char}
    (hmarks : marks.any isBare = false) : marks.contains c = false := by
  rw [← Bool.not_eq_true, List.contains_iff_mem]
  intro hmem
  exact absurd hc (List.any_eq_false.1 hmarks c hmem)

/-- A word that ends with a comma. -/
theorem plainPart?_word {w : List Char} (hw : ∀ c ∈ w, isBare c = true) (s : List Char) :
    plainPart? true (w ++ ',' :: s) = some w := by
  induction w with
  | nil => rfl
  | cons c w ih =>
    obtain ⟨hc, hw⟩ := List.forall_mem_cons.1 hw
    have hflow : isFlowMark c = false := not_mark_of_isBare hc (by decide)
    rw [List.cons_append, plainPart?, not_blank_of_isBare hc, beq_of_isBare hc (by decide), hflow,
      ih hw]
    rfl

theorem startsPlain_word (hx : isBare x = true) (hs : isBlankOrEnd s = false) :
    startsPlain true (x :: s) = true := by
  have hmarks : isFlowMark x = false := not_mark_of_isBare hx (by decide)
  have hsigns : "#&*!|>'\"%@\x60".toList.contains x = false := not_mark_of_isBare hx (by decide)
  unfold startsPlain
  split
  · next he => cases he
  · next he =>
    cases he
    cases s with
    | nil => cases hs
    | cons y s =>
      have hy : isSpaceOrTab y = false := (Bool.or_eq_false_iff.1 hs).1
      rw [List.head?_cons, Option.any_some, hy]
      rfl
  · next he =>
    cases he
    cases hx
  · next he =>
    cases he
    cases hx
  · next he =>
    cases he
    rw [not_blank_of_isBare hx, hmarks, hsigns]
    rfl

/-- A word is no sign, unless it is one by itself. -/
theorem token?_word (h : Inside (depth + 1) ts (x :: s) l) (hx : isBare x = true)
    (hs : isBlankOrEnd s = false) : l.token? x s = l.plainScalar? := by
  have hmark := Cursor.isAnyMark_of_col h.col
  rw [Cursor.isAnyMark, Bool.or_eq_false_iff] at hmark
  have hne {d : Char} (hd : isBare d = false) := beq_of_isBare hx hd
  unfold Lexer.token?
  simp only [hmark, h.inFlow, hs, startsPlain_word hx hs, @hne '%' (by decide), @hne '[' (by decide),
    @hne ']' (by decide), @hne '\x7b' (by decide), @hne '\x7d' (by decide), @hne ',' (by decide),
    @hne '?' (by decide), @hne ':' (by decide), @hne '*' (by decide), @hne '&' (by decide),
    @hne '!' (by decide), @hne '|' (by decide), @hne '>' (by decide), @hne '\'' (by decide),
    @hne '"' (by decide)]
  simp

/-- The word that stands here, up to a comma. -/
theorem plain?_word {w : List Char} (hw : ∀ c ∈ w, isBare c = true) (hne : w ≠ []) (hcol : 0 < c.col)
    (hc : c.rest = w ++ ',' :: s) (margin : Nat) :
    plain? true margin c = some ⟨w, c.pass w.length, false⟩ := by
  have hstart : c.startsWith '#' = false := by
    obtain ⟨x, w, rfl⟩ := List.exists_cons_of_ne_nil hne
    have hx := beq_of_isBare (hw x List.mem_cons_self) (show isBare '#' = false by decide)
    rw [Cursor.startsWith, hc]
    exact hx
  have hbehind : (c.pass w.length).rest = ',' :: s := Cursor.pass_rest hc
  rw [plain?, plainWithin, Cursor.isAnyMark_of_col hcol, hstart, hc, plainPart?_word hw]
  obtain ⟨x, v, rfl⟩ := List.exists_cons_of_ne_nil hne
  simp only [hbehind, Bool.or_self, Bool.false_eq_true, if_false]
  rfl

theorem lexes_word {w : List Char} (h : Inside (depth + 1) ts (w ++ ',' :: s) l)
    (hw : ∀ c ∈ w, isBare c = true) (hne : w ≠ []) :
    ∃ l', Lexes 1 l l' ∧ Inside (depth + 1) (.scalar .plain w :: ts) (',' :: s) l' := by
  obtain ⟨x, v, rfl⟩ := List.exists_cons_of_ne_nil hne
  obtain ⟨hx, hv⟩ := List.forall_mem_cons.1 hw
  have hbehind : isBlankOrEnd (v ++ ',' :: s) = false := by
    cases v with
    | nil => rfl
    | cons y v => exact not_blank_of_isBare (hv y List.mem_cons_self)
  have hcomment : x ≠ '#' := beq_eq_false_iff_ne.1 (beq_of_isBare hx (by decide))
  refine lexes_token h (not_blank_of_isBare hx) hcomment fun l₁ hin _ _ _ => ?_
  obtain ⟨k, hk, hreq, -⟩ := mayBeKey?_inside hin
  have hflow : Lexer.inFlow { l₁ with candidate := k } = true := hin.inFlow
  have hread := plain?_word hw hne hin.col hin.rest
  rw [token?_word hin hx hbehind, Lexer.plainScalar?, hk]
  simp only [hflow, hread, Option.map_some]
  exact ⟨_, rfl, (hin.pass (.scalar .plain (x :: v))).withKey hreq false⟩

/-! ## Values and entries -/

/-- What a name may stand for: a text, a word that needs no quotes, or several texts. -/
inductive Value where
  | text (t : List Char)
  | word (w : List Char)
  | texts (l : List (List Char))

namespace Value

def write : Value → List Char
  | .text t => quote t
  | .word w => w
  | .texts l => '[' :: (l.flatMap fun t => quote t ++ [',']) ++ [']']

def tokens : Value → List Token
  | .text t => [.scalar .quoted t]
  | .word w => [.scalar .plain w]
  | .texts l => .flowSeqStart :: (l.flatMap fun t => [.scalar .quoted t, .flowEntry]) ++ [.flowSeqEnd]

def node : Value → Yaml
  | .text t => .scalar .quoted none t
  | .word w => .scalar .plain none w
  | .texts l => .seq (l.map fun t => .scalar .quoted none t)

/-- Words are words. -/
def IsSound : Value → Prop
  | .word w => w ≠ [] ∧ ∀ c ∈ w, isBare c = true
  | _ => True

end Value

/-- A name with what it stands for. -/
abbrev Entry := List Char × Value

namespace Entry

def write (e : Entry) : List Char := quote e.1 ++ ':' :: e.2.write ++ [',']

def tokens (e : Entry) : List Token :=
  .key :: .scalar .quoted e.1 :: .value :: e.2.tokens ++ [.flowEntry]

def node (e : Entry) : Yaml × Yaml := (.scalar .quoted none e.1, e.2.node)

/-- The name is not too long for a key. -/
def IsSound (e : Entry) : Prop := octets (quote e.1) ≤ maxKey ∧ e.2.IsSound

end Entry

/-- A mapping on one line. -/
def text (es : List Entry) : List Char := '\x7b' :: es.flatMap Entry.write ++ ['\x7d']

theorem lexes_texts (texts : List (List Char))
    (h : Inside (depth + 1) ts ((texts.flatMap fun t => quote t ++ [',']) ++ s) l) :
    ∃ n ≤ (texts.flatMap fun t => quote t ++ [',']).length, ∃ l', Lexes n l l' ∧
      Inside (depth + 1)
        ((texts.flatMap fun t => [Token.scalar .quoted t, .flowEntry]).reverse ++ ts) s l' := by
  induction texts generalizing l ts with
  | nil => exact ⟨0, Nat.le_refl 0, l, fun _ => rfl, h⟩
  | cons t texts ih =>
    rw [List.flatMap_cons, List.append_assoc, List.append_assoc] at h
    obtain ⟨l₁, hl₁, hin₁, -⟩ := lexes_quote h
    obtain ⟨l₂, hl₂, hin₂, -⟩ := lexes_comma hin₁
    obtain ⟨n, hn, l₃, hl₃, hin₃⟩ := ih hin₂
    refine ⟨_, ?_, l₃, (hl₁.trans hl₂).trans hl₃, ?_⟩
    · have := length_quote t
      rw [List.flatMap_cons, List.length_append, List.length_append, List.length_singleton]
      omega
    · rw [List.flatMap_cons, List.reverse_append, List.append_assoc]
      exact hin₃

theorem lexes_value (v : Value) (hv : v.IsSound)
    (h : Inside (depth + 1) ts (v.write ++ ',' :: s) l) (hkey : l.keyAllowed = false) :
    ∃ n ≤ v.write.length, ∃ l', Lexes n l l' ∧
      Inside (depth + 1) (v.tokens.reverse ++ ts) (',' :: s) l' := by
  cases v with
  | text t =>
    obtain ⟨l', hl, hin, -⟩ := lexes_quote h
    exact ⟨1, Nat.le_of_succ_le (length_quote t), l', hl, hin⟩
  | word w =>
    obtain ⟨hne, hw⟩ := hv
    obtain ⟨l', hl, hin⟩ := lexes_word h hw hne
    exact ⟨1, List.length_pos_iff.2 hne, l', hl, hin⟩
  | texts texts =>
    have hsplit : (Value.texts texts).write ++ ',' :: s =
        '[' :: ((texts.flatMap fun t => quote t ++ [',']) ++ ']' :: ',' :: s) := by
      simp only [Value.write, List.cons_append, List.append_assoc, List.nil_append]
    rw [hsplit] at h
    obtain ⟨l₁, hl₁, hin₁, -⟩ := lexes_open h hkey
    obtain ⟨n, hn, l₂, hl₂, hin₂⟩ := lexes_texts texts hin₁
    obtain ⟨l₃, hl₃, hin₃⟩ := lexes_close hin₂
    refine ⟨_, ?_, l₃, (hl₁.trans hl₂).trans hl₃, ?_⟩
    · rw [Value.write, List.length_append, List.length_cons, List.length_singleton]
      omega
    · simpa only [Value.tokens, List.reverse_append, List.reverse_cons, List.reverse_nil,
        List.nil_append, List.cons_append, List.append_assoc] using hin₃

theorem lexes_entries (es : List Entry) (hes : ∀ e ∈ es, e.IsSound)
    (h : Inside (depth + 1) ts (es.flatMap Entry.write ++ s) l) (hkey : l.keyAllowed = true) :
    ∃ n ≤ (es.flatMap Entry.write).length, ∃ l', Lexes n l l' ∧
      Inside (depth + 1) ((es.flatMap Entry.tokens).reverse ++ ts) s l' := by
  induction es generalizing l ts with
  | nil => exact ⟨0, Nat.le_refl 0, l, fun _ => rfl, h⟩
  | cons e es ih =>
    obtain ⟨⟨hname, hv⟩, hes⟩ := List.forall_mem_cons.1 hes
    have hsplit : (e :: es).flatMap Entry.write ++ s =
        quote e.1 ++ ':' :: (e.2.write ++ ',' :: (es.flatMap Entry.write ++ s)) := by
      simp only [List.flatMap_cons, Entry.write, List.append_assoc, List.cons_append, List.nil_append]
    rw [hsplit] at h
    obtain ⟨l₁, hl₁, hin₁, hkey₁⟩ := lexes_key h hkey hname
    obtain ⟨m, hm, l₂, hl₂, hin₂⟩ := lexes_value e.2 hv hin₁ hkey₁
    obtain ⟨l₃, hl₃, hin₃, hkey₃⟩ := lexes_comma hin₂
    obtain ⟨n, hn, l₄, hl₄, hin₄⟩ := ih hes hin₃ hkey₃
    refine ⟨_, ?_, l₄, ((hl₁.trans hl₂).trans hl₃).trans hl₄, ?_⟩
    · have := length_quote e.1
      rw [List.flatMap_cons, Entry.write]
      simp only [List.length_append, List.length_cons, List.length_nil]
      omega
    · simpa only [List.flatMap_cons, Entry.tokens, List.reverse_append, List.reverse_cons,
        List.reverse_nil, List.nil_append, List.cons_append, List.append_assoc] using hin₄

/-! ## Characters -/

theorem all_isAllowed_text (es : List Entry) (hes : ∀ e ∈ es, e.IsSound) :
    (text es).all isAllowed = true := by
  have hvalue (v : Value) (hv : v.IsSound) : v.write.all isAllowed = true := by
    cases v with
    | text t => exact all_isAllowed_quote t
    | word w => exact List.all_eq_true.2 fun c hc => isAllowed_of_range (range_of_isBare (hv.2 c hc))
    | texts l =>
      have hitem (t : List Char) : (quote t ++ [',']).all isAllowed = true := by
        rw [List.all_append, all_isAllowed_quote]
        rfl
      have hitems : (l.flatMap fun t => quote t ++ [',']).all isAllowed = true := by
        rw [List.all_flatMap]
        exact List.all_eq_true.2 fun t _ => hitem t
      rw [Value.write, List.all_append, List.all_cons, hitems]
      rfl
  have hentries : (es.flatMap Entry.write).all isAllowed = true := by
    rw [List.all_flatMap]
    refine List.all_eq_true.2 fun e he => ?_
    rw [Entry.write, List.all_append, List.all_append, List.all_cons, all_isAllowed_quote,
      hvalue e.2 (hes e he).2]
    rfl
  rw [text, List.all_append, List.all_cons, hentries]
  rfl

/-! ## The tokens of a mapping -/

/-- The bracket at the start of a text. -/
theorem lexes_start (s : List Char) :
    ∃ l, Lexes 1 (.ofText ('\x7b' :: s)) l ∧ Inside 1 [.flowMappingStart] s l ∧ l.keyAllowed = true := by
  refine ⟨⟨(Cursor.ofText ('\x7b' :: s)).pass 1, [.flowMappingStart], [], none,
    [some ⟨0, 0, 0, 0, false⟩], true⟩, fun fuel => rfl, ⟨rfl, Nat.one_pos, rfl, rfl, rfl, rfl, ?_⟩, rfl⟩
  intro k hk
  rw [List.mem_singleton.1 hk]
  rfl

/-- Nothing is left. -/
theorem run?_end (h : Inside 0 ts [] l) (fuel : Nat) : l.run? (fuel + 1) = some ts.reverse := by
  have hout : l.outer = [] := List.eq_nil_of_length_eq_zero h.depth
  have hflow : l.inFlow = false := by rw [Lexer.inFlow, hout]; rfl
  have hstart (x : Char) : l.cursor.startsWith x = false := by rw [Cursor.startsWith, h.rest]; rfl
  have hpass (p : Char → Bool) : l.cursor.passWhile p = l.cursor := by
    rw [Cursor.passWhile, h.rest]
    exact Cursor.pass_zero _
  have hat : l.cursor.atBreak = false := by rw [Cursor.atBreak, h.rest]; rfl
  have hskip : l.cursor.skip false l.keyAllowed = (l.cursor, l.keyAllowed) := by
    unfold Cursor.skip Cursor.skipWithin
    simp only [hstart, Bool.and_false, Bool.false_eq_true, if_false, hpass, hat]
  obtain ⟨k, hk, hreq⟩ := keep?_optional h.candidate l.cursor
  have hend : Inside 0 ts [] { l with candidate := k } := { h with candidate := hreq }
  have hclose (least : Nat) :
      Lexer.closeBlocks { l with candidate := k } least = { l with candidate := k } := by
    have hflow : Lexer.inFlow { l with candidate := k } = false := hflow
    rw [Lexer.closeBlocks, hflow, if_neg Bool.false_ne_true]
    simp only [h.blocks, Lexer.closeColumns]
  have hks : l.outer.mapM (Lexer.keep? l.cursor) = some l.outer := by rw [hout]; rfl
  have happroach : l.approach? = some { l with candidate := k } := by
    unfold Lexer.approach?
    rw [hflow, hskip]
    simp only [Lexer.dropStale?, hk, hks, Option.map_some, hclose]
  rw [Lexer.run?, happroach]
  simp only [h.rest]
  rw [hclose, hend.dropCandidate?]
  exact congrArg (fun ts => some ts.reverse) h.tokens

theorem tokens?_text (es : List Entry) (hes : ∀ e ∈ es, e.IsSound) :
    tokens? (text es) = some (.flowMappingStart :: es.flatMap Entry.tokens ++ [.flowMappingEnd]) := by
  have hsplit : text es = '\x7b' :: (es.flatMap Entry.write ++ ['\x7d']) := rfl
  obtain ⟨l₁, hl₁, hin₁, hkey₁⟩ := lexes_start (es.flatMap Entry.write ++ ['\x7d'])
  obtain ⟨n, hn, l₂, hl₂, hin₂⟩ := lexes_entries es hes hin₁ hkey₁
  obtain ⟨l₃, hl₃, hin₃⟩ := lexes_end hin₂
  have hlen : ∃ spare, (text es).length + 1 = spare + 1 + (1 + (n + 1)) := by
    refine ⟨(text es).length + 1 - (n + 3), ?_⟩
    rw [hsplit, List.length_cons, List.length_append, List.length_singleton]
    omega
  obtain ⟨spare, hspare⟩ := hlen
  rw [tokens?, all_isAllowed_text es hes, if_pos rfl, hspare, hsplit]
  rw [((hl₁.trans hl₂).trans hl₃) (spare + 1), run?_end hin₃]
  simp

end PushRelay.Yaml.Flow
