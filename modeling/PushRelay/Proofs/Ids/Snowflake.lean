import PushRelay.Ids.Snowflake

/-!
# Ids of one generator

Whatever the clock does, the ids of a generator ascend, and the bits of an id tell its worker and its
reading.  A refusal has one of two causes (`Refuses`) and is forgotten at once.

    es = issued next g rs → es.Pairwise fun a b => a.2 < b.2                (Remembers.ascending)
    (packed ms worker sequence).toInt = compose ms worker sequence                  (toInt_packed)

`Remembers g es` ties what a generator knows to the ids it has given out, each with its reading.
-/

namespace PushRelay

/-! ## Draws -/

section Draws

variable {σ ε : Type} (next : σ → ε → Except IdError Int × σ) {s : σ} {e : ε} {es pre post : List ε}

/-- The answers to draws, one after the other. -/
def answers : σ → List ε → List (Except IdError Int)
  | _, [] => []
  | s, e :: es => (next s e).1 :: answers (next s e).2 es

/-- A draw with the id it got, if it got one. -/
def granted (e : ε) : Except IdError Int → List (ε × Int)
  | .ok id => [(e, id)]
  | .error _ => []

/-- The draws that got an id, each with its id. -/
def issued : σ → List ε → List (ε × Int)
  | _, [] => []
  | s, e :: es => granted e (next s e).1 ++ issued (next s e).2 es

/-- What gives out ids, after some draws. -/
def afterDraws (s : σ) (es : List ε) : σ := es.foldl (fun s e => (next s e).2) s

theorem answers_append (s : σ) (es fs : List ε) :
    answers next s (es ++ fs) = answers next s es ++ answers next (afterDraws next s es) fs := by
  induction es generalizing s with
  | nil => rfl
  | cons e es ih =>
    rw [List.cons_append, answers, answers, ih]
    rfl

theorem length_answers (s : σ) (es : List ε) : (answers next s es).length = es.length := by
  induction es generalizing s with
  | nil => rfl
  | cons e es ih => rw [answers, List.length_cons, List.length_cons, ih]

/-- The answer to the draw that follows `pre`. -/
theorem getElem?_answers (s : σ) (pre post : List ε) (e : ε) :
    (answers next s (pre ++ e :: post))[pre.length]? =
      some (next (afterDraws next s pre) e).1 := by
  have hlen := length_answers next s pre
  rw [answers_append, List.getElem?_append_right (Nat.le_of_eq hlen), hlen, Nat.sub_self]
  rfl

/-- Where a refusal changes nothing, leaving out a draw that is refused leaves out its answer. -/
theorem answers_eraseIdx {cause : IdError}
    (hidle : ∀ s e cause, (next s e).1 = .error cause → (next s e).2 = s)
    (h : (answers next s (pre ++ e :: post))[pre.length]? = some (.error cause)) :
    answers next s (pre ++ post) = (answers next s (pre ++ e :: post)).eraseIdx pre.length := by
  rw [getElem?_answers] at h
  have hsame := hidle _ e cause (Option.some.inj h)
  have hlen := length_answers next s pre
  rw [answers_append, answers_append, List.eraseIdx_append_of_length_le (Nat.le_of_eq hlen), hlen,
    Nat.sub_self, answers, List.eraseIdx_cons_zero, hsame]

end Draws

namespace Snowflake

/-! ## The parts of an id -/

section Parts

variable {ms ms' : Int} {worker sequence sequence' : Nat}

/-- A reading for which an id has room: the clock is not before 1970, and 42 bits hold the time since
the epoch with its sign. -/
def Representable (ms : Int) : Prop :=
  0 ≤ ms ∧ -0x20000000000 ≤ ms - epoch ∧ ms - epoch < 0x20000000000

instance (ms : Int) : Decidable (Representable ms) :=
  inferInstanceAs (Decidable (_ ∧ _ ∧ _))

/-- The word with the time since the epoch in the upper 42 bits, the worker in the next ten and the
sequence number in the last twelve. -/
def packed (ms : Int) (worker sequence : Nat) : BitVec 64 :=
  BitVec.ofInt 64 (ms - epoch) <<< 22 ||| BitVec.ofNat 64 worker <<< 12 ||| BitVec.ofNat 64 sequence

/-- The time since the epoch, as far as 42 bits hold it. -/
def stamp (ms : Int) : Int := (ms - epoch).bmod 0x40000000000

theorem stamp_eq (h : Representable ms) : stamp ms = ms - epoch := by
  obtain ⟨-, hlow, hhigh⟩ := h
  exact Int.bmod_eq_of_le (by omega) (by omega)

theorem compose_eq (ms : Int) (worker sequence : Nat) :
    compose ms worker sequence = stamp ms * 0x400000 + worker * 0x1000 + sequence := by
  unfold compose stamp
  generalize ms - epoch = d
  rw [Int.bmod_def, Int.bmod_def]
  split <;> split <;> omega

/-- The parts do not overlap, so they may as well be added. -/
theorem toNat_packed (ms : Int) (hw : worker < 1024) (hs : sequence < 4096) :
    (packed ms worker sequence).toNat =
      (BitVec.ofInt 64 (ms - epoch)).toNat % 0x40000000000 * 0x400000 + worker * 0x1000 + sequence := by
  generalize htime : (BitVec.ofInt 64 (ms - epoch)).toNat % 0x40000000000 = time
  have hshift : (BitVec.ofInt 64 (ms - epoch) <<< 22).toNat = time <<< 22 := by
    rw [BitVec.toNat_shiftLeft, Nat.shiftLeft_eq, Nat.shiftLeft_eq]
    omega
  have hworker : (BitVec.ofNat 64 worker <<< 12).toNat = worker <<< 12 := by
    rw [BitVec.toNat_shiftLeft, BitVec.toNat_ofNat, Nat.shiftLeft_eq, Nat.shiftLeft_eq]
    omega
  have hsequence : (BitVec.ofNat 64 sequence).toNat = sequence := by
    rw [BitVec.toNat_ofNat]
    omega
  have hlow : worker <<< 12 + sequence < 2 ^ 22 := by
    rw [Nat.shiftLeft_eq]
    omega
  calc (packed ms worker sequence).toNat
      = time <<< 22 ||| (worker <<< 12 ||| sequence) := by
        rw [packed, BitVec.toNat_or, BitVec.toNat_or, hshift, hworker, hsequence, Nat.or_assoc]
    _ = time <<< 22 + (worker <<< 12 + sequence) := by
        rw [← Nat.shiftLeft_add_eq_or_of_lt hs worker, ← Nat.shiftLeft_add_eq_or_of_lt hlow time]
    _ = time * 0x400000 + worker * 0x1000 + sequence := by
        rw [Nat.shiftLeft_eq, Nat.shiftLeft_eq, Nat.add_assoc]

/-- An id is its word, read with a sign. -/
theorem toInt_packed (ms : Int) (hw : worker < 1024) (hs : sequence < 4096) :
    (packed ms worker sequence).toInt = compose ms worker sequence := by
  rw [BitVec.toInt_eq_toNat_bmod, toNat_packed ms hw hs, BitVec.toNat_ofInt]
  unfold compose
  generalize ms - epoch = d
  rw [Int.bmod_def, Int.bmod_def]
  split <;> split <;> omega

theorem workerOf_compose (ms : Int) (hw : worker < 1024) (hs : sequence < 4096) :
    workerOf (compose ms worker sequence) = worker := by
  rw [compose_eq, workerOf]
  omega

theorem compose_shiftRight (h : Representable ms) (hw : worker < 1024) (hs : sequence < 4096) :
    compose ms worker sequence >>> (22 : Nat) = ms - epoch := by
  rw [compose_eq, stamp_eq h, Int.shiftRight_eq_div_pow]
  omega

theorem compose_lt_of_reading (h : Representable ms) (h' : Representable ms') (hlt : ms < ms')
    (hs : sequence < 4096) : compose ms worker sequence < compose ms' worker sequence' := by
  rw [compose_eq, compose_eq, stamp_eq h, stamp_eq h']
  omega

theorem compose_succ (ms : Int) (worker sequence : Nat) :
    compose ms worker (sequence + 1) = compose ms worker sequence + 1 := by
  rw [compose, compose]
  omega

end Parts

/-! ## One reading -/

variable {g : Snowflake} {now : Int} {cause : IdError} {out : Except IdError Int × Snowflake}
  {es : List (Int × Int)}

/-- What a generator does with a reading. -/
inductive Drawn (g : Snowflake) (now : Int) : Except IdError Int × Snowflake → Prop
  | backwards (hnow : now < g.last) : Drawn g now (.error (.clockBackwards g.last now), g)
  | exhausted (hnow : now = g.last) (hs : g.sequence = maxSequence) :
      Drawn g now (.error (.sequenceExhausted now), g)
  | again (hnow : now = g.last) (hs : g.sequence ≠ maxSequence) :
      Drawn g now (.ok (compose now g.worker (g.sequence + 1)), { g with sequence := g.sequence + 1 })
  | onward (hnow : g.last < now) :
      Drawn g now (.ok (compose now g.worker 0), { g with last := now, sequence := 0 })

theorem drawn_next (g : Snowflake) (now : Int) : Drawn g now (g.next now) := by
  unfold next
  split
  · next hlt => exact .backwards hlt
  · next hle =>
    split
    · next heq =>
      split
      · next hs => exact .exhausted heq hs
      · next hs => exact .again heq hs
    · next hne => exact .onward (by omega)

/-- A refusal changes nothing. -/
theorem next_refused (h : (g.next now).1 = .error cause) : (g.next now).2 = g := by
  have hd := drawn_next g now
  generalize g.next now = out at h hd
  cases hd with
  | backwards => rfl
  | exhausted => rfl
  | again => cases h
  | onward => cases h

theorem next_worker (g : Snowflake) (now : Int) : (g.next now).2.worker = g.worker := by
  have hd := drawn_next g now
  generalize g.next now = out at hd
  cases hd <;> rfl

/-! ## Readings in a row -/

/-- What a generator knows of the ids it has given out: all are below the one it would make of its last
reading and its sequence number, which counts the ids at that reading. -/
structure Remembers (g : Snowflake) (es : List (Int × Int)) : Prop where
  room : g.sequence ≤ maxSequence
  made : ∀ e ∈ es, Representable e.1 ∧ ∃ sequence ≤ maxSequence, e.2 = compose e.1 g.worker sequence
  ascending : es.Pairwise fun a b => a.2 < b.2
  below : ∀ e ∈ es, e.1 ≤ g.last ∧ e.2 ≤ compose g.last g.worker g.sequence
  last : es = [] ∧ g.last = -1 ∨
    (∃ id, es.getLast? = some (g.last, id)) ∧ (es.map Prod.fst).count g.last = g.sequence + 1

/-- Why a reading gets no id, where `es` are the ids so far: it is below the reading of the last one, or
it is the same and 4096 ids have been given out at it. -/
inductive Refuses (es : List (Int × Int)) (now : Int) : IdError → Prop
  | backwards {last id : Int} (hlast : es.getLast? = some (last, id)) (hnow : now < last) :
      Refuses es now (.clockBackwards last now)
  | exhausted {id : Int} (hlast : es.getLast? = some (now, id))
      (hcount : (es.map Prod.fst).count now = 4096) : Refuses es now (.sequenceExhausted now)

theorem Remembers.last_of_getLast? (h : Remembers g es) {last id : Int}
    (hlast : es.getLast? = some (last, id)) :
    last = g.last ∧ (es.map Prod.fst).count g.last = g.sequence + 1 := by
  rcases h.last with ⟨rfl, -⟩ | ⟨⟨id', hlast'⟩, hcount⟩
  · cases hlast
  · cases hlast.symm.trans hlast'
    exact ⟨rfl, hcount⟩

/-- A generator that has given out an id remembers it. -/
theorem Remembers.getLast? (h : Remembers g es) (hnow : Representable now) (hle : now ≤ g.last) :
    (∃ id, es.getLast? = some (g.last, id)) ∧ (es.map Prod.fst).count g.last = g.sequence + 1 := by
  rcases h.last with ⟨-, hfresh⟩ | hlast
  · have := hnow.1
    omega
  · exact hlast

/-- A generator refuses a reading exactly for one of the two causes. -/
theorem Remembers.refused_iff (h : Remembers g es) (hnow : Representable now) :
    (g.next now).1 = .error cause ↔ Refuses es now cause := by
  have hd := drawn_next g now
  generalize g.next now = out at hd
  constructor
  · intro hout
    cases hd with
    | backwards hlt =>
      cases hout
      obtain ⟨⟨id, hlast⟩, -⟩ := h.getLast? hnow (Int.le_of_lt hlt)
      exact .backwards hlast hlt
    | exhausted heq hs =>
      cases hout
      obtain ⟨⟨id, hlast⟩, hcount⟩ := h.getLast? hnow (Int.le_of_eq heq)
      rw [← heq] at hlast hcount
      exact .exhausted hlast (by rw [hcount, hs, maxSequence])
    | again => cases hout
    | onward => cases hout
  · intro hr
    cases hr with
    | backwards hlast hlt =>
      obtain ⟨rfl, -⟩ := h.last_of_getLast? hlast
      cases hd with
      | backwards => rfl
      | exhausted heq => omega
      | again heq => omega
      | onward hgt => omega
    | exhausted hlast hcount =>
      obtain ⟨heq, hseq⟩ := h.last_of_getLast? hlast
      rw [← heq, hcount] at hseq
      cases hd with
      | backwards hlt => omega
      | exhausted => rfl
      | again _ hs => exact absurd (by rw [maxSequence]; omega) hs
      | onward hgt => omega

theorem pairwise_snoc {id : Int} (h : es.Pairwise fun a b => a.2 < b.2) (hid : ∀ e ∈ es, e.2 < id) :
    (es ++ [(now, id)]).Pairwise fun a b => a.2 < b.2 := by
  refine List.pairwise_append.2 ⟨h, List.pairwise_singleton _ _, fun e he a ha => ?_⟩
  rw [List.mem_singleton.1 ha]
  exact hid e he

/-- The next id at the reading of the last one. -/
theorem Remembers.again (h : Remembers g es) (hnow : Representable g.last)
    (hs : g.sequence ≠ maxSequence) :
    Remembers { g with sequence := g.sequence + 1 }
      (es ++ [(g.last, compose g.last g.worker (g.sequence + 1))]) := by
  have hroom := h.room
  have hsucc := compose_succ g.last g.worker g.sequence
  obtain ⟨-, hcount⟩ := h.getLast? hnow (Int.le_refl _)
  refine ⟨?_, ?_, pairwise_snoc h.ascending fun e he => ?_, ?_, Or.inr ⟨⟨_, List.getLast?_concat⟩, ?_⟩⟩
  · show g.sequence + 1 ≤ maxSequence
    omega
  · intro e he
    rcases List.mem_append.1 he with he | he
    · exact h.made e he
    · rw [List.mem_singleton.1 he]
      exact ⟨hnow, g.sequence + 1, by omega, rfl⟩
  · have := (h.below e he).2
    omega
  · intro e he
    rcases List.mem_append.1 he with he | he
    · obtain ⟨hreading, hid⟩ := h.below e he
      refine ⟨hreading, ?_⟩
      show e.2 ≤ compose g.last g.worker (g.sequence + 1)
      omega
    · rw [List.mem_singleton.1 he]
      exact ⟨Int.le_refl _, Int.le_refl _⟩
  · rw [List.map_append, List.count_append, hcount]
    simp

/-- The first id at a new reading. -/
theorem Remembers.onward (h : Remembers g es) (hnow : Representable now) (hgt : g.last < now) :
    Remembers { g with last := now, sequence := 0 } (es ++ [(now, compose now g.worker 0)]) := by
  have hlt : ∀ e ∈ es, e.1 < now ∧ e.2 < compose now g.worker 0 := by
    intro e he
    have hreading := (h.below e he).1
    obtain ⟨hrep, sequence, hle, hid⟩ := h.made e he
    rw [maxSequence] at hle
    rw [hid]
    exact ⟨by omega, compose_lt_of_reading hrep hnow (by omega) (by omega)⟩
  refine ⟨Nat.zero_le _, ?_, pairwise_snoc h.ascending fun e he => (hlt e he).2, ?_,
    Or.inr ⟨⟨_, List.getLast?_concat⟩, ?_⟩⟩
  · intro e he
    rcases List.mem_append.1 he with he | he
    · exact h.made e he
    · rw [List.mem_singleton.1 he]
      exact ⟨hnow, 0, Nat.zero_le _, rfl⟩
  · intro e he
    rcases List.mem_append.1 he with he | he
    · exact ⟨Int.le_of_lt (hlt e he).1, Int.le_of_lt (hlt e he).2⟩
    · rw [List.mem_singleton.1 he]
      exact ⟨Int.le_refl _, Int.le_refl _⟩
  · have hnone : (es.map Prod.fst).count now = 0 := by
      refine List.count_eq_zero.2 fun hmem => ?_
      obtain ⟨e, he, heq⟩ := List.mem_map.1 hmem
      have := (hlt e he).1
      omega
    rw [List.map_append, List.count_append, hnone]
    simp

theorem Remembers.step (h : Remembers g es) (hnow : Representable now) :
    Remembers (g.next now).2 (es ++ granted now (g.next now).1) := by
  have hd := drawn_next g now
  generalize g.next now = out at hd
  cases hd with
  | backwards => rwa [granted, List.append_nil]
  | exhausted => rwa [granted, List.append_nil]
  | again heq hs =>
    subst heq
    exact h.again hnow hs
  | onward hgt => exact h.onward hnow hgt

theorem Remembers.run {rs : List Int} (h : Remembers g es) (hrs : ∀ r ∈ rs, Representable r) :
    Remembers (afterDraws next g rs) (es ++ issued next g rs) := by
  induction rs generalizing g es with
  | nil =>
    rw [issued, List.append_nil]
    exact h
  | cons now rs ih =>
    have hstep := h.step (hrs now List.mem_cons_self)
    rw [issued, ← List.append_assoc]
    exact ih hstep fun r hr => hrs r (List.mem_cons_of_mem now hr)

theorem afterDraws_worker (g : Snowflake) (rs : List Int) :
    (afterDraws next g rs).worker = g.worker := by
  induction rs generalizing g with
  | nil => rfl
  | cons now rs ih => exact (ih (g.next now).2).trans (next_worker g now)

/-- Whatever a generator reads, its ids name its worker. -/
theorem workerOf_issued (g : Snowflake) (hroom : g.sequence ≤ maxSequence) (rs : List Int) :
    ∀ e ∈ issued next g rs, workerOf e.2 = g.worker := by
  induction rs generalizing g with
  | nil =>
    intro e he
    cases he
  | cons now rs ih =>
    intro e he
    have hd := drawn_next g now
    have ih := ih (g.next now).2
    rw [issued, List.mem_append] at he
    generalize g.next now = out at hd ih he
    rw [maxSequence] at hroom ih
    have hworker := g.worker.isLt
    cases hd with
    | backwards => exact ih hroom e (he.resolve_left List.not_mem_nil)
    | exhausted => exact ih hroom e (he.resolve_left List.not_mem_nil)
    | again heq hs =>
      rw [maxSequence] at hs
      rcases he with he | he
      · rw [List.mem_singleton.1 he]
        exact workerOf_compose now hworker (by omega)
      · exact ih (by show g.sequence + 1 ≤ 4095; omega) e he
    | onward hgt =>
      rcases he with he | he
      · rw [List.mem_singleton.1 he]
        exact workerOf_compose now hworker (by omega)
      · exact ih (Nat.zero_le _) e he

theorem new?_ok {worker : Int} (h : new? worker = .ok g) :
    (g.worker : Int) = worker ∧ g.last = -1 ∧ g.sequence = 0 := by
  unfold new? at h
  split at h
  · next hw =>
    cases h
    exact ⟨Int.toNat_of_nonneg hw.1, rfl, rfl⟩
  · cases h

theorem remembers_new? {worker : Int} (h : new? worker = .ok g) : Remembers g [] := by
  obtain ⟨-, hlast, hsequence⟩ := new?_ok h
  exact ⟨by rw [hsequence]; exact Nat.zero_le _, by simp, List.Pairwise.nil, by simp,
    Or.inl ⟨rfl, hlast⟩⟩

end Snowflake

end PushRelay
