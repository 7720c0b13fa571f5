import PushRelay.Proofs.Channel.Steps
import PushRelay.Proofs.Ids.Source

/-!
# The sign of an id

An id has 42 bits for the time since the epoch, and the uppermost is its sign.  A reading of the clock can
be too early or too late for them: only one that is `Dated` leaves the sign clear.

    MadeAt worker ms id → (id < 0 ↔ ¬ Dated ms)                                       (MadeAt.neg_iff)

One id of the worker 0 is zero: the first one at a reading that begins a span of dates.

    e.2 = 0 ↔ Outset e.1 ∧ worker = 0 ∧ e.1 ∉ pre.map Prod.fst                       (sign_of_issued)

`Tallies g es` ties the sequence number of a generator to the ids `es` that it has given out.  Unlike
`Remembers` it holds at all readings, also at those that ids have no room for.
-/

namespace PushRelay

namespace Snowflake

/-! ## Dates -/

/-- What the clock can read: milliseconds that a signed 64-bit integer can hold in nanoseconds. -/
def Readable (ms : Int) : Prop := 0 ≤ ms ∧ ms ≤ Numeral.int64Max / milliNanos

/-- The first reading at which the bits of the time are all zero, or the second. -/
def Outset (ms : Int) : Prop := ms = epoch ∨ ms = epoch + 0x40000000000

/-- The bits of the time are those of a number that is not negative: the reading is in the years 2014 to
2083, or 2153 to 2223. -/
def Dated (ms : Int) : Prop :=
  epoch ≤ ms ∧ ms < epoch + 0x20000000000 ∨
    epoch + 0x40000000000 ≤ ms ∧ ms < epoch + 0x60000000000

instance (ms : Int) : Decidable (Readable ms) := inferInstanceAs (Decidable (_ ∧ _))

instance (ms : Int) : Decidable (Outset ms) := inferInstanceAs (Decidable (_ ∨ _))

instance (ms : Int) : Decidable (Dated ms) := inferInstanceAs (Decidable (_ ∧ _ ∨ _ ∧ _))

section Parts

variable {ms : Int} {worker sequence : Nat}

theorem stamp_nonneg_iff (h : Readable ms) : 0 ≤ stamp ms ↔ Dated ms := by
  obtain ⟨hlow, hhigh⟩ := h
  simp only [Numeral.int64Max, milliNanos] at hhigh
  unfold stamp Dated epoch
  rw [Int.bmod_def]
  split <;> omega

theorem stamp_eq_zero_iff (h : Readable ms) : stamp ms = 0 ↔ Outset ms := by
  obtain ⟨hlow, hhigh⟩ := h
  simp only [Numeral.int64Max, milliNanos] at hhigh
  unfold stamp Outset epoch
  rw [Int.bmod_def]
  split <;> omega

/-- The sign of an id is the sign of its time. -/
theorem compose_neg_iff (h : Readable ms) (hw : worker < 1024) (hs : sequence < 4096) :
    compose ms worker sequence < 0 ↔ ¬ Dated ms := by
  rw [← stamp_nonneg_iff h, compose_eq]
  omega

theorem compose_eq_zero_iff (h : Readable ms) (hw : worker < 1024) (hs : sequence < 4096) :
    compose ms worker sequence = 0 ↔ Outset ms ∧ worker = 0 ∧ sequence = 0 := by
  rw [← stamp_eq_zero_iff h, compose_eq]
  omega

end Parts

/-! ## Readings in a row -/

section Readings

variable {g : Snowflake} {now : Int} {es pre post : List (Int × Int)} {e : Int × Int} {rs : List Int}

/-- A generator knows how many ids it has given out at its last reading, and that none was for a later
one. -/
structure Tallies (g : Snowflake) (es : List (Int × Int)) : Prop where
  room : g.sequence ≤ maxSequence
  reached : ∀ e ∈ es, e.1 ≤ g.last
  tally : 0 ≤ g.last → (es.map Prod.fst).count g.last = g.sequence + 1

/-- Nothing has been given out at a reading that is still to come. -/
theorem Tallies.count_eq_zero (h : Tallies g es) (hgt : g.last < now) :
    (es.map Prod.fst).count now = 0 := by
  refine List.count_eq_zero.2 fun hmem => ?_
  obtain ⟨e, he, rfl⟩ := List.mem_map.1 hmem
  exact absurd (h.reached e he) (Int.not_le.2 hgt)

/-- An id tells how many have been given out before it at the same reading. -/
theorem Tallies.id_eq (h : Tallies g es) (hnow : 0 ≤ now) (id : Int) (hid : (g.next now).1 = .ok id) :
    id = compose now g.worker ((es.map Prod.fst).count now) ∧
      (es.map Prod.fst).count now ≤ maxSequence := by
  have hroom := h.room
  have hd := drawn_next g now
  generalize g.next now = out at hid hd
  cases hd with
  | backwards => cases hid
  | exhausted => cases hid
  | again heq hs =>
    cases hid
    subst heq
    rw [h.tally hnow]
    exact ⟨rfl, by omega⟩
  | onward hgt =>
    cases hid
    rw [h.count_eq_zero hgt]
    exact ⟨rfl, Nat.zero_le _⟩

theorem Tallies.step (h : Tallies g es) (hnow : 0 ≤ now) :
    Tallies (g.next now).2 (es ++ granted now (g.next now).1) := by
  have hroom := h.room
  have hd := drawn_next g now
  generalize g.next now = out at hd
  cases hd with
  | backwards => rwa [granted, List.append_nil]
  | exhausted => rwa [granted, List.append_nil]
  | again heq hs =>
    subst heq
    refine ⟨by show g.sequence + 1 ≤ maxSequence; omega, fun e he => ?_, fun hlast => ?_⟩
    · rcases List.mem_append.1 he with he | he
      · exact h.reached e he
      · cases List.mem_singleton.1 he
        exact Int.le_refl _
    · rw [granted, List.map_append, List.count_append, h.tally hlast]
      simp
  | onward hgt =>
    refine ⟨Nat.zero_le _, fun e he => ?_, fun _ => ?_⟩
    · rcases List.mem_append.1 he with he | he
      · exact Int.le_trans (h.reached e he) (Int.le_of_lt hgt)
      · cases List.mem_singleton.1 he
        exact Int.le_refl _
    · rw [granted, List.map_append, List.count_append, h.count_eq_zero hgt]
      simp

theorem tallies_new? {worker : Int} (h : new? worker = .ok g) : Tallies g [] := by
  obtain ⟨-, hlast, hsequence⟩ := new?_ok h
  refine ⟨by rw [hsequence]; exact Nat.zero_le _, by simp, fun hnonneg => ?_⟩
  rw [hlast] at hnonneg
  cases hnonneg

/-- An id is given out at one of the readings. -/
theorem reading_mem_of_issued (g : Snowflake) (rs : List Int) : ∀ e ∈ issued next g rs, e.1 ∈ rs := by
  induction rs generalizing g with
  | nil =>
    intro e he
    cases he
  | cons now rs ih =>
    intro e he
    rw [issued, List.mem_append] at he
    rcases he with he | he
    · cases hout : (g.next now).1 with
      | error cause =>
        rw [hout] at he
        cases he
      | ok id =>
        rw [hout] at he
        rw [List.mem_singleton.1 he]
        exact List.mem_cons_self
    · exact List.mem_cons_of_mem now (ih _ e he)

/-- Each id of a run is put together of its reading, the worker, and the number of ids before it at the
same reading.  `es` are the ids from before the run. -/
theorem Tallies.issued_eq (h : Tallies g es) (hrs : ∀ r ∈ rs, 0 ≤ r)
    (he : issued next g rs = pre ++ e :: post) :
    e.2 = compose e.1 g.worker (((es ++ pre).map Prod.fst).count e.1) ∧
      ((es ++ pre).map Prod.fst).count e.1 ≤ maxSequence := by
  induction rs generalizing g es pre with
  | nil => exact absurd he (by simp [issued])
  | cons now rs ih =>
    have hnow := hrs now List.mem_cons_self
    have hstep := h.step hnow
    have hid := h.id_eq hnow
    have hworker := next_worker g now
    have ih (pre : List (Int × Int)) (he : issued next (g.next now).2 rs = pre ++ e :: post) :=
      ih hstep (fun r hr => hrs r (List.mem_cons_of_mem now hr)) he
    rw [issued] at he
    rw [hworker] at ih
    cases hout : (g.next now).1 with
    | error cause =>
      rw [hout, granted, List.nil_append] at he
      rw [hout, granted, List.append_nil] at ih
      exact ih pre he
    | ok id =>
      rw [hout, granted] at he ih
      cases pre with
      | nil =>
        obtain ⟨rfl, -⟩ := List.cons.inj he
        rw [List.append_nil]
        exact hid id hout
      | cons a pre =>
        obtain ⟨rfl, he'⟩ := List.cons.inj he
        rw [← List.singleton_append, ← List.append_assoc]
        exact ih pre he'

/-- Which ids of a generator are positive, which are negative, and which is zero. -/
theorem sign_of_issued {worker : Int} (h : new? worker = .ok g) (hrs : ∀ r ∈ rs, Readable r)
    (he : issued next g rs = pre ++ e :: post) :
    (e.2 < 0 ↔ ¬ Dated e.1) ∧
      (e.2 = 0 ↔ Outset e.1 ∧ worker = 0 ∧ e.1 ∉ pre.map Prod.fst) := by
  have hread : Readable e.1 := hrs e.1 (reading_mem_of_issued g rs e (he ▸ by simp))
  obtain ⟨hid, hcount⟩ := (tallies_new? h).issued_eq (fun r hr => (hrs r hr).1) he
  obtain ⟨hworker, -, -⟩ := new?_ok h
  rw [List.nil_append] at hid hcount
  rw [maxSequence] at hcount
  have hs : (pre.map Prod.fst).count e.1 < 4096 := by omega
  have hzero : (g.worker : Nat) = 0 ↔ worker = 0 := by omega
  rw [hid, compose_neg_iff hread g.worker.isLt hs, compose_eq_zero_iff hread g.worker.isLt hs, hzero,
    List.count_eq_zero]
  exact ⟨Iff.rfl, Iff.rfl⟩

end Readings

/-! ## The ids of a worker -/

/-- One of the ids of the worker for a reading. -/
def MadeAt (worker ms id : Int) : Prop :=
  ∃ w sequence : Nat, (w : Int) = worker ∧ w < 1024 ∧ sequence < 4096 ∧ id = compose ms w sequence

variable {worker ms now id : Int} {g : Snowflake}

theorem MadeAt.neg_iff (h : MadeAt worker ms id) (hms : Readable ms) : id < 0 ↔ ¬ Dated ms := by
  obtain ⟨w, sequence, -, hw, hs, rfl⟩ := h
  exact compose_neg_iff hms hw hs

theorem MadeAt.outset_of_eq_zero (h : MadeAt worker ms id) (hms : Readable ms) (hid : id = 0) :
    Outset ms ∧ worker = 0 := by
  obtain ⟨w, sequence, rfl, hw, hs, rfl⟩ := h
  obtain ⟨ho, hw, -⟩ := (compose_eq_zero_iff hms hw hs).1 hid
  exact ⟨ho, by rw [hw]; rfl⟩

theorem next_madeAt (hroom : g.sequence ≤ maxSequence) (now : Int) :
    (g.next now).2.sequence ≤ maxSequence ∧
      ∀ id, (g.next now).1 = .ok id → MadeAt g.worker now id := by
  have hd := drawn_next g now
  generalize g.next now = out at hd
  rw [maxSequence] at hroom ⊢
  cases hd with
  | backwards => exact ⟨hroom, by simp⟩
  | exhausted => exact ⟨hroom, by simp⟩
  | again heq hs =>
    rw [maxSequence] at hs
    refine ⟨by show g.sequence + 1 ≤ 4095; omega, fun id hid => ?_⟩
    cases hid
    exact ⟨g.worker, g.sequence + 1, rfl, g.worker.isLt, by omega, rfl⟩
  | onward =>
    refine ⟨Nat.zero_le _, fun id hid => ?_⟩
    cases hid
    exact ⟨g.worker, 0, rfl, g.worker.isLt, by omega, rfl⟩

end Snowflake

namespace IdSource

open Snowflake (MadeAt)

variable {s : IdSource} {worker : Int}

/-- The source gives out ids of the worker by the time of day. -/
def WorksFor (worker : Int) (s : IdSource) : Prop :=
  ∃ g : Snowflake, s = ⟨.snowflake g, .wall⟩ ∧ (g.worker : Int) = worker ∧
    g.sequence ≤ Snowflake.maxSequence

theorem worksFor_snowflake? (h : snowflake? worker .wall = .ok s) : s.WorksFor worker := by
  obtain ⟨g, hg, rfl⟩ := snowflake?_ok h
  exact ⟨g, rfl, (Snowflake.new?_ok hg).1, (Snowflake.remembers_new? hg).room⟩

theorem WorksFor.draw (h : s.WorksFor worker) (now : Int) : (s.draw now).2.WorksFor worker ∧
    ∀ id, (s.draw now).1 = .ok id → MadeAt worker (now / milliNanos) id := by
  obtain ⟨g, rfl, rfl, hroom⟩ := h
  obtain ⟨hroom', hmade⟩ := Snowflake.next_madeAt hroom (now / 1000000)
  have hworker : (((g.next (now / 1000000)).2.worker : Nat) : Int) = g.worker := by
    rw [Snowflake.next_worker]
  exact ⟨⟨_, rfl, hworker, hroom'⟩, hmade⟩

/-- Waiting for an id, if need be, gives one for the time at which the waiting is over. -/
theorem WorksFor.drawWithin (h : s.WorksFor worker) (waits : Nat) (now : Int) :
    (s.drawWithin waits now).2.1.WorksFor worker ∧ ∀ id, (s.drawWithin waits now).1 = .ok id →
      MadeAt worker ((s.drawWithin waits now).2.2 / milliNanos) id := by
  induction waits generalizing s now with
  | zero => exact h.draw now
  | succ waits ih =>
    obtain ⟨hworks, hmade⟩ := h.draw now
    unfold IdSource.drawWithin
    split
    · next hw hd =>
      cases hw
      rw [hd] at hworks
      exact ih hworks (now + 1000000)
    · next hd _ =>
      rw [hd] at hworks hmade
      exact ⟨hworks, hmade⟩

end IdSource

/-- An id that is drawn is one for the time then. -/
theorem Host.worksFor_drawId {h : Host} {worker : Int} (hw : h.ids.WorksFor worker) :
    h.drawId.2.ids.WorksFor worker ∧ ∀ id, h.drawId.1 = .ok id →
      Snowflake.MadeAt worker (h.drawId.2.now / milliNanos) id :=
  hw.drawWithin IdSource.retries h.now

end PushRelay
