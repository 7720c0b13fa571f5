import PushRelay.Ids.Source
import PushRelay.Proofs.Ids.Snowflake

/-!
# Ids of one source

Ids come in ascending order from every generator and every source, whatever their clocks do and through
whichever handles they are drawn; and no two workers make the same id.

    (issued drawFor s draws).Pairwise fun a b => a.2 < b.2                       (issued_ascending)

A source answers as its generator does to the readings of its clock (`answers_drawFor`), so what holds
of generators holds of sources.
-/

namespace PushRelay

/-! ## Workers -/

namespace Snowflake

/-- How a generator that a worker starts with answers readings of its clock. -/
structure Orderly (worker : Int) (g : Snowflake) (rs : List Int) : Prop where
  ascending : (issued next g rs).Pairwise fun a b => a.2 < b.2
  parts : ∀ e ∈ issued next g rs, workerOf e.2 = worker ∧ e.2 >>> (22 : Nat) = e.1 - epoch ∧
    ∃ sequence < 4096, e.2 = (packed e.1 worker.toNat sequence).toInt
  refusals : ∀ pre now post cause, rs = pre ++ now :: post →
    ((answers next g rs)[pre.length]? = some (.error cause) ↔ Refuses (issued next g pre) now cause)
  forgotten : ∀ pre now post cause, rs = pre ++ now :: post →
    (answers next g rs)[pre.length]? = some (.error cause) →
    answers next g (pre ++ post) = (answers next g rs).eraseIdx pre.length

variable {g g' : Snowflake} {worker worker' : Int}

theorem orderly_new? {rs : List Int} (h : new? worker = .ok g) (hrs : ∀ r ∈ rs, Representable r) :
    Orderly worker g rs := by
  obtain ⟨hworker, -, -⟩ := new?_ok h
  have hrun := (remembers_new? h).run hrs
  rw [List.nil_append] at hrun
  refine ⟨hrun.ascending, fun e he => ?_, ?_, ?_⟩
  · obtain ⟨hrep, sequence, hle, hid⟩ := hrun.made e he
    rw [afterDraws_worker] at hid
    rw [maxSequence] at hle
    have hlt := g.worker.isLt
    have hs : sequence < 4096 := by omega
    refine ⟨?_, ?_, sequence, hs, ?_⟩
    · rw [hid, workerOf_compose e.1 hlt hs, hworker]
    · rw [hid, compose_shiftRight hrep hlt hs]
    · rw [hid, ← hworker, Int.toNat_natCast, toInt_packed e.1 hlt hs]
  · rintro pre now post cause rfl
    have hpre := (remembers_new? h).run fun r hr => hrs r (List.mem_append_left _ hr)
    rw [List.nil_append] at hpre
    rw [getElem?_answers, ← hpre.refused_iff (hrs now (by simp)), Option.some_inj]
  · rintro pre now post cause rfl hcause
    exact answers_eraseIdx next (fun _ _ _ => next_refused) hcause

/-- Two workers never make the same id, whatever their clocks read. -/
theorem issued_ne (h : new? worker = .ok g) (h' : new? worker' = .ok g') (hne : worker ≠ worker')
    (rs rs' : List Int) :
    ∀ e ∈ issued next g rs, ∀ e' ∈ issued next g' rs', e.2 ≠ e'.2 := by
  intro e he e' he' heq
  obtain ⟨hworker, -, -⟩ := new?_ok h
  obtain ⟨hworker', -, -⟩ := new?_ok h'
  have hof := workerOf_issued g (remembers_new? h).room rs e he
  have hof' := workerOf_issued g' (remembers_new? h').room rs' e' he'
  rw [heq, hof'] at hof
  omega

end Snowflake

/-! ## Nanoseconds -/

namespace TimeId

/-- An id for a reading.  There always is one. -/
def next (g : TimeId) (now : Int) : Except IdError Int × TimeId :=
  (.ok (g.nextAt now).1, (g.nextAt now).2)

/-- How a generator that has given out nothing answers readings of its clock.  Until it has given out the
greatest 64-bit integer, no reading of 64 bits leads beyond it. -/
structure Counts (rs : List Int) : Prop where
  all : (issued next new rs).map Prod.fst = rs
  ascending : (issued next new rs).Pairwise fun a b => a.2 < b.2
  bounds : ∀ e ∈ issued next new rs, 0 < e.2 ∧ e.1 ≤ e.2
  within : (∀ r ∈ rs, r ≤ Numeral.int64Max) → ∀ e ∈ issued next new rs,
    (∀ e' ∈ issued next new rs, e'.2 < e.2 → e'.2 < Numeral.int64Max) → e.2 ≤ Numeral.int64Max

variable {g : TimeId} {rs : List Int}

theorem lt_nextAt (g : TimeId) (now : Int) :
    g.last < (g.nextAt now).1 ∧ now ≤ (g.nextAt now).1 ∧ (g.nextAt now).2.last = (g.nextAt now).1 := by
  show g.last < (if g.last < now then now else g.last + 1) ∧
    now ≤ (if g.last < now then now else g.last + 1) ∧ _
  split
  · next hlt => exact ⟨hlt, Int.le_refl _, rfl⟩
  · next hle => exact ⟨by omega, by omega, rfl⟩

theorem issued_cons (g : TimeId) (now : Int) (rs : List Int) :
    issued next g (now :: rs) = (now, (g.nextAt now).1) :: issued next (g.nextAt now).2 rs := rfl

theorem map_fst_issued (g : TimeId) (rs : List Int) : (issued next g rs).map Prod.fst = rs := by
  induction rs generalizing g with
  | nil => rfl
  | cons now rs ih => rw [issued_cons, List.map_cons, ih]

/-- An id is greater than all before it, and no less than its reading. -/
theorem lt_issued (g : TimeId) (rs : List Int) :
    ∀ e ∈ issued next g rs, g.last < e.2 ∧ e.1 ≤ e.2 := by
  induction rs generalizing g with
  | nil =>
    intro e he
    cases he
  | cons now rs ih =>
    intro e he
    obtain ⟨hlast, hnow, hnext⟩ := lt_nextAt g now
    rw [issued_cons] at he
    rcases List.mem_cons.1 he with rfl | he
    · exact ⟨hlast, hnow⟩
    · obtain ⟨hlt, hle⟩ := ih (g.nextAt now).2 e he
      exact ⟨by omega, hle⟩

theorem ascending_issued (g : TimeId) (rs : List Int) :
    (issued next g rs).Pairwise fun a b => a.2 < b.2 := by
  induction rs generalizing g with
  | nil => exact List.Pairwise.nil
  | cons now rs ih =>
    obtain ⟨-, -, hnext⟩ := lt_nextAt g now
    rw [issued_cons]
    refine List.pairwise_cons.2 ⟨fun e he => ?_, ih _⟩
    rw [← hnext]
    exact (lt_issued _ rs e he).1

/-- Ids stay in range until the greatest one has been given out. -/
theorem issued_le (hg : g.last < Numeral.int64Max) (hrs : ∀ r ∈ rs, r ≤ Numeral.int64Max) :
    ∀ e ∈ issued next g rs,
      (∀ e' ∈ issued next g rs, e'.2 < e.2 → e'.2 < Numeral.int64Max) → e.2 ≤ Numeral.int64Max := by
  induction rs generalizing g with
  | nil =>
    intro e he
    cases he
  | cons now rs ih =>
    intro e he hfree
    have hnow := hrs now List.mem_cons_self
    obtain ⟨-, -, hnext⟩ := lt_nextAt g now
    rw [issued_cons] at he hfree
    rcases List.mem_cons.1 he with rfl | he
    · unfold nextAt
      split
      · exact hnow
      · exact hg
    · have hlt := (lt_issued _ rs e he).1
      rw [hnext] at hlt
      have hfirst := hfree _ List.mem_cons_self hlt
      exact ih (by rw [hnext]; exact hfirst) (fun r hr => hrs r (List.mem_cons_of_mem now hr)) e he
        fun e' he' => hfree e' (List.mem_cons_of_mem _ he')

theorem counts (rs : List Int) : Counts rs where
  all := map_fst_issued new rs
  ascending := ascending_issued new rs
  bounds := lt_issued new rs
  within := issued_le (by decide)

end TimeId

/-! ## Sources -/

namespace Clock

/-- The readings that draws at the given times of day take. -/
def readings : Clock → List Int → List Int
  | _, [] => []
  | c, now :: nows => (c.read now).1 :: readings (c.read now).2 nows

end Clock

namespace IdSource

/-- A draw at a time of day through one of the handles on a source.  The handles are clones that share one
generator and its lock, so a draw is the same whichever handle it goes through, and which one it was is
not read. -/
def drawFor (s : IdSource) (draw : Nat × Int) : Except IdError Int × IdSource := s.draw draw.2

variable {s : IdSource}

/-- A source answers as its generator does, whoever asks. -/
theorem answers_drawFor_snowflake (g : Snowflake) (c : Clock) (draws : List (Nat × Int)) :
    answers drawFor ⟨.snowflake g, c⟩ draws =
      answers Snowflake.next g (c.readings (draws.map Prod.snd)) := by
  induction draws generalizing g c with
  | nil => rfl
  | cons d draws ih => exact congrArg (_ :: ·) (ih (g.next (c.read d.2).1).2 (c.read d.2).2)

theorem answers_drawFor_time (g : TimeId) (c : Clock) (draws : List (Nat × Int)) :
    answers drawFor ⟨.time g, c⟩ draws = answers TimeId.next g (draws.map Prod.snd) := by
  induction draws generalizing g with
  | nil => rfl
  | cons d draws ih => exact congrArg (_ :: ·) (ih (g.nextAt d.2).2)

/-- The ids are those of the answers. -/
theorem map_snd_issued {σ ε : Type} (next : σ → ε → Except IdError Int × σ) (s : σ) (es : List ε) :
    (issued next s es).map Prod.snd = (answers next s es).filterMap Except.toOption := by
  induction es generalizing s with
  | nil => rfl
  | cons e es ih =>
    rw [issued, answers, List.map_append, ih, List.filterMap_cons]
    cases (next s e).1 <;> rfl

/-- Draws that are answered alike get ids in the same order. -/
theorem ascending_of_answers {σ τ ε δ : Type} {next : σ → ε → Except IdError Int × σ}
    {next' : τ → δ → Except IdError Int × τ} {s : σ} {t : τ} {es : List ε} {ds : List δ}
    (h : answers next s es = answers next' t ds)
    (ht : (issued next' t ds).Pairwise fun a b => a.2 < b.2) :
    (issued next s es).Pairwise fun a b => a.2 < b.2 := by
  have ht : ((issued next' t ds).map Prod.snd).Pairwise (· < ·) := List.pairwise_map.2 ht
  rw [map_snd_issued, ← h, ← map_snd_issued] at ht
  exact List.pairwise_map.1 ht

theorem snowflake?_ok {worker : Int} {c : Clock} (h : snowflake? worker c = .ok s) :
    ∃ g, Snowflake.new? worker = .ok g ∧ s = ⟨.snowflake g, c⟩ := by
  unfold snowflake? at h
  split at h
  · next g hg =>
    cases h
    exact ⟨g, hg, rfl⟩
  · cases h

/-- A source on which nothing has been drawn, and times of day at which its clock reads what ids have
room for. -/
inductive Starts : IdSource → List Int → Prop
  | snowflake {worker : Int} {c : Clock} {s : IdSource} {nows : List Int}
      (h : snowflake? worker c = .ok s) (hread : ∀ r ∈ c.readings nows, Snowflake.Representable r) :
      Starts s nows
  | time (nows : List Int) : Starts time nows

theorem Starts.ascending {draws : List (Nat × Int)} (h : Starts s (draws.map Prod.snd)) :
    (issued drawFor s draws).Pairwise fun a b => a.2 < b.2 := by
  cases h with
  | snowflake hs hread =>
    obtain ⟨g, hg, rfl⟩ := snowflake?_ok hs
    exact ascending_of_answers (answers_drawFor_snowflake g _ draws)
      (Snowflake.orderly_new? hg hread).ascending
  | time =>
    exact ascending_of_answers (answers_drawFor_time .new .wall draws) (TimeId.counts _).ascending

end IdSource

/-! ## All ids -/

/-- Generators of valid workers answer in good order at all readings that ids have room for, in whatever
order they come, and different workers make different ids at all readings.  Generators from nanoseconds
count upwards.  The ids of a source ascend through whichever of its handles they are drawn. -/
theorem issued_ascending :
    (∀ worker g rs, Snowflake.new? worker = .ok g → (∀ r ∈ rs, Snowflake.Representable r) →
      Snowflake.Orderly worker g rs) ∧
    (∀ worker worker' g g' rs rs', Snowflake.new? worker = .ok g → Snowflake.new? worker' = .ok g' →
      worker ≠ worker' →
      ∀ e ∈ issued Snowflake.next g rs, ∀ e' ∈ issued Snowflake.next g' rs', e.2 ≠ e'.2) ∧
    (∀ rs, TimeId.Counts rs) ∧
    ∀ s draws, IdSource.Starts s (draws.map Prod.snd) →
      (issued IdSource.drawFor s draws).Pairwise fun a b => a.2 < b.2 := by
  refine ⟨?_, ?_, TimeId.counts, ?_⟩
  · intro worker g rs h hrs
    exact Snowflake.orderly_new? h hrs
  · intro worker worker' g g' rs rs' h h' hne
    exact Snowflake.issued_ne h h' hne rs rs'
  · intro s draws h
    exact h.ascending

/-- A clock that starts before the epoch, stands still and jumps back once, under two workers; nanoseconds
that stand still and go back; and two handles on one source. -/
theorem issued_ascending_across_jumps :
    let epoch := Snowflake.epoch
    let g : Snowflake := ⟨7, -1, 0⟩
    let rs := [5, epoch + 5, epoch + 5, epoch + 3, epoch + 6]
    let draws : List (Nat × Int) := [(0, 0), (1, 0), (1, 0), (0, 0)]
    let clock := Clock.script [(epoch + 5, 2), (epoch + 3, 1), (epoch + 9, 1)]
    let source : IdSource := ⟨.snowflake g, clock⟩
    ((Snowflake.new? 7 = .ok g ∧ Snowflake.new? 8 = .ok ⟨8, -1, 0⟩ ∧ (7 : Int) ≠ 8) ∧
      (∀ r ∈ rs, Snowflake.Representable r) ∧ IdSource.snowflake? 7 clock = .ok source ∧
      ∀ r ∈ clock.readings (draws.map Prod.snd), Snowflake.Representable r) ∧
    Snowflake.Orderly 7 g rs ∧
    (answers Snowflake.next g rs)[3]? = some (.error (.clockBackwards (epoch + 5) (epoch + 3))) ∧
    (issued Snowflake.next g rs).map Prod.fst = [5, epoch + 5, epoch + 5, epoch + 6] ∧
    (∀ e ∈ issued Snowflake.next g rs, ∀ e' ∈ issued Snowflake.next ⟨8, -1, 0⟩ rs, e.2 ≠ e'.2) ∧
    TimeId.Counts [100, 100, 50, 500] ∧
    (issued IdSource.drawFor source draws).map (·.1.1) = [0, 1, 0] ∧
    (issued IdSource.drawFor source draws).Pairwise fun a b => a.2 < b.2 := by
  intro epoch g rs draws clock source
  have hnew : Snowflake.new? 7 = .ok g := rfl
  have hnew' : Snowflake.new? 8 = .ok ⟨8, -1, 0⟩ := rfl
  have hrs : ∀ r ∈ rs, Snowflake.Representable r := by decide
  have hsource : IdSource.snowflake? 7 clock = .ok source := rfl
  have hread : ∀ r ∈ clock.readings (draws.map Prod.snd), Snowflake.Representable r := by decide
  obtain ⟨horderly, hne, hcounts, hsources⟩ := issued_ascending
  exact ⟨⟨⟨hnew, hnew', by decide⟩, hrs, hsource, hread⟩, horderly 7 g rs hnew hrs, rfl,
    by decide, hne 7 8 g _ rs rs hnew hnew' (by decide), hcounts _, by decide,
    hsources source draws (.snowflake hsource hread)⟩

end PushRelay
