import PushRelay.Proofs.Message
import PushRelay.Proofs.Wire.RoundTrip

/-!
# Pushes read back

A client that takes in chunks of what was pushed, cuts off frames while there are any and reads each of them
ends up with what was pushed, in order and with nothing left over.

    chunks.flatten = ms.flatMap (fun m => encodePush m.push.print) →
      (feed decodePush chunks).frames.map Push.parse? = ms.map fun m => some m.push   (pushes_received)
-/

namespace PushRelay.Wire

variable {payload : Bytes} {payloads chunks : List Bytes} {ms : List Message}

/-! ## Frames -/

theorem decodePush_eq : decodePush = andThen (readLength bulkLead) takeBody := by
  funext buf
  rcases hread : readLength bulkLead buf with e | _ | ⟨n, body⟩
  · simp only [decodePush, andThen, hread]
  · simp only [decodePush, andThen, hread]
  · rcases hskip : skipBody n body with e | _ | rest <;>
      simp only [decodePush, andThen, takeBody, hread, hskip]

/-- A push comes across one length line. -/
theorem scans_decodePush : Scans decodePush (lineAt bulkLead) := by
  have hscans := (scans_readLength bulkLead).andThen scans_takeBody
  rw [linesThen_nil, ← decodePush_eq] at hscans
  exact hscans

/-- A push is found in its own octets. -/
theorem framing_decodePush : Framing decodePush where
  idle := rfl
  own := scans_decodePush.own

theorem decodePush_encodePush (h : payload.length < Numeral.wordBound) (rest : Bytes) :
    decodePush (encodePush payload ++ rest) = .ok (some (payload, rest)) := by
  rw [decodePush_eq, encodePush, encodeBulk_append]
  simp only [andThen, readLength_lengthLine h, takeBody_append rfl]

/-- A push is written so that it may come in any chunks. -/
theorem writes_encodePush (h : payload.length < Numeral.wordBound) :
    Writes decodePush encodePush payload where
  back := decodePush_encodePush h
  steady rest := by
    refine scans_decodePush.steady_iff.2 (.inr fun line hline => ?_)
    rw [encodePush, encodeBulk_append, lineAt_lengthLine, List.mem_singleton] at hline
    rw [hline]
    exact length_lengthLine_lt bulkLead h

/-! ## Streams of pushes -/

theorem feed_encodePush (h : ∀ payload ∈ payloads, payload.length < Numeral.wordBound)
    (hc : chunks.flatten = payloads.flatMap encodePush) :
    feed decodePush chunks = ⟨payloads, none, []⟩ :=
  feed_eq_of_outcome (framing_decodePush.outcome_feed_written
    (fun payload hp => writes_encodePush (h payload hp)) hc)

theorem code_lt (g : Group) : g.code < 256 := by cases g <;> decide

/-- Messages that were pushed one after the other are what a client receives, in whatever chunks they come:
nothing is refused on the way, after each chunk every push that has arrived has been cut off, nothing is
left at the end, and every push is read as the body, the id and the group code of its message.  Bodies are
octets in memory, of which there are fewer than `2 ^ 63`. -/
theorem pushes_received (hid : ∀ m ∈ ms, IsInt64 m.id) (hbody : ∀ m ∈ ms, m.body.length < 2 ^ 63)
    (hc : chunks.flatten = ms.flatMap fun m => encodePush m.push.print) :
    (∀ n, (feed decodePush (chunks.take n)).refusal = none ∧
      decodePush (feed decodePush (chunks.take n)).left = .ok none) ∧
    feed decodePush chunks = ⟨ms.map fun m => m.push.print, none, []⟩ ∧
    (feed decodePush chunks).frames.map Push.parse? =
      ms.map fun m => some ⟨m.body, m.id, m.group.code⟩ := by
  have hlength : ∀ payload ∈ ms.map fun m => m.push.print, payload.length < Numeral.wordBound := by
    intro payload hp
    obtain ⟨m, hm, rfl⟩ := List.mem_map.1 hp
    exact Push.length_print_lt (hid m hm) (code_lt m.group) (hbody m hm)
  have hfeed : feed decodePush chunks = ⟨ms.map fun m => m.push.print, none, []⟩ :=
    feed_encodePush hlength (by rw [hc, List.flatMap_map])
  refine ⟨framing_decodePush.settled (by rw [hfeed]), hfeed, ?_⟩
  rw [hfeed, List.map_map]
  refine List.map_congr_left fun m hm => ?_
  exact Push.parse?_print (hid m hm) (code_lt m.group)

/-- Pushes with the least and the greatest id, in chunks that end within a length, within a payload and
within a line end. -/
theorem pushes_received_of_two :
    let ms : List Message :=
      [⟨Numeral.int64Min, [13, 10, 36], .personal, 0⟩, ⟨Numeral.int64Max, [], .broadcast, 0⟩]
    let s := ms.flatMap fun m => encodePush m.push.print
    let chunks := [s.take 2, (s.drop 2).take 20, [], (s.drop 22).take 33, s.drop 55]
    feed decodePush chunks = ⟨ms.map fun m => m.push.print, none, []⟩ ∧
    (feed decodePush chunks).frames.map Push.parse? =
      [some ⟨[13, 10, 36], Numeral.int64Min, 0⟩, some ⟨[], Numeral.int64Max, 1⟩] := by
  intro ms s chunks
  have hid : ∀ m ∈ ms, IsInt64 m.id := by
    simp only [ms, List.mem_cons, List.not_mem_nil, or_false, forall_eq_or_imp, forall_eq]
    decide
  have hbody : ∀ m ∈ ms, m.body.length < 2 ^ 63 := by
    simp only [ms, List.mem_cons, List.not_mem_nil, or_false, forall_eq_or_imp, forall_eq]
    decide
  exact (pushes_received hid hbody (by decide +kernel)).2

end PushRelay.Wire
