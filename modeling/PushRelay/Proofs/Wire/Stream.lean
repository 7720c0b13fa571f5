import PushRelay.Wire.Frame

/-!
# Streams in chunks

A stream comes in chunks.  Each chunk is appended to what is left of the ones before, and frames are cut
off while there are any (`feed`).  What comes of a stream, its frames and how it ends, is an `outcome`.

A `Framing` is a way of decoding that finds a frame in the octets of the frame alone.  Then chunks make
no difference exactly if no part of what is left of a stream is refused for what the rest would mend:

    (∀ ways of cutting s, same outcome) ↔ ∀ frames u, Passes decode s frames u → Steady decode u
                                                                    (Framing.outcome_eq_iff_steady)
-/

namespace PushRelay.Wire

/-- A way of finding a value at the start of a buffer: the value and what follows it, `none` while it has
not all arrived. -/
abbrev Reader (β : Type) := Bytes → Except WireError (Option (β × Bytes))

/-! ## Draining -/

/-- How a stream ends: it is refused, or waits for what is left to become a frame. -/
inductive Ending where
  | refused (cause : WireError)
  | waiting (left : Bytes)
  deriving DecidableEq, Repr

namespace Drained

variable {α : Type}

def ending (d : Drained α) : Ending :=
  match d.refusal with
  | some e => .refused e
  | none => .waiting d.left

/-- What the other side notices of a stream. -/
def outcome (d : Drained α) : List α × Ending := (d.frames, d.ending)

/-- Puts frames in front that were cut off before. -/
def after (d : Drained α) (frames : List α) : Drained α := { d with frames := frames ++ d.frames }

@[simp] theorem outcome_after (d : Drained α) (frames : List α) :
    (d.after frames).outcome = (frames ++ d.outcome.1, d.outcome.2) := rfl

theorem after_after (d : Drained α) (fs gs : List α) : (d.after fs).after gs = d.after (gs ++ fs) := by
  simp only [after, List.append_assoc]

/-- Takes a chunk in, unless something has been refused. -/
def receive (decode : Reader α) (d : Drained α) (chunk : Bytes) : Drained α :=
  match d.refusal with
  | some _ => d
  | none => (drain decode (d.left ++ chunk)).after d.frames

end Drained

/-- Takes chunks in, one after the other. -/
def feed {α : Type} (decode : Reader α) (chunks : List Bytes) : Drained α :=
  chunks.foldl (Drained.receive decode) ⟨[], none, []⟩

/-- A frame is found in its own octets, whatever follows them, and there is none without an octet. -/
structure Framing {α : Type} (decode : Reader α) : Prop where
  idle : decode [] = .ok none
  own : ∀ {buf frame rest}, decode buf = .ok (some (frame, rest)) → ∃ taken, buf = taken ++ rest ∧
    ∀ rest', decode (taken ++ rest') = .ok (some (frame, rest'))

/-- What draining a buffer comes to, frame by frame. -/
inductive Drains {α : Type} (decode : Reader α) : Bytes → Drained α → Prop
  | waits {buf : Bytes} (h : decode buf = .ok none) : Drains decode buf ⟨[], none, buf⟩
  | refuses {buf : Bytes} {e : WireError} (h : decode buf = .error e) :
      Drains decode buf ⟨[], some e, buf⟩
  | takes {buf rest : Bytes} {frame : α} {d : Drained α} (h : decode buf = .ok (some (frame, rest)))
      (hd : Drains decode rest d) : Drains decode buf (d.after [frame])

section Framing

variable {α : Type} {decode : Reader α} {buf rest s u : Bytes} {frame : α} {frames : List α}
  {d : Drained α} {chunks : List Bytes}

theorem Framing.extend (hd : Framing decode) (h : decode buf = .ok (some (frame, rest)))
    (more : Bytes) : decode (buf ++ more) = .ok (some (frame, rest ++ more)) := by
  obtain ⟨taken, rfl, htaken⟩ := hd.own h
  rw [List.append_assoc]
  exact htaken (rest ++ more)

/-- A frame takes an octet at least. -/
theorem Framing.shorter (hd : Framing decode) (h : decode buf = .ok (some (frame, rest))) :
    rest.length < buf.length := by
  obtain ⟨taken, rfl, htaken⟩ := hd.own h
  cases taken with
  | nil =>
    have hnil := htaken []
    rw [List.append_nil, hd.idle] at hnil
    cases hnil
  | cons b taken =>
    simp only [List.length_append, List.length_cons]
    omega

theorem Framing.drains_drainWith (hd : Framing decode) {fuel : Nat} (hf : buf.length < fuel) :
    Drains decode buf (drainWith decode fuel buf) := by
  induction fuel generalizing buf with
  | zero => omega
  | succ fuel ih =>
    unfold drainWith
    split
    · next h => exact .refuses h
    · next h => exact .waits h
    · next h =>
      have hlt := hd.shorter h
      exact .takes h (ih (by omega))

/-- Draining goes on until the buffer holds no frame. -/
theorem Framing.drains (hd : Framing decode) (buf : Bytes) : Drains decode buf (drain decode buf) :=
  hd.drains_drainWith (Nat.lt_succ_self _)

theorem Drains.unique {d' : Drained α} (h : Drains decode buf d) (h' : Drains decode buf d') :
    d = d' := by
  induction h generalizing d' with
  | waits h => cases h' <;> simp_all
  | refuses h => cases h' <;> simp_all
  | takes h _ ih =>
    cases h' with
    | waits h' => simp_all
    | refuses h' => simp_all
    | takes h' hd' =>
      cases h.symm.trans h'
      rw [ih hd']

theorem Framing.drain_eq (hd : Framing decode) (h : Drains decode buf d) : drain decode buf = d :=
  (hd.drains buf).unique h

/-- A buffer that has been drained and is not refused holds no frame. -/
theorem Drains.idle (h : Drains decode buf d) (hr : d.refusal = none) :
    decode d.left = .ok none := by
  induction h with
  | waits h => exact h
  | refuses h => cases hr
  | takes h hd ih => exact ih hr

/-! ## What is left of a stream -/

/-- Cutting `frames` off a stream `s` leaves `u`. -/
inductive Passes (decode : Reader α) : Bytes → List α → Bytes → Prop
  | here (s : Bytes) : Passes decode s [] s
  | frame {s rest u : Bytes} {frame : α} {frames : List α}
      (h : decode s = .ok (some (frame, rest))) (hp : Passes decode rest frames u) :
      Passes decode s (frame :: frames) u

/-- What a buffer is refused for does not go away when more comes, up to the whole of `u`. -/
def Steady (decode : Reader α) (u : Bytes) : Prop :=
  ∀ buf more e, u = buf ++ more → decode buf = .error e → decode u = .error e

theorem Passes.trans {t : Bytes} {more : List α} (hp : Passes decode s frames u)
    (hp' : Passes decode u more t) : Passes decode s (frames ++ more) t := by
  induction hp with
  | here s => exact hp'
  | frame h _ ih => exact .frame h (ih hp')

/-- What has been cut off is found whatever is left. -/
theorem Framing.own_passes (hd : Framing decode) (hp : Passes decode s frames u) :
    ∃ taken, s = taken ++ u ∧ ∀ u', Passes decode (taken ++ u') frames u' := by
  induction hp with
  | here s => exact ⟨[], rfl, fun u' => .here u'⟩
  | frame h _ ih =>
    obtain ⟨taken', rfl, ih⟩ := ih
    obtain ⟨taken, rfl, htaken⟩ := hd.own h
    refine ⟨taken ++ taken', (List.append_assoc ..).symm, fun u' => ?_⟩
    rw [List.append_assoc]
    exact .frame (htaken _) (ih u')

theorem Framing.passes_append (hd : Framing decode) (hp : Passes decode s frames u) (more : Bytes) :
    Passes decode (s ++ more) frames (u ++ more) := by
  obtain ⟨taken, rfl, htaken⟩ := hd.own_passes hp
  rw [List.append_assoc]
  exact htaken (u ++ more)

theorem Drains.after_passes (h : Drains decode u d) (hp : Passes decode s frames u) :
    Drains decode s (d.after frames) := by
  induction hp with
  | here s => exact h
  | frame hs _ ih =>
    have ht := Drains.takes hs (ih h)
    rw [Drained.after_after] at ht
    exact ht

theorem Drains.passes (h : Drains decode buf d) : Passes decode buf d.frames d.left := by
  induction h with
  | waits h => exact .here _
  | refuses h => exact .here _
  | takes h _ ih => exact .frame h ih

/-! ## Chunks -/

theorem receive_of_refused {e : WireError} (h : d.refusal = some e) (chunk : Bytes) :
    d.receive decode chunk = d := by
  simp only [Drained.receive, h]

theorem receive_of_waiting (h : d.refusal = none) (chunk : Bytes) :
    d.receive decode chunk = (drain decode (d.left ++ chunk)).after d.frames := by
  simp only [Drained.receive, h]

/-- Frames that were cut off before do not matter to what is done with a chunk. -/
theorem receive_after (d : Drained α) (frames : List α) (chunk : Bytes) :
    (d.after frames).receive decode chunk = (d.receive decode chunk).after frames := by
  cases hr : d.refusal with
  | some e =>
    have hr' : (d.after frames).refusal = some e := hr
    rw [receive_of_refused hr, receive_of_refused hr']
  | none =>
    have hr' : (d.after frames).refusal = none := hr
    rw [receive_of_waiting hr, receive_of_waiting hr', Drained.after_after]
    rfl

/-- Draining a buffer before more comes makes no difference. -/
theorem Framing.outcome_drain_append (hd : Framing decode) (buf more : Bytes)
    (hs : ∀ frames u, Passes decode (buf ++ more) frames u → Steady decode u) :
    (drain decode (buf ++ more)).outcome = ((drain decode buf).receive decode more).outcome := by
  have h := hd.drains buf
  generalize drain decode buf = d at h
  induction h with
  | waits h => rfl
  | refuses h =>
    have herr := hs _ _ (.here _) _ _ _ rfl h
    rw [hd.drain_eq (.refuses herr)]
    rfl
  | @takes buf rest frame d h _ ih =>
    have hmore := hd.extend h more
    have ih := ih fun frames u hp => hs _ u (.frame hmore hp)
    rw [hd.drain_eq (.takes hmore (hd.drains _)), receive_after, Drained.outcome_after,
      Drained.outcome_after, ih]

/-- Whatever has been taken in so far, the chunks of the rest may as well come at once. -/
theorem Framing.outcome_foldl_receive (hd : Framing decode) (chunks : List Bytes) (d : Drained α)
    (hidle : d.refusal = none → decode d.left = .ok none)
    (hs : d.refusal = none → ∀ frames u, Passes decode (d.left ++ chunks.flatten) frames u →
      Steady decode u) :
    (chunks.foldl (Drained.receive decode) d).outcome = (d.receive decode chunks.flatten).outcome := by
  induction chunks generalizing d with
  | nil =>
    cases hr : d.refusal with
    | some e => rw [receive_of_refused hr, List.foldl_nil]
    | none =>
      rw [receive_of_waiting hr, List.flatten_nil, List.append_nil,
        hd.drain_eq (.waits (hidle hr)), Drained.outcome_after]
      simp [Drained.outcome, Drained.ending, hr]
  | cons chunk chunks ih =>
    cases hr : d.refusal with
    | some e =>
      have hne : d.refusal ≠ none := by simp [hr]
      have ih := ih d (fun h => absurd h hne) (fun h => absurd h hne)
      rw [List.foldl_cons, receive_of_refused hr, ih, receive_of_refused hr, receive_of_refused hr]
    | none =>
      have hs := hs hr
      rw [List.flatten_cons, ← List.append_assoc] at hs
      have hdrain := hd.drains (d.left ++ chunk)
      have hpass := hd.passes_append hdrain.passes chunks.flatten
      have hstep := hd.outcome_drain_append (d.left ++ chunk) chunks.flatten hs
      rw [List.foldl_cons, List.flatten_cons, receive_of_waiting hr, receive_of_waiting hr,
        ← List.append_assoc, Drained.outcome_after, hstep]
      generalize drain decode (d.left ++ chunk) = d' at hdrain hpass
      -- what is left now has passed the same frames as the whole
      have ih := ih (d'.after d.frames) (fun h => hdrain.idle h) fun _ frames u hp =>
        hs _ u (hpass.trans hp)
      rw [ih, receive_after, Drained.outcome_after]

/-- However a stream comes whose every part is steady, it comes to what draining it comes to. -/
theorem Framing.outcome_feed (hd : Framing decode)
    (hs : ∀ frames u, Passes decode chunks.flatten frames u → Steady decode u) :
    (feed decode chunks).outcome = (drain decode chunks.flatten).outcome :=
  hd.outcome_foldl_receive chunks ⟨[], none, []⟩ (fun _ => hd.idle) fun _ => hs

/-- Between chunks no frame is left to be cut off. -/
theorem Framing.feed_idle (hd : Framing decode) (h : (feed decode chunks).refusal = none) :
    decode (feed decode chunks).left = .ok none := by
  refine List.foldlRecOn
    (motive := fun (d : Drained α) => d.refusal = none → decode d.left = .ok none) chunks _
    (fun _ => hd.idle) (fun d _ chunk _ => ?_) h
  cases hr : d.refusal with
  | some e =>
    rw [receive_of_refused hr, hr]
    exact fun h => by cases h
  | none =>
    rw [receive_of_waiting hr]
    exact (hd.drains (d.left ++ chunk)).idle

/-- A part that is refused for what the rest would mend is noticed when it comes alone. -/
theorem Framing.steady_of_outcome_eq (hd : Framing decode) (hp : Passes decode s frames u)
    (h : ∀ chunks, chunks.flatten = s → (feed decode chunks).outcome = (drain decode s).outcome) :
    Steady decode u := by
  intro buf more e hu hbuf
  obtain ⟨taken, rfl, htaken⟩ := hd.own_passes hp
  have hcut := h [taken ++ buf, more] (by simp [hu])
  have hfirst := hd.drain_eq ((Drains.refuses hbuf).after_passes (htaken buf))
  have hwhole := hd.drain_eq ((hd.drains u).after_passes (htaken u))
  have hfeed : feed decode [taken ++ buf, more] = drain decode (taken ++ buf) := by
    show ((drain decode (taken ++ buf)).after []).receive decode more = _
    rw [hfirst]
    exact receive_of_refused rfl more
  rw [hfeed, hfirst, hwhole] at hcut
  -- the whole of `u` comes to no frame and the same refusal
  have hd' := hd.drains u
  generalize drain decode u = d at hd' hcut
  simp only [Drained.outcome_after, Prod.mk.injEq, List.append_right_inj] at hcut
  obtain ⟨hframes, hending⟩ := hcut
  cases hd' with
  | waits h => cases hending
  | refuses h => cases hending; exact h
  | takes h _ => cases hframes

/-- Chunks make no difference exactly if every part that is left of a stream is steady. -/
theorem Framing.outcome_eq_iff_steady (hd : Framing decode) (s : Bytes) :
    (∀ chunks chunks', chunks.flatten = s → chunks'.flatten = s →
      (feed decode chunks).outcome = (feed decode chunks').outcome) ↔
    ∀ frames u, Passes decode s frames u → Steady decode u := by
  constructor
  · intro h frames u hp
    refine hd.steady_of_outcome_eq hp fun chunks hc => ?_
    have hone := h chunks [s] hc (by simp)
    rw [hone]
    show ((drain decode s).after []).outcome = _
    rfl
  · rintro hs chunks chunks' rfl hc
    rw [hd.outcome_feed hs, hd.outcome_feed (hc ▸ hs), hc]

/-- What has been refused stays refused. -/
theorem refusal_of_refusal_append {more : List Bytes}
    (h : (feed decode (chunks ++ more)).refusal = none) : (feed decode chunks).refusal = none := by
  unfold feed at h ⊢
  rw [List.foldl_append] at h
  generalize chunks.foldl (Drained.receive decode) ⟨[], none, []⟩ = d at h ⊢
  cases hr : d.refusal with
  | none => rfl
  | some e =>
    have hstay : more.foldl (Drained.receive decode) d = d := by
      induction more with
      | nil => rfl
      | cons chunk more ih =>
        rw [List.foldl_cons, receive_of_refused hr]
        exact ih (by rwa [List.foldl_cons, receive_of_refused hr] at h)
    rw [hstay, hr] at h
    cases h

/-! ## Streams that were written -/

variable {encode : α → Bytes} {sent : List α}

/-- A frame is read back from what is written for it, whatever follows, and no part of a buffer that starts
with it is refused for what the rest would mend. -/
structure Writes (decode : Reader α) (encode : α → Bytes) (frame : α) : Prop where
  back : ∀ rest, decode (encode frame ++ rest) = .ok (some (frame, rest))
  steady : ∀ rest, Steady decode (encode frame ++ rest)

/-- A frame is waited for while some of it is missing. -/
theorem Framing.waits (hd : Framing decode) {more : Bytes} (h : Writes decode encode frame)
    (hw : encode frame = buf ++ more) (hm : more ≠ []) : decode buf = .ok none := by
  have hback := h.back []
  rw [List.append_nil] at hback
  cases hb : decode buf with
  | error e =>
    have hs := h.steady [] buf more e (by rw [List.append_nil, hw]) hb
    rw [List.append_nil, hback] at hs
    cases hs
  | ok found =>
    cases found with
    | none => rfl
    | some found =>
      obtain ⟨frame', rest⟩ := found
      have hmore := hd.extend hb more
      rw [← hw, hback] at hmore
      have hrest : [] = rest ++ more := (Prod.mk.inj (Option.some.inj (Except.ok.inj hmore))).2
      exact absurd (List.append_eq_nil_iff.1 hrest.symm).2 hm

theorem steady_nil : Steady decode [] := by
  intro buf more e hu hbuf
  obtain ⟨rfl, -⟩ := List.append_eq_nil_iff.1 hu.symm
  exact hbuf

/-- Draining what was written cuts every frame off and leaves nothing. -/
theorem Framing.drains_written (hd : Framing decode) (h : ∀ a ∈ sent, Writes decode encode a) :
    Drains decode (sent.flatMap encode) ⟨sent, none, []⟩ := by
  induction sent with
  | nil => exact .waits hd.idle
  | cons a sent ih =>
    have ha := (h a List.mem_cons_self).back (sent.flatMap encode)
    exact .takes ha (ih fun b hb => h b (List.mem_cons_of_mem a hb))

/-- What is left of a stream that was written are the last frames of it. -/
theorem Framing.left_written (hd : Framing decode) (hp : Passes decode s frames u) :
    ∀ sent, (∀ a ∈ sent, Writes decode encode a) → s = sent.flatMap encode →
      ∃ left, sent = frames ++ left ∧ u = left.flatMap encode := by
  induction hp with
  | here s => exact fun sent _ hs => ⟨sent, rfl, hs⟩
  | @frame s rest u frame frames hs _ ih =>
    rintro sent h rfl
    cases sent with
    | nil => cases hd.idle.symm.trans hs
    | cons a sent =>
      have ha := (h a List.mem_cons_self).back (sent.flatMap encode)
      cases ha.symm.trans hs
      obtain ⟨left, rfl, hu⟩ := ih sent (fun b hb => h b (List.mem_cons_of_mem _ hb)) rfl
      exact ⟨left, rfl, hu⟩

/-- A stream that was written comes to what was sent in all chunks. -/
theorem Framing.outcome_feed_written (hd : Framing decode) (h : ∀ a ∈ sent, Writes decode encode a)
    (hc : chunks.flatten = sent.flatMap encode) :
    (feed decode chunks).outcome = (sent, .waiting []) := by
  have hsteady : ∀ frames u, Passes decode chunks.flatten frames u → Steady decode u := by
    intro frames u hp
    obtain ⟨left, rfl, rfl⟩ := hd.left_written hp sent h hc
    cases left with
    | nil => exact steady_nil
    | cons a left => exact (h a (by simp)).steady (left.flatMap encode)
  rw [hd.outcome_feed hsteady, hc, hd.drain_eq (hd.drains_written h)]
  rfl

theorem feed_eq_of_outcome (h : (feed decode chunks).outcome = (sent, .waiting [])) :
    feed decode chunks = ⟨sent, none, []⟩ := by
  generalize feed decode chunks = d at h
  obtain ⟨frames, refusal, left⟩ := d
  cases refusal <;> cases h
  rfl

/-- Nothing is refused on the way to a stream that is not refused, and no frame is left uncut. -/
theorem Framing.settled (hd : Framing decode) (h : (feed decode chunks).refusal = none) (n : Nat) :
    (feed decode (chunks.take n)).refusal = none ∧
      decode (feed decode (chunks.take n)).left = .ok none := by
  have hrefusal : (feed decode (chunks.take n)).refusal = none := by
    rw [← List.take_append_drop n chunks] at h
    exact refusal_of_refusal_append h
  exact ⟨hrefusal, hd.feed_idle hrefusal⟩

end Framing

end PushRelay.Wire
