import Mathlib.Data.List.Induction
import Mathlib.Data.PFun
import PushRelay.Proofs.Tokens.Uses

/-!
# The links of a registry of tickets

The operations on a registry pass over a slot that is vacant where they expect a ticket, and their loops
go round a bounded number of times.  Those of this file have no result in the first case, and their loops
go round until a round is the last (`loop`).  Whatever has been done, at any times, the two agree,

    r.act? e = Part.some (r.act e)                                                        (Sound.act?)

because the links lead through all slots that are not vacant, once through each, and back the same way
(`Threaded`), and the index leads to the slot of each ticket (threaded_run).
-/

namespace PushRelay.TokenRegistry

/-! ## Operations that look at no vacant slot -/

/-- Changes what a slot holds. -/
def update? (r : TokenRegistry) (i : Nat) (f : TokenSlot → TokenSlot) : Option TokenRegistry := do
  let _ ← r.slot? i
  return r.update i f

/-- Makes `newer` come behind `older`, or first of all. -/
def setAfter? (r : TokenRegistry) (older newer : Option Nat) : Option TokenRegistry :=
  match older with
  | some i => r.update? i fun s => { s with newer }
  | none => some { r with oldest := newer }

/-- Makes `older` come in front of `newer`, or last of all. -/
def setBefore? (r : TokenRegistry) (newer older : Option Nat) : Option TokenRegistry :=
  match newer with
  | some i => r.update? i fun s => { s with older }
  | none => some { r with newest := older }

def linkNewest? (r : TokenRegistry) (i : Nat) : Option TokenRegistry := do
  let r ← r.update? i fun s => { s with older := r.newest, newer := none }
  let r ← r.setAfter? r.newest (some i)
  return { r with newest := some i }

def unlink? (r : TokenRegistry) (i : Nat) : Option TokenRegistry := do
  let s ← r.slot? i
  let r ← r.setAfter? s.older s.newer
  let r ← r.setBefore? s.newer s.older
  r.update? i fun s => { s with older := none, newer := none }

def removeSlot? (r : TokenRegistry) (i : Nat) : Option TokenRegistry := do
  let r ← r.unlink? i
  let s ← r.slot? i
  return { r.vacate i with index := r.index.erase s.ticket }

/-- Goes round until a round is the last, which a round says by `inl`.  There is no result if no round is,
or if a round has none. -/
def loop (round : TokenRegistry → Option (TokenRegistry ⊕ TokenRegistry)) :
    TokenRegistry →. TokenRegistry :=
  PFun.fix fun r => Part.ofOption (round r)

def purgeRound? (now : Int) (r : TokenRegistry) : Option (TokenRegistry ⊕ TokenRegistry) :=
  match r.oldest with
  | none => some (.inl r)
  | some i => do
    let s ← r.slot? i
    if now < s.expire then return .inl r
    let r ← r.removeSlot? i
    return .inr r

/-- Takes out expired tickets from the oldest end, up to the first one that is still good. -/
def purge? (r : TokenRegistry) (now : Int) : Part TokenRegistry := loop (purgeRound? now) r

def roomRound? (r : TokenRegistry) : Option (TokenRegistry ⊕ TokenRegistry) :=
  if r.size < r.capacity then some (.inl r)
  else match r.oldest with
    | none => some (.inl r)
    | some i => do
      let r ← r.removeSlot? i
      return .inr r

/-- Takes out the oldest tickets until one more fits. -/
def makeRoom? (r : TokenRegistry) : Part TokenRegistry := loop roomRound? r

def add? (r : TokenRegistry) (ticket : String) (now : Int) :
    Part (Except TokenError Unit × TokenRegistry) := do
  let r ← r.purge? now
  if r.index.contains ticket then return (.error .alreadyRegistered, r)
  let r ← r.makeRoom?
  let i := r.vacant
  let r ← Part.ofOption ((r.fill ⟨ticket, now + r.ttl, none, none⟩).linkNewest? i)
  return (.ok (), { r with index := r.index.insert ticket i })

/-- Uses the ticket of a slot. -/
def authSlot? (r : TokenRegistry) (i : Nat) (now : Int) :
    Option (Except TokenError Unit × TokenRegistry) := do
  let s ← r.slot? i
  if s.expire ≤ now then
    let r ← r.removeSlot? i
    return (.error .expired, r)
  let r ← r.update? i fun s => { s with expire := now + r.ttl }
  let r ← r.unlink? i
  let r ← r.linkNewest? i
  return (.ok (), r)

def auth? (r : TokenRegistry) (ticket : String) (now : Int) :
    Part (Except TokenError Unit × TokenRegistry) := do
  let (answer, r) ← Part.ofOption (match r.index.get? ticket with
    | none => some (.error .notFound, r)
    | some i => r.authSlot? i now)
  let r ← r.purge? now
  return (answer, r)

/-- What an event does, and the answer to it. -/
def act (r : TokenRegistry) : TokenEvent → Except TokenError Unit × TokenRegistry
  | .add ticket now => r.add ticket now
  | .auth ticket now => r.auth ticket now
  | .clear => (.ok (), r.clear)

/-- The same without a look at a vacant slot. -/
def act? (r : TokenRegistry) : TokenEvent → Part (Except TokenError Unit × TokenRegistry)
  | .add ticket now => r.add? ticket now
  | .auth ticket now => r.auth? ticket now
  | .clear => Part.some (.ok (), r.clear)

def run (r : TokenRegistry) (es : List TokenEvent) : TokenRegistry :=
  es.foldl (fun r e => (r.act e).2) r

variable {r r' : TokenRegistry} {cells xs ys : List Cell} {c : Cell} {before after : Option Nat}
  {i : Nat} {now : Int} {capacity ttl fuel : Nat} {ts : List (String × Int)}

/-! ## Links lead to slots that are not vacant -/

theorem update?_eq (h : (r.slot? i).isSome = true) (f : TokenSlot → TokenSlot) :
    r.update? i f = some (r.update i f) := by
  obtain ⟨s, hs⟩ := Option.isSome_iff_exists.1 h
  unfold update?
  rw [hs]
  rfl

theorem setAfter?_eq (h : ∀ j, before = some j → (r.slot? j).isSome = true) (newer : Option Nat) :
    r.setAfter? before newer = some (r.setAfter before newer) := by
  cases before with
  | none => rfl
  | some j => exact update?_eq (h j rfl) _

theorem setBefore?_eq (h : ∀ j, after = some j → (r.slot? j).isSome = true) (older : Option Nat) :
    r.setBefore? after older = some (r.setBefore after older) := by
  cases after with
  | none => rfl
  | some j => exact update?_eq (h j rfl) _

theorem Linked.occupied (h : r.Linked before cells after) (hi : i ∈ cells.map Cell.slot) :
    (r.slot? i).isSome = true := by
  obtain ⟨c, hc, rfl⟩ := List.mem_map.1 hi
  obtain ⟨xs, ys, rfl⟩ := List.append_of_mem hc
  rw [(linked_append.1 h).2.1]
  rfl

theorem Chained.unlink? (h : r.Chained (xs ++ c :: ys)) :
    r.unlink? c.slot = some (r.unlink c.slot) := by
  have hold : ∀ j ∈ (xs ++ c :: ys).map Cell.slot, (r.slot? j).isSome = true :=
    fun j hj => h.linked.occupied hj
  rw [List.map_append, List.map_cons] at hold
  let older := lastSlot none xs
  let newer := firstSlot ys none
  have hafter : r.setAfter? older newer = some (r.setAfter older newer) :=
    setAfter?_eq (fun j hj => hold j (List.mem_append_left _ (lastSlot_mem hj))) newer
  have h₁ := relinked_setAfter r older newer
  have hbefore : (r.setAfter older newer).setBefore? newer older =
      some ((r.setAfter older newer).setBefore newer older) := by
    refine setBefore?_eq (fun j hj => ?_) older
    rw [h₁.occupied]
    exact hold j (List.mem_append_right _ (List.mem_cons_of_mem _ (firstSlot_mem hj)))
  have h₂ := h₁.trans (relinked_setBefore _ newer older)
  have hself : (((r.setAfter older newer).setBefore newer older).slot? c.slot).isSome = true := by
    rw [h₂.occupied]
    exact hold c.slot (List.mem_append_right _ List.mem_cons_self)
  rw [unlink_eq h.slot?]
  unfold TokenRegistry.unlink?
  rw [h.slot?]
  show (r.setAfter? older newer).bind _ = _
  rw [hafter]
  show ((r.setAfter older newer).setBefore? newer older).bind _ = _
  rw [hbefore]
  exact update?_eq hself _

theorem Chained.linkNewest? (h : r.Chained cells) (hi : (r.slot? i).isSome = true) :
    r.linkNewest? i = some (r.linkNewest i) := by
  let r₁ := r.update i fun s => { s with older := r.newest, newer := none }
  have h₁ : Relinked r r₁ := relinked_update r i _
  have hafter : r₁.setAfter? r.newest (some i) = some (r₁.setAfter r.newest (some i)) := by
    refine setAfter?_eq (fun j hj => ?_) (some i)
    rw [h₁.occupied]
    exact h.linked.occupied (lastSlot_mem (h.newest.symm.trans hj))
  unfold TokenRegistry.linkNewest?
  rw [update?_eq hi]
  show (r₁.setAfter? r.newest (some i)).bind _ = _
  rw [hafter]
  rfl

theorem Chained.removeSlot? (h : r.Chained (xs ++ c :: ys)) :
    r.removeSlot? c.slot = some (r.removeSlot c.slot) := by
  unfold TokenRegistry.removeSlot? TokenRegistry.removeSlot
  rw [h.unlink?, h.slot?]
  show ((r.unlink c.slot).slot? c.slot).bind _ = _
  rw [h.unlink.2]
  rfl

/-! ## Loops -/

variable {round : TokenRegistry → Option (TokenRegistry ⊕ TokenRegistry)}

theorem loop_last (h : round r = some (.inl r')) : loop round r = Part.some r' :=
  Part.eq_some_iff.2 (PFun.fix_stop (Part.mem_ofOption.2 h))

theorem loop_again (h : round r = some (.inr r')) : loop round r = loop round r' :=
  PFun.fix_fwd_eq (Part.mem_ofOption.2 h)

theorem Holds.oldest_nil (h : r.Holds []) : r.oldest = none := h.oldest

theorem Holds.oldest_cons (h : r.Holds (c :: cells)) :
    r.oldest = some c.slot ∧ r.slot? c.slot = some ⟨c.ticket, c.expire, none, firstSlot cells none⟩ ∧
      r.removeSlot? c.slot = some (r.removeSlot c.slot) ∧ (r.removeSlot c.slot).Holds cells := by
  have h : r.Holds ([] ++ c :: cells) := h
  exact ⟨h.oldest, h.toChained.slot?, h.toChained.removeSlot?, h.removeSlot⟩

theorem Holds.purgeRound?_nil (h : r.Holds []) (now : Int) : purgeRound? now r = some (.inl r) := by
  unfold purgeRound?
  rw [h.oldest_nil]

theorem Holds.purgeRound?_cons (h : r.Holds (c :: cells)) (now : Int) :
    purgeRound? now r =
      some (if now < c.expire then .inl r else .inr (r.removeSlot c.slot)) := by
  obtain ⟨hoth, hs, hremove, -⟩ := h.oldest_cons
  unfold purgeRound?
  rw [hoth]
  simp only [hs]
  show (if now < c.expire then _ else _) = _
  split
  · rfl
  · rw [hremove]
    rfl

/-- The loop that takes out expired tickets ends, at the latest when there are no more. -/
theorem Holds.purgeWithin? (h : r.Holds cells) (hfuel : cells.length ≤ fuel) :
    r.purge? now = Part.some (purgeWithin now fuel r) := by
  induction fuel generalizing r cells with
  | zero =>
    rw [List.length_eq_zero_iff.1 (Nat.le_zero.1 hfuel)] at h
    exact loop_last (h.purgeRound?_nil now)
  | succ fuel ih =>
    rw [purgeWithin]
    cases cells with
    | nil =>
      rw [h.oldest_nil]
      exact loop_last (h.purgeRound?_nil now)
    | cons c cells =>
      obtain ⟨hoth, hs, -, hrest⟩ := h.oldest_cons
      have hround := h.purgeRound?_cons now
      rw [hoth]
      simp only [hs]
      split at hround
      · rw [if_pos ‹_›]
        exact loop_last hround
      · rw [if_neg ‹_›]
        exact (loop_again hround).trans (ih hrest (Nat.le_of_succ_le_succ hfuel))

theorem Holds.purge? (h : r.Holds cells) (now : Int) : r.purge? now = Part.some (r.purge now) :=
  h.purgeWithin? (Nat.le_of_eq h.size.symm)

theorem Holds.roomRound?_nil (h : r.Holds []) : roomRound? r = some (.inl r) := by
  unfold roomRound?
  rw [h.oldest_nil]
  exact ite_self _

theorem Holds.roomRound?_cons (h : r.Holds (c :: cells)) :
    roomRound? r = some (if r.size < r.capacity then .inl r else .inr (r.removeSlot c.slot)) := by
  obtain ⟨hoth, -, hremove, -⟩ := h.oldest_cons
  unfold roomRound?
  split
  · rfl
  · rw [hoth]
    show (r.removeSlot? c.slot).bind _ = _
    rw [hremove]
    rfl

/-- The loop that makes room for one more ticket ends, at the latest when there are no tickets. -/
theorem Holds.makeRoomWithin? (h : r.Holds cells) (hfuel : cells.length ≤ fuel) :
    r.makeRoom? = Part.some (makeRoomWithin fuel r) := by
  induction fuel generalizing r cells with
  | zero =>
    rw [List.length_eq_zero_iff.1 (Nat.le_zero.1 hfuel)] at h
    exact loop_last h.roomRound?_nil
  | succ fuel ih =>
    rw [makeRoomWithin]
    cases cells with
    | nil =>
      rw [h.oldest_nil, ite_self]
      exact loop_last h.roomRound?_nil
    | cons c cells =>
      obtain ⟨hoth, -, -, hrest⟩ := h.oldest_cons
      have hround := h.roomRound?_cons
      rw [hoth]
      split at hround
      · rw [if_pos ‹_›]
        exact loop_last hround
      · rw [if_neg ‹_›]
        exact (loop_again hround).trans (ih hrest (Nat.le_of_succ_le_succ hfuel))

theorem Holds.makeRoom? (h : r.Holds cells) : r.makeRoom? = Part.some r.makeRoom :=
  h.makeRoomWithin? (Nat.le_of_eq h.size.symm)

/-! ## Operations -/

/-- The slot for a new ticket is not vacant when it is linked. -/
theorem Holds.fill_linkNewest? (h : r.Holds cells) (s : TokenSlot) :
    (r.fill s).linkNewest? r.vacant = some ((r.fill s).linkNewest r.vacant) := by
  have hslot : (r.fill s).slot? r.vacant = some s := (h.spare.slot?_fill s r.vacant).trans (if_pos rfl)
  exact (h.chained_fill s).linkNewest? (hslot ▸ rfl)

theorem Lists.add? (h : r.Lists capacity ttl ts) (hcap : 0 < capacity) (ticket : String) (now : Int) :
    r.add? ticket now = Part.some (r.add ticket now) := by
  obtain ⟨cells, hcells, -⟩ := h.holds
  unfold TokenRegistry.add? add
  rw [hcells.purge? now, Part.bind_eq_bind, Part.bind_some]
  simp only
  split
  · rfl
  · obtain ⟨cells₁, hcells₁, -⟩ := (h.purge now).holds
    obtain ⟨cells₂, hcells₂, -⟩ := ((h.purge now).makeRoom hcap).holds
    rw [hcells₁.makeRoom?, Part.bind_eq_bind, Part.bind_some, hcells₂.fill_linkNewest?]
    exact Part.bind_some _ _

/-- A ticket that is good for longer is taken out of the links and put behind the newest. -/
theorem Chained.renew? (h : r.Chained (xs ++ c :: ys)) (expire : Int) :
    let r₁ := r.update c.slot fun s => { s with expire }
    r.update? c.slot (fun s => { s with expire }) = some r₁ ∧
      r₁.unlink? c.slot = some (r₁.unlink c.slot) ∧
      (r₁.unlink c.slot).linkNewest? c.slot = some ((r₁.unlink c.slot).linkNewest c.slot) := by
  intro r₁
  have h₁ : r₁.Chained (xs ++ { c with expire } :: ys) := h.setExpire expire
  obtain ⟨h₂, hs⟩ := h₁.unlink
  exact ⟨update?_eq (h.slot? ▸ rfl) _, h₁.unlink?, h₂.linkNewest? (hs ▸ rfl)⟩

theorem Holds.authSlot?_expired (h : r.Holds (xs ++ c :: ys)) (he : c.expire ≤ now) :
    r.authSlot? c.slot now = some (.error .expired, r.removeSlot c.slot) := by
  unfold authSlot?
  rw [h.toChained.slot?]
  show (if c.expire ≤ now then _ else _) = _
  rw [if_pos he, h.toChained.removeSlot?]
  rfl

theorem Holds.authSlot?_good (h : r.Holds (xs ++ c :: ys)) (he : ¬ c.expire ≤ now) :
    r.authSlot? c.slot now =
      some (.ok (), ((r.update c.slot fun s => { s with expire := now + r.ttl }).unlink
        c.slot).linkNewest c.slot) := by
  obtain ⟨hupdate, hunlink, hlink⟩ := h.toChained.renew? (now + r.ttl)
  unfold authSlot?
  rw [h.toChained.slot?]
  show (if c.expire ≤ now then _ else _) = _
  rw [if_neg he, hupdate]
  show (TokenRegistry.unlink? _ _).bind _ = _
  rw [hunlink]
  show (TokenRegistry.linkNewest? _ _).bind _ = _
  rw [hlink]
  rfl

theorem Lists.auth? (h : r.Lists capacity ttl ts) (ticket : String) (now : Int) :
    r.auth? ticket now = Part.some (r.auth ticket now) := by
  obtain ⟨cells, hcells, -⟩ := h.holds
  unfold TokenRegistry.auth? auth
  cases hi : r.index.get? ticket with
  | none =>
    refine (Part.bind_some _ _).trans ?_
    simp only
    rw [hcells.purge? now]
    exact Part.bind_some _ _
  | some i =>
    obtain ⟨c, hc, -, rfl⟩ := (hcells.index ticket i).1 hi
    obtain ⟨xs, ys, rfl⟩ := List.append_of_mem hc
    simp only [hcells.toChained.slot?]
    by_cases he : c.expire ≤ now
    · rw [if_pos he, hcells.authSlot?_expired he]
      refine (Part.bind_some _ _).trans ?_
      simp only
      rw [hcells.removeSlot.purge? now]
      exact Part.bind_some _ _
    · rw [if_neg he, hcells.authSlot?_good he]
      refine (Part.bind_some _ _).trans ?_
      simp only
      rw [(hcells.renew (now + r.ttl)).purge? now]
      exact Part.bind_some _ _

/-! ## Runs -/

/-- What holds of a registry at all times, whatever the times are. -/
structure Sound (capacity ttl : Nat) (r : TokenRegistry) : Prop where
  room : 0 < capacity
  listed : ∃ ts, r.Lists capacity ttl ts ∧ ts.length ≤ capacity

theorem length_fresh_le (now : Int) (ts : List (String × Int)) :
    (fresh now ts).length ≤ ts.length :=
  (List.dropWhile_sublist _).length_le

theorem sound_new (capacity ttl : Nat) : (new capacity ttl).Sound (max capacity 1) ttl :=
  ⟨by omega, [], lists_new capacity ttl, Nat.zero_le _⟩

theorem Sound.act? (h : r.Sound capacity ttl) (e : TokenEvent) : r.act? e = Part.some (r.act e) := by
  obtain ⟨ts, hts, -⟩ := h.listed
  cases e with
  | add ticket now => exact hts.add? h.room ticket now
  | auth ticket now => exact hts.auth? ticket now
  | clear => rfl

theorem Sound.add (h : r.Sound capacity ttl) (ticket : String) (now : Int) :
    (r.add ticket now).2.Sound capacity ttl := by
  obtain ⟨ts, hts, hlen⟩ := h.listed
  have hfresh := Nat.le_trans (length_fresh_le now ts) hlen
  by_cases hm : ticket ∈ (fresh now ts).map Prod.fst
  · rw [hts.add_registered hm]
    exact ⟨h.room, _, hts.purge now, hfresh⟩
  · obtain ⟨r', hadd, hr'⟩ := hts.add_new h.room hm
    have hroom := h.room
    rw [hadd]
    refine ⟨h.room, _, hr', ?_⟩
    rw [List.length_append, List.length_drop, List.length_singleton]
    omega

theorem Sound.auth (h : r.Sound capacity ttl) (ticket : String) (now : Int) :
    (r.auth ticket now).2.Sound capacity ttl := by
  obtain ⟨ts, hts, hlen⟩ := h.listed
  by_cases hm : ticket ∈ ts.map Prod.fst
  · obtain ⟨⟨_, expire⟩, he, rfl⟩ := List.mem_map.1 hm
    obtain ⟨ps, qs, rfl⟩ := List.append_of_mem he
    rw [List.length_append, List.length_cons] at hlen
    rcases Int.lt_or_le now expire with hgood | hdead
    · obtain ⟨r', hauth, hr'⟩ := hts.auth_good hgood
      rw [hauth]
      refine ⟨h.room, _, hr', Nat.le_trans (length_fresh_le now _) ?_⟩
      rw [List.length_append, List.length_append, List.length_singleton]
      omega
    · obtain ⟨r', hauth, hr'⟩ := hts.auth_expired hdead
      rw [hauth]
      refine ⟨h.room, _, hr', Nat.le_trans (length_fresh_le now _) ?_⟩
      rw [List.length_append]
      omega
  · rw [hts.auth_unknown hm]
    exact ⟨h.room, _, hts.purge now, Nat.le_trans (length_fresh_le now ts) hlen⟩

theorem Sound.act (h : r.Sound capacity ttl) (e : TokenEvent) : (r.act e).2.Sound capacity ttl := by
  cases e with
  | add ticket now => exact h.add ticket now
  | auth ticket now => exact h.auth ticket now
  | clear =>
    obtain ⟨ts, hts, -⟩ := h.listed
    exact ⟨h.room, [], hts.clear, Nat.zero_le _⟩

theorem Sound.run (h : r.Sound capacity ttl) (es : List TokenEvent) :
    (r.run es).Sound capacity ttl := by
  induction es generalizing r with
  | nil => exact h
  | cons e es ih => exact ih (h.act e)

/-! ## Paths -/

/-- Following a link from slot to slot leads through the slots of the path, and then there is no link. -/
def Follows (r : TokenRegistry) (link : TokenSlot → Option Nat) : Option Nat → List Nat → Prop
  | start, [] => start = none
  | start, i :: path => start = some i ∧ ∃ s, r.slot? i = some s ∧ r.Follows link (link s) path

/-- The links lead from the oldest slot to the newest, once through each slot that is not vacant, and back
the same way. -/
structure Threaded (r : TokenRegistry) (path : List Nat) : Prop where
  forward : r.Follows TokenSlot.newer r.oldest path
  backward : r.Follows TokenSlot.older r.newest path.reverse
  ends : path.getLast? = r.newest
  once : path.Nodup
  all : ∀ i, i ∈ path ↔ (r.slot? i).isSome = true

theorem Linked.forward (h : r.Linked before cells none) :
    r.Follows TokenSlot.newer (firstSlot cells none) (cells.map Cell.slot) := by
  induction cells generalizing before with
  | nil => rfl
  | cons c cells ih => exact ⟨rfl, _, h.1, ih h.2⟩

theorem Linked.backward (h : r.Linked none cells after) :
    r.Follows TokenSlot.older (lastSlot none cells) (cells.map Cell.slot).reverse := by
  induction cells using List.reverseRecOn generalizing after with
  | nil => rfl
  | append_singleton cells c ih =>
    obtain ⟨hcells, hc, -⟩ := linked_append.1 h
    rw [lastSlot_append, List.map_append, List.reverse_append]
    exact ⟨rfl, _, hc, ih hcells⟩

theorem getLast?_slots (cells : List Cell) :
    (cells.map Cell.slot).getLast? = lastSlot none cells := by
  rcases List.eq_nil_or_concat cells with rfl | ⟨init, c, rfl⟩
  · rfl
  · rw [List.concat_eq_append, lastSlot_append, List.map_append]
    exact List.getLast?_concat

theorem Holds.threaded (h : r.Holds cells) : r.Threaded (cells.map Cell.slot) where
  forward := h.oldest ▸ h.linked.forward
  backward := h.newest ▸ h.linked.backward
  ends := (getLast?_slots cells).trans h.newest.symm
  once := h.distinct
  all := fun i => (h.occupied i).symm

/-- The index leads to the slot of a ticket. -/
theorem Holds.index_slot (h : r.Holds cells) (ticket : String) (i : Nat) :
    r.index.get? ticket = some i ↔ ∃ s, r.slot? i = some s ∧ s.ticket = ticket := by
  have hslot : ∀ c ∈ cells, ∃ s, r.slot? c.slot = some s ∧ s.ticket = c.ticket := by
    intro c hc
    obtain ⟨xs, ys, rfl⟩ := List.append_of_mem hc
    exact ⟨_, h.toChained.slot?, rfl⟩
  rw [h.index]
  constructor
  · rintro ⟨c, hc, rfl, rfl⟩
    exact hslot c hc
  · rintro ⟨s, hs, rfl⟩
    obtain ⟨c, hc, rfl⟩ := List.mem_map.1 ((h.occupied i).1 (hs ▸ rfl))
    obtain ⟨s', hs', ht⟩ := hslot c hc
    rw [Option.some.inj (hs.symm.trans hs')]
    exact ⟨c, hc, ht.symm, rfl⟩

/-- There is no oldest ticket exactly if there is no ticket, and no newest one exactly then. -/
theorem Holds.ends_none (h : r.Holds cells) :
    (r.oldest = none ↔ cells = []) ∧ (r.newest = none ↔ cells = []) ∧
      (r.isEmpty = true ↔ cells = []) := by
  rw [h.oldest, h.newest, ← getLast?_slots, List.getLast?_eq_none_iff, List.map_eq_nil_iff]
  refine ⟨?_, Iff.rfl, ?_⟩
  · cases cells with
    | nil => exact iff_of_true rfl rfl
    | cons c cells => exact iff_of_false (Option.some_ne_none _) (List.cons_ne_nil _ _)
  · have hsize : r.index.entries.length = cells.length := h.size
    show r.index.entries.isEmpty = true ↔ _
    rw [List.isEmpty_iff, ← List.length_eq_zero_iff, hsize, List.length_eq_zero_iff]

/-- Whatever has been registered, used and forgotten, at times in any order: the links lead through all
slots that are not vacant, and the index to the slots of the tickets; there is no oldest ticket exactly
if there is no newest one and the registry is empty; no more tickets are held than there is room for; and
whatever is done next, no vacant slot is looked at, and all loops end. -/
theorem threaded_run (capacity ttl : Nat) (es : List TokenEvent) :
    let r := (new capacity ttl).run es
    (∃ path, r.Threaded path ∧ path.length = r.size) ∧
      (r.oldest = none ↔ r.newest = none) ∧ (r.newest = none ↔ r.isEmpty = true) ∧
      (∀ ticket i, r.index.get? ticket = some i ↔ ∃ s, r.slot? i = some s ∧ s.ticket = ticket) ∧
      (∀ e, r.act? e = Part.some (r.act e)) ∧ r.size ≤ max capacity 1 := by
  intro r
  have h : r.Sound (max capacity 1) ttl := (sound_new capacity ttl).run es
  obtain ⟨ts, hts, hlen⟩ := h.listed
  obtain ⟨cells, hcells, -⟩ := hts.holds
  obtain ⟨hold, hnew, hempty⟩ := hcells.ends_none
  exact ⟨⟨_, hcells.threaded, (List.length_map _).trans hcells.size.symm⟩, hold.trans hnew.symm,
    hnew.trans hempty.symm, hcells.index_slot, h.act?, hts.size ▸ hlen⟩

/-- The third ticket takes the slot of the second, and the links lead on from the first to it. -/
example :
    let r := (new 2 10).run [.add "a" 0, .add "b" 1, .auth "a" 2, .add "c" 3]
    r.oldest = some 0 ∧ r.slot? 0 = some ⟨"a", 12, none, some 1⟩ ∧
      r.slot? 1 = some ⟨"c", 13, some 0, none⟩ := by
  decide

end PushRelay.TokenRegistry
