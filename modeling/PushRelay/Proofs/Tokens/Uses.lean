import Mathlib.Data.List.Dedup
import PushRelay.Proofs.Tokens.Links

/-!
# Tickets and their uses

Whether a ticket is accepted can be told from its uses alone.  A `TokenLedger` is a registry together with
the uses since it was last cleared: which tickets were accepted, and when.

    a ticket is accepted ↔ its last use is less than a lifetime ago, and fewer than `capacity` other
      tickets have been used since                                              (accepted_iff_usable)

A use takes place while a lifetime from then on still ends at an instant.

`latest uses` keeps the last use of every ticket.  At all times the registry lists an end of it
(`Standing`): what is missing in front has expired, or the registry is full without it.
-/

namespace PushRelay

/-! ## Uses -/

/-- The last use of every ticket, in the order of these uses. -/
def latest : List (String × Int) → List (String × Int)
  | [] => []
  | e :: es => if e.1 ∈ es.map Prod.fst then latest es else e :: latest es

/-- A ticket has been used less than a lifetime ago, and fewer than `capacity` others have been since. -/
def Usable (capacity ttl : Nat) (uses : List (String × Int)) (ticket : String) (now : Int) : Prop :=
  ∃ before used after, uses = before ++ (ticket, used) :: after ∧ ticket ∉ after.map Prod.fst ∧
    now < used + ttl ∧ (after.map Prod.fst).dedup.length < capacity

section Latest

variable {es before after xs ys : List (String × Int)} {ticket : String} {now used : Int}
  {capacity ttl : Nat}

theorem latest_sublist (es : List (String × Int)) : (latest es).Sublist es := by
  induction es with
  | nil => exact List.Sublist.refl []
  | cons e es ih =>
    unfold latest
    split
    · exact ih.cons e
    · exact ih.cons_cons e

theorem mem_latest (es : List (String × Int)) (ticket : String) :
    ticket ∈ (latest es).map Prod.fst ↔ ticket ∈ es.map Prod.fst := by
  induction es with
  | nil => exact Iff.rfl
  | cons e es ih =>
    unfold latest
    rw [List.map_cons, List.mem_cons]
    split
    · next he =>
      rw [ih]
      constructor
      · exact Or.inr
      · rintro (rfl | hm)
        · exact he
        · exact hm
    · rw [List.map_cons, List.mem_cons, ih]

theorem nodup_latest (es : List (String × Int)) : ((latest es).map Prod.fst).Nodup := by
  induction es with
  | nil => exact List.nodup_nil
  | cons e es ih =>
    unfold latest
    split
    · exact ih
    · next he =>
      rw [List.map_cons, List.nodup_cons, mem_latest]
      exact ⟨he, ih⟩

/-- There are as many last uses as there are tickets. -/
theorem length_latest (es : List (String × Int)) :
    (latest es).length = (es.map Prod.fst).dedup.length := by
  have hperm : ((latest es).map Prod.fst).Perm (es.map Prod.fst).dedup := by
    rw [List.perm_ext_iff_of_nodup (nodup_latest es) (List.nodup_dedup _)]
    intro ticket
    rw [mem_latest, List.mem_dedup]
  rw [← hperm.length_eq, List.length_map]

theorem latest_snoc (es : List (String × Int)) (ticket : String) (now : Int) :
    latest (es ++ [(ticket, now)]) =
      (latest es).filter (fun e => decide (e.1 ≠ ticket)) ++ [(ticket, now)] := by
  induction es with
  | nil => rfl
  | cons e es ih =>
    have hmem : e.1 ∈ (es ++ [(ticket, now)]).map Prod.fst ↔ e.1 ∈ es.map Prod.fst ∨ e.1 = ticket := by
      simp
    rw [List.cons_append, latest, latest, ih]
    by_cases he : e.1 ∈ es.map Prod.fst
    · rw [if_pos (hmem.2 (Or.inl he)), if_pos he]
    · rw [if_neg he, List.filter_cons]
      by_cases ht : e.1 = ticket
      · rw [if_pos (hmem.2 (Or.inr ht)), if_neg (by simpa using ht)]
      · rw [if_neg (mt hmem.1 (not_or.2 ⟨he, ht⟩)), if_pos (by simpa using ht), List.cons_append]

/-- What follows the last use of a ticket. -/
theorem latest_split (hn : ticket ∉ after.map Prod.fst) (before : List (String × Int)) (used : Int) :
    ∃ front, latest (before ++ (ticket, used) :: after) = front ++ (ticket, used) :: latest after := by
  induction before with
  | nil => exact ⟨[], by rw [List.nil_append, latest, if_neg hn]; rfl⟩
  | cons e before ih =>
    obtain ⟨front, hfront⟩ := ih
    by_cases he : e.1 ∈ (before ++ (ticket, used) :: after).map Prod.fst
    · exact ⟨front, (if_pos he).trans hfront⟩
    · exact ⟨e :: front, (if_neg he).trans (congrArg (e :: ·) hfront)⟩

theorem exists_split_of_mem_latest (h : (ticket, used) ∈ latest es) :
    ∃ before after, es = before ++ (ticket, used) :: after ∧ ticket ∉ after.map Prod.fst := by
  induction es with
  | nil => cases h
  | cons e es ih =>
    unfold latest at h
    split at h
    · obtain ⟨before, after, rfl, hn⟩ := ih h
      exact ⟨e :: before, after, rfl, hn⟩
    · next he =>
      rcases List.mem_cons.1 h with rfl | h
      · exact ⟨[], es, rfl, he⟩
      · obtain ⟨before, after, rfl, hn⟩ := ih h
        exact ⟨e :: before, after, rfl, hn⟩

/-- A list in which a ticket stands once is split at that ticket in one way. -/
theorem split_unique {xs' ys' : List (String × Int)} {used' : Int}
    (hn : ((xs ++ (ticket, used) :: ys).map Prod.fst).Nodup)
    (h : xs ++ (ticket, used) :: ys = xs' ++ (ticket, used') :: ys') : ys = ys' := by
  induction xs generalizing xs' with
  | nil =>
    cases xs' with
    | nil => exact (List.cons.inj h).2
    | cons x xs' =>
      obtain ⟨rfl, rfl⟩ := List.cons.inj h
      refine absurd ?_ (List.nodup_cons.1 hn).1
      simp
  | cons x xs ih =>
    cases xs' with
    | nil =>
      obtain ⟨rfl, rfl⟩ := List.cons.inj h
      refine absurd ?_ (List.nodup_cons.1 hn).1
      simp
    | cons x' xs' => exact ih (List.nodup_cons.1 hn).2 (List.cons.inj h).2

theorem usable_iff (capacity ttl : Nat) (uses : List (String × Int)) (ticket : String) (now : Int) :
    Usable capacity ttl uses ticket now ↔ ∃ front used back,
      latest uses = front ++ (ticket, used) :: back ∧ now < used + ttl ∧ back.length < capacity := by
  constructor
  · rintro ⟨before, used, after, rfl, hn, hlive, hcap⟩
    obtain ⟨front, hfront⟩ := latest_split hn before used
    exact ⟨front, used, latest after, hfront, hlive, length_latest after ▸ hcap⟩
  · rintro ⟨front, used, back, hsplit, hlive, hcap⟩
    have hmem : (ticket, used) ∈ latest uses := by
      rw [hsplit]
      exact List.mem_append_right _ List.mem_cons_self
    obtain ⟨before, after, rfl, hn⟩ := exists_split_of_mem_latest hmem
    obtain ⟨front', hfront⟩ := latest_split hn before used
    have hnodup := nodup_latest (before ++ (ticket, used) :: after)
    rw [hsplit] at hfront hnodup
    obtain rfl := split_unique hnodup hfront
    exact ⟨before, used, after, rfl, hn, hlive, length_latest after ▸ hcap⟩

end Latest

/-! ## What the registry keeps -/

/-- Of the last uses, `kept` are those whose tickets the registry lists, and `gone` those before them:
they have expired, or the registry is full without them. -/
structure Standing (capacity ttl : Nat) (now : Int) (uses gone kept : List (String × Int)) : Prop where
  split : latest uses = gone ++ kept
  fits : kept.length ≤ capacity
  reason : (∀ e ∈ gone, e.2 + ttl ≤ now) ∨ capacity ≤ kept.length

/-- A ticket with the instant from which a use at this time makes it no good. -/
def prolong (ttl : Nat) (e : String × Int) : String × Int := (e.1, e.2 + ttl)

section Standing

variable {capacity ttl : Nat} {now now' used : Int} {ticket : String}
  {uses gone kept xs ys : List (String × Int)}

theorem map_fst_prolong (ttl : Nat) (es : List (String × Int)) :
    (es.map (prolong ttl)).map Prod.fst = es.map Prod.fst := by
  rw [List.map_map]
  rfl

theorem Standing.later (h : Standing capacity ttl now uses gone kept) (hle : now ≤ now') :
    Standing capacity ttl now' uses gone kept :=
  ⟨h.split, h.fits, h.reason.imp_left fun hg e he => Int.le_trans (hg e he) hle⟩

theorem Standing.usable_iff (h : Standing capacity ttl now uses gone kept) (ticket : String) :
    Usable capacity ttl uses ticket now ↔ ∃ used, (ticket, used) ∈ kept ∧ now < used + ttl := by
  rw [PushRelay.usable_iff, h.split]
  constructor
  · rintro ⟨front, used, back, hsplit, hlive, hcap⟩
    refine ⟨used, ?_, hlive⟩
    rcases List.append_eq_append_iff.1 hsplit with ⟨l, -, hl⟩ | ⟨l, hgone, hl⟩
    · rw [hl]
      exact List.mem_append_right _ List.mem_cons_self
    · cases l with
      | nil =>
        rw [List.nil_append] at hl
        exact hl ▸ List.mem_cons_self
      | cons e l =>
        -- the use is gone, although it is neither expired nor followed by enough others
        obtain ⟨rfl, rfl⟩ := List.cons.inj hl
        rcases h.reason with hexpired | hfull
        · have he := hexpired (ticket, used) (by rw [hgone]; simp)
          exact absurd hlive (Int.not_lt.2 he)
        · have hcap : (l ++ kept).length < capacity := hcap
          rw [List.length_append] at hcap
          omega
  · rintro ⟨used, hmem, hlive⟩
    obtain ⟨front, back, rfl⟩ := List.append_of_mem hmem
    refine ⟨gone ++ front, used, back, by rw [List.append_assoc], hlive, ?_⟩
    have hfits := h.fits
    rw [List.length_append, List.length_cons] at hfits
    omega

theorem Standing.mem_uses (h : Standing capacity ttl now uses gone kept) {e : String × Int}
    (he : e ∈ kept) : e ∈ uses :=
  (latest_sublist uses).subset (h.split ▸ List.mem_append_right gone he)

theorem Standing.used_unique (h : Standing capacity ttl now uses gone kept) {used' : Int}
    (hmem : (ticket, used) ∈ kept) (hmem' : (ticket, used') ∈ kept) : used = used' := by
  have hn := nodup_latest uses
  rw [h.split, List.map_append] at hn
  have hsame := List.inj_on_of_nodup_map (List.nodup_append.1 hn).2.1 hmem hmem' rfl
  exact (Prod.mk.inj hsame).2

/-- Expired uses stand in front of those that have not expired. -/
theorem fresh_split (hs : kept.Pairwise fun a b => a.2 ≤ b.2) (ttl : Nat) (now : Int) :
    ∃ dead live, kept = dead ++ live ∧ (∀ e ∈ dead, e.2 + ttl ≤ now) ∧
      (∀ e ∈ live, now < e.2 + ttl) ∧
      TokenRegistry.fresh now (kept.map (prolong ttl)) = live.map (prolong ttl) := by
  induction kept with
  | nil => exact ⟨[], [], rfl, by simp, by simp, rfl⟩
  | cons e kept ih =>
    obtain ⟨hle, hs⟩ := List.pairwise_cons.1 hs
    unfold TokenRegistry.fresh
    rw [List.map_cons, List.dropWhile_cons]
    by_cases he : e.2 + ttl ≤ now
    · obtain ⟨dead, live, rfl, hdead, hlive, hfresh⟩ := ih hs
      refine ⟨e :: dead, live, rfl, fun a ha => ?_, hlive, ?_⟩
      · rcases List.mem_cons.1 ha with rfl | ha
        · exact he
        · exact hdead a ha
      · exact (if_pos (decide_eq_true he)).trans hfresh
    · refine ⟨[], e :: kept, rfl, by simp, fun a ha => ?_, ?_⟩
      · rcases List.mem_cons.1 ha with rfl | ha
        · omega
        · have := hle a ha
          omega
      · exact if_neg fun hd => he (of_decide_eq_true hd)

/-- An expired use and those before it may be left out before the purge. -/
theorem fresh_skip (hs : (xs ++ (ticket, used) :: ys).Pairwise fun a b => a.2 ≤ b.2)
    (hexpired : used + ttl ≤ now) :
    TokenRegistry.fresh now (xs.map (prolong ttl) ++ ys.map (prolong ttl)) =
      TokenRegistry.fresh now ((xs ++ (ticket, used) :: ys).map (prolong ttl)) := by
  have hxs : ∀ e ∈ xs.map (prolong ttl), decide (e.2 ≤ now) = true := by
    intro e he
    obtain ⟨a, ha, rfl⟩ := List.mem_map.1 he
    have hle : a.2 ≤ used := (List.pairwise_append.1 hs).2.2 a ha _ List.mem_cons_self
    refine decide_eq_true ?_
    show a.2 + ttl ≤ now
    omega
  unfold TokenRegistry.fresh
  rw [List.map_append, List.dropWhile_append_of_pos hxs, List.dropWhile_append_of_pos hxs,
    List.map_cons, List.dropWhile_cons]
  exact (if_pos (decide_eq_true hexpired)).symm

/-- What is expired can go. -/
theorem Standing.purge (h : Standing capacity ttl now uses gone kept)
    (hs : (latest uses).Pairwise fun a b => a.2 ≤ b.2) :
    ∃ gone' live, Standing capacity ttl now uses gone' live ∧
      TokenRegistry.fresh now (kept.map (prolong ttl)) = live.map (prolong ttl) ∧
      ∀ e ∈ live, now < e.2 + ttl := by
  rw [h.split, List.pairwise_append] at hs
  obtain ⟨-, hkept, hgone⟩ := hs
  obtain ⟨dead, live, rfl, hdead, hlive, hfresh⟩ := fresh_split hkept ttl now
  refine ⟨gone ++ dead, live, ⟨?_, ?_, ?_⟩, hfresh, hlive⟩
  · rw [h.split, List.append_assoc]
  · have hfits := h.fits
    rw [List.length_append] at hfits
    omega
  · cases dead with
    | nil => simpa using h.reason
    | cons d dead =>
      -- what was gone before is as old as the first use that goes now
      refine Or.inl fun e he => ?_
      have hd := hdead d List.mem_cons_self
      rcases List.mem_append.1 he with he | he
      · have hle := hgone e he d (List.mem_append_left _ List.mem_cons_self)
        omega
      · exact hdead e he

theorem filter_absent (hn : ticket ∉ xs.map Prod.fst) :
    xs.filter (fun e => decide (e.1 ≠ ticket)) = xs := by
  refine List.filter_eq_self.2 fun e he => decide_eq_true ?_
  rintro rfl
  exact hn (List.mem_map_of_mem he)

/-- A list in which a ticket stands once, without it. -/
theorem filter_middle (hn : ((xs ++ (ticket, used) :: ys).map Prod.fst).Nodup) :
    (xs ++ (ticket, used) :: ys).filter (fun e => decide (e.1 ≠ ticket)) = xs ++ ys := by
  rw [List.map_append, List.map_cons] at hn
  have hn := List.nodup_cons.1 (List.perm_middle.nodup_iff.1 hn)
  rw [← List.map_append] at hn
  have hself := filter_absent hn.1
  rw [List.filter_append] at hself ⊢
  rw [List.filter_cons, if_neg (by simp), hself]

/-- A new ticket is used.  The oldest one goes if there is no room for another. -/
theorem Standing.enter (h : Standing capacity ttl now uses gone kept) (hcap : 0 < capacity)
    (hn : ticket ∉ kept.map Prod.fst) :
    ∃ gone', Standing capacity ttl now (uses ++ [(ticket, now)]) gone'
      (kept.drop (kept.length + 1 - capacity) ++ [(ticket, now)]) := by
  have hfits := h.fits
  refine ⟨gone.filter (fun e => decide (e.1 ≠ ticket)) ++
    kept.take (kept.length + 1 - capacity), ?_, ?_, ?_⟩
  · rw [latest_snoc, h.split, List.filter_append, filter_absent hn, List.append_assoc,
      List.append_assoc,
      ← List.append_assoc (kept.take _), List.take_append_drop]
  · rw [List.length_append, List.length_drop, List.length_singleton]
    omega
  · rw [List.length_append, List.length_drop, List.length_singleton]
    by_cases hfull : capacity ≤ kept.length
    · exact Or.inr (by omega)
    · refine Or.inl fun e he => ?_
      rw [Nat.sub_eq_zero_of_le (by omega), List.take_zero, List.append_nil] at he
      exact h.reason.resolve_right hfull e (List.mem_of_mem_filter he)

/-- A ticket that is listed is used again. -/
theorem Standing.renew (h : Standing capacity ttl now uses gone (xs ++ (ticket, used) :: ys)) :
    Standing capacity ttl now (uses ++ [(ticket, now)]) gone (xs ++ ys ++ [(ticket, now)]) := by
  have hlen : (xs ++ ys ++ [(ticket, now)]).length = (xs ++ (ticket, used) :: ys).length := by
    simp only [List.length_append, List.length_cons, List.length_nil]
    omega
  have hn := nodup_latest uses
  rw [h.split, ← List.append_assoc] at hn
  refine ⟨?_, hlen ▸ h.fits, hlen ▸ h.reason⟩
  rw [latest_snoc, h.split, ← List.append_assoc, filter_middle hn, List.append_assoc,
    List.append_assoc, List.append_assoc]

end Standing

/-! ## Runs -/

inductive TokenEvent where
  | add (ticket : String) (now : Int)
  | auth (ticket : String) (now : Int)
  | clear

/-- The time of an event that has one. -/
def TokenEvent.now? : TokenEvent → Option Int
  | .add _ now => some now
  | .auth _ now => some now
  | .clear => none

/-- A registry with the uses since it was last cleared: the tickets that were accepted, and when. -/
structure TokenLedger where
  registry : TokenRegistry
  uses : List (String × Int)

namespace TokenLedger

def start (capacity ttl : Nat) : TokenLedger := ⟨.new capacity ttl, []⟩

/-- Notes a use if the ticket was accepted. -/
def note (d : TokenLedger) (ticket : String) (now : Int)
    (out : Except TokenError Unit × TokenRegistry) : TokenLedger where
  registry := out.2
  uses := d.uses ++ match out.1 with
    | .ok () => [(ticket, now)]
    | .error _ => []

def step (d : TokenLedger) : TokenEvent → TokenLedger
  | .add ticket now => d.note ticket now (d.registry.add ticket now)
  | .auth ticket now => d.note ticket now (d.registry.auth ticket now)
  | .clear => ⟨d.registry.clear, []⟩

def run (d : TokenLedger) (es : List TokenEvent) : TokenLedger := es.foldl step d

variable {d : TokenLedger} {capacity ttl : Nat} {now now' : Int} {ticket : String}

/-- What holds of a ledger at all times. -/
structure Balanced (capacity ttl : Nat) (now : Int) (d : TokenLedger) : Prop where
  ordered : d.uses.Pairwise fun a b => a.2 ≤ b.2
  past : ∀ e ∈ d.uses, e.2 ≤ now
  listed : ∃ gone kept, Standing capacity ttl now d.uses gone kept ∧
    d.registry.Lists capacity ttl (kept.map (prolong ttl))

/-- No more tickets than there is room for, and none that has expired. -/
structure Tidy (capacity : Nat) (now : Int) (r : TokenRegistry) : Prop where
  fits : r.size ≤ capacity
  listed : ∀ ticket, r.index.contains ticket = true ↔ ticket ∈ r.tickets.map Prod.fst
  live : ∀ e ∈ r.tickets, now < e.2

theorem balanced_start (capacity ttl : Nat) (now : Int) :
    Balanced (max capacity 1) ttl now (start capacity ttl) where
  ordered := List.Pairwise.nil
  past := by simp [start]
  listed := ⟨[], [], ⟨rfl, Nat.zero_le _, Or.inl (by simp)⟩, TokenRegistry.lists_new capacity ttl⟩

theorem Balanced.later (h : Balanced capacity ttl now d) (hle : now ≤ now') :
    Balanced capacity ttl now' d := by
  obtain ⟨gone, kept, hs, hl⟩ := h.listed
  exact ⟨h.ordered, fun e he => Int.le_trans (h.past e he) hle, gone, kept, hs.later hle, hl⟩

theorem Balanced.clear (h : Balanced capacity ttl now d) :
    Balanced capacity ttl now (d.step .clear) := by
  obtain ⟨gone, kept, -, hl⟩ := h.listed
  refine ⟨List.Pairwise.nil, by simp [step], [], [], ⟨rfl, Nat.zero_le _, Or.inl (by simp)⟩, ?_⟩
  exact hl.clear

theorem Tidy.of_standing {r : TokenRegistry} {uses gone live : List (String × Int)}
    (hs : Standing capacity ttl now uses gone live)
    (hl : r.Lists capacity ttl (live.map (prolong ttl))) (hlive : ∀ e ∈ live, now < e.2 + ttl) :
    Tidy capacity now r where
  fits := by
    rw [hl.size, List.length_map]
    exact hs.fits
  listed := by
    intro ticket
    rw [hl.tickets]
    exact hl.contains
  live := by
    intro e he
    rw [hl.tickets] at he
    obtain ⟨a, ha, rfl⟩ := List.mem_map.1 he
    exact hlive a ha

/-- A ticket that is listed is good until an instant, as long as one used now would be. -/
theorem Balanced.instants (h : Balanced capacity ttl now d) (instant : now + ttl < Instant.bound) :
    ∀ e ∈ d.registry.tickets, e.2 < Instant.bound := by
  obtain ⟨gone, kept, hs, hl⟩ := h.listed
  intro e he
  rw [hl.tickets] at he
  obtain ⟨a, ha, rfl⟩ := List.mem_map.1 he
  have hle := h.past a (hs.mem_uses ha)
  show a.2 + (ttl : Int) < Instant.bound
  omega

theorem Balanced.latest_ordered (h : Balanced capacity ttl now d) :
    (latest d.uses).Pairwise fun a b => a.2 ≤ b.2 :=
  h.ordered.sublist (latest_sublist d.uses)

theorem Balanced.ordered_snoc (h : Balanced capacity ttl now d) (ticket : String) :
    (d.uses ++ [(ticket, now)]).Pairwise fun a b => a.2 ≤ b.2 := by
  refine List.pairwise_append.2 ⟨h.ordered, List.pairwise_singleton _ _, fun e he a ha => ?_⟩
  rw [List.mem_singleton.1 ha]
  exact h.past e he

/-- A ticket was not accepted, and the registry has been purged. -/
theorem Balanced.refuse (h : Balanced capacity ttl now d) {r : TokenRegistry}
    {gone live : List (String × Int)} (hs : Standing capacity ttl now d.uses gone live)
    (hl : r.Lists capacity ttl (live.map (prolong ttl))) (hlive : ∀ e ∈ live, now < e.2 + ttl)
    (ticket : String) (e : TokenError) :
    Tidy capacity now r ∧ Balanced capacity ttl now (d.note ticket now (.error e, r)) := by
  have huses : (d.note ticket now (.error e, r)).uses = d.uses := List.append_nil d.uses
  exact ⟨.of_standing hs hl hlive, huses ▸ h.ordered, huses ▸ h.past, gone, live, huses ▸ hs, hl⟩

/-- A ticket was accepted, and the registry has been purged. -/
theorem Balanced.accept (h : Balanced capacity ttl now d) {r : TokenRegistry}
    {gone live : List (String × Int)}
    (hs : Standing capacity ttl now (d.uses ++ [(ticket, now)]) gone live)
    (hl : r.Lists capacity ttl (live.map (prolong ttl))) (hlive : ∀ e ∈ live, now < e.2 + ttl) :
    Tidy capacity now r ∧ Balanced capacity ttl now (d.note ticket now (.ok (), r)) := by
  refine ⟨.of_standing hs hl hlive, h.ordered_snoc ticket, fun e he => ?_, gone, live, hs, hl⟩
  rcases List.mem_append.1 he with he | he
  · exact h.past e he
  · obtain rfl := List.mem_singleton.1 he
    exact Int.le_refl now

/-- Registering a ticket fails exactly where it is still good. -/
theorem Balanced.add (h : Balanced capacity ttl now d) (hcap : 0 < capacity) (httl : 0 < ttl)
    (ticket : String) :
    (Usable capacity ttl d.uses ticket now ∧
          (d.registry.add ticket now).1 = .error .alreadyRegistered ∨
        ¬ Usable capacity ttl d.uses ticket now ∧ (d.registry.add ticket now).1 = .ok ()) ∧
      Tidy capacity now (d.registry.add ticket now).2 ∧
      Balanced capacity ttl now (d.note ticket now (d.registry.add ticket now)) := by
  obtain ⟨gone, kept, hs, hl⟩ := h.listed
  obtain ⟨gone', live, hs', hfresh, hlive⟩ := hs.purge h.latest_ordered
  have hpurge := hl.purge now
  rw [hfresh] at hpurge
  have husable : Usable capacity ttl d.uses ticket now ↔ ticket ∈ live.map Prod.fst := by
    rw [hs'.usable_iff, List.mem_map]
    constructor
    · rintro ⟨used, hm, -⟩
      exact ⟨_, hm, rfl⟩
    · rintro ⟨e, hm, rfl⟩
      exact ⟨e.2, hm, hlive e hm⟩
  by_cases hm : ticket ∈ live.map Prod.fst
  · have hadd : d.registry.add ticket now = (.error .alreadyRegistered, d.registry.purge now) := by
      refine hl.add_registered ?_
      rw [hfresh, map_fst_prolong]
      exact hm
    rw [hadd]
    exact ⟨Or.inl ⟨husable.2 hm, rfl⟩, h.refuse hs' hpurge hlive ticket _⟩
  · have hnew : ticket ∉ (TokenRegistry.fresh now (kept.map (prolong ttl))).map Prod.fst := by
      rw [hfresh, map_fst_prolong]
      exact hm
    obtain ⟨r, hadd, hr⟩ := hl.add_new hcap hnew
    obtain ⟨gone'', hs''⟩ := hs'.enter hcap hm
    have hr : r.Lists capacity ttl
        ((live.drop (live.length + 1 - capacity) ++ [(ticket, now)]).map (prolong ttl)) := by
      rw [hfresh, List.length_map, ← List.map_drop] at hr
      rw [List.map_append]
      exact hr
    have hgood : ∀ e ∈ live.drop (live.length + 1 - capacity) ++ [(ticket, now)],
        now < e.2 + ttl := by
      intro e he
      rcases List.mem_append.1 he with he | he
      · exact hlive e (List.mem_of_mem_drop he)
      · rw [List.mem_singleton.1 he]
        show now < now + (ttl : Int)
        omega
    rw [hadd]
    exact ⟨Or.inr ⟨mt husable.1 hm, rfl⟩, h.accept hs'' hr hgood⟩

section Auth

variable {gone kept xs ys : List (String × Int)} {used : Int}

/-- A ticket that the registry does not list is refused. -/
theorem Balanced.auth_unlisted (h : Balanced capacity ttl now d)
    (hs : Standing capacity ttl now d.uses gone kept)
    (hl : d.registry.Lists capacity ttl (kept.map (prolong ttl)))
    (hm : ticket ∉ kept.map Prod.fst) :
    ∃ e r, d.registry.auth ticket now = (.error e, r) ∧ Tidy capacity now r ∧
      Balanced capacity ttl now (d.note ticket now (.error e, r)) := by
  obtain ⟨gone', live, hs', hfresh, hlive⟩ := hs.purge h.latest_ordered
  have hr := hl.purge now
  rw [hfresh] at hr
  have hauth : d.registry.auth ticket now = (.error .notFound, d.registry.purge now) := by
    refine hl.auth_unknown ?_
    rw [map_fst_prolong]
    exact hm
  exact ⟨_, _, hauth, h.refuse hs' hr hlive ticket _⟩

theorem map_prolong_middle (ttl : Nat) (xs ys : List (String × Int)) (ticket : String) (used : Int) :
    (xs ++ (ticket, used) :: ys).map (prolong ttl) =
      xs.map (prolong ttl) ++ (ticket, used + ttl) :: ys.map (prolong ttl) :=
  List.map_append

/-- A ticket that has expired is refused and taken out. -/
theorem Balanced.auth_expired (h : Balanced capacity ttl now d)
    (hs : Standing capacity ttl now d.uses gone (xs ++ (ticket, used) :: ys))
    (hl : d.registry.Lists capacity ttl ((xs ++ (ticket, used) :: ys).map (prolong ttl)))
    (hdead : used + ttl ≤ now) :
    ∃ e r, d.registry.auth ticket now = (.error e, r) ∧ Tidy capacity now r ∧
      Balanced capacity ttl now (d.note ticket now (.error e, r)) := by
  rw [map_prolong_middle] at hl
  obtain ⟨r, hauth, hr⟩ := hl.auth_expired hdead
  obtain ⟨gone', live, hs', hfresh, hlive⟩ := hs.purge h.latest_ordered
  have hsorted := h.latest_ordered
  rw [hs.split] at hsorted
  -- the ticket would have gone with the purge anyway
  rw [fresh_skip (List.pairwise_append.1 hsorted).2.1 hdead, hfresh] at hr
  exact ⟨_, r, hauth, h.refuse hs' hr hlive ticket _⟩

/-- A ticket that is listed and has not expired is accepted. -/
theorem Balanced.auth_renewed (h : Balanced capacity ttl now d)
    (hs : Standing capacity ttl now d.uses gone (xs ++ (ticket, used) :: ys))
    (hl : d.registry.Lists capacity ttl ((xs ++ (ticket, used) :: ys).map (prolong ttl)))
    (hgood : now < used + ttl) :
    ∃ r, d.registry.auth ticket now = (.ok (), r) ∧ Tidy capacity now r ∧
      Balanced capacity ttl now (d.note ticket now (.ok (), r)) := by
  rw [map_prolong_middle] at hl
  obtain ⟨r, hauth, hr⟩ := hl.auth_good hgood
  obtain ⟨gone', live, hs', hfresh, hlive⟩ :=
    hs.renew.purge ((h.ordered_snoc ticket).sublist (latest_sublist _))
  have hlist : (xs ++ ys ++ [(ticket, now)]).map (prolong ttl) =
      xs.map (prolong ttl) ++ ys.map (prolong ttl) ++ [(ticket, now + (ttl : Int))] := by
    rw [List.map_append, List.map_append]
    rfl
  rw [← hlist, hfresh] at hr
  exact ⟨r, hauth, h.accept hs' hr hlive⟩

end Auth

/-- A ticket is accepted exactly where it is still good. -/
theorem Balanced.auth (h : Balanced capacity ttl now d) (ticket : String) :
    (Usable capacity ttl d.uses ticket now ∧ (d.registry.auth ticket now).1 = .ok () ∨
        ¬ Usable capacity ttl d.uses ticket now ∧ ∃ e, (d.registry.auth ticket now).1 = .error e) ∧
      Tidy capacity now (d.registry.auth ticket now).2 ∧
      Balanced capacity ttl now (d.note ticket now (d.registry.auth ticket now)) := by
  obtain ⟨gone, kept, hs, hl⟩ := h.listed
  by_cases hm : ticket ∈ kept.map Prod.fst
  · obtain ⟨used, hmem⟩ : ∃ used, (ticket, used) ∈ kept := by
      obtain ⟨e, he, rfl⟩ := List.mem_map.1 hm
      exact ⟨e.2, he⟩
    obtain ⟨xs, ys, rfl⟩ := List.append_of_mem hmem
    by_cases hgood : now < used + ttl
    · obtain ⟨r, hauth, hrest⟩ := h.auth_renewed hs hl hgood
      rw [hauth]
      exact ⟨Or.inl ⟨(hs.usable_iff ticket).2 ⟨used, hmem, hgood⟩, rfl⟩, hrest⟩
    · obtain ⟨e, r, hauth, hrest⟩ := h.auth_expired hs hl (Int.not_lt.1 hgood)
      rw [hauth]
      refine ⟨Or.inr ⟨fun hu => ?_, e, rfl⟩, hrest⟩
      obtain ⟨used', hmem', hgood'⟩ := (hs.usable_iff ticket).1 hu
      exact hgood (hs.used_unique hmem hmem' ▸ hgood')
  · obtain ⟨e, r, hauth, hrest⟩ := h.auth_unlisted hs hl hm
    rw [hauth]
    refine ⟨Or.inr ⟨fun hu => ?_, e, rfl⟩, hrest⟩
    obtain ⟨used, hmem, -⟩ := (hs.usable_iff ticket).1 hu
    exact hm (List.mem_map_of_mem hmem)

theorem Balanced.run {es : List TokenEvent} (h : Balanced capacity ttl now d) (hcap : 0 < capacity)
    (httl : 0 < ttl)
    (ordered : (now :: (es.filterMap TokenEvent.now? ++ [now'])).Pairwise (· ≤ ·)) :
    Balanced capacity ttl now' (d.run es) := by
  induction es generalizing d now with
  | nil => exact h.later ((List.pairwise_cons.1 ordered).1 now' List.mem_cons_self)
  | cons e es ih =>
    cases e with
    | add ticket t =>
      obtain ⟨hle, ordered⟩ := List.pairwise_cons.1 ordered
      exact ih ((h.later (hle t List.mem_cons_self)).add hcap httl ticket).2.2 ordered
    | auth ticket t =>
      obtain ⟨hle, ordered⟩ := List.pairwise_cons.1 ordered
      exact ih ((h.later (hle t List.mem_cons_self)).auth ticket).2.2 ordered
    | clear => exact ih h.clear ordered

/-- Whatever has been registered, used and forgotten, at times that never go back and from which a lifetime
ends at an instant: a ticket is accepted exactly if it is usable by its uses since the registry was last
cleared, and registering it fails exactly then.  Either leaves the registry tidy, with tickets that are good
until an instant. -/
theorem accepted_iff_usable (capacity ttl : Nat) (httl : 0 < ttl) (es : List TokenEvent)
    (ticket : String) (now : Int)
    (ordered : (es.filterMap TokenEvent.now? ++ [now]).Pairwise (· ≤ ·))
    (instant : now + ttl < Instant.bound) :
    let d := (start capacity ttl).run es
    let good := Usable (max capacity 1) ttl d.uses ticket now
    let authed := d.registry.auth ticket now
    let added := d.registry.add ticket now
    (authed.1 = .ok () ↔ good) ∧
      (added.1 = .error .alreadyRegistered ↔ good) ∧
      (added.1 = .ok () ↔ ¬ good) ∧
      Tidy (max capacity 1) now authed.2 ∧ (∀ e ∈ authed.2.tickets, e.2 < Instant.bound) ∧
      Tidy (max capacity 1) now added.2 ∧ (∀ e ∈ added.2.tickets, e.2 < Instant.bound) := by
  intro d good authed added
  have hcap : 0 < max capacity 1 := by omega
  obtain ⟨first, hfirst⟩ : ∃ first : Int,
      (first :: (es.filterMap TokenEvent.now? ++ [now])).Pairwise (· ≤ ·) := by
    obtain ⟨first, rest, hlist⟩ : ∃ first rest, es.filterMap TokenEvent.now? ++ [now] =
        first :: rest := List.exists_cons_of_ne_nil (by simp)
    rw [hlist] at ordered ⊢
    refine ⟨first, List.pairwise_cons.2 ⟨fun t ht => ?_, ordered⟩⟩
    rcases List.mem_cons.1 ht with rfl | ht
    · exact Int.le_refl t
    · exact (List.pairwise_cons.1 ordered).1 t ht
  have h : Balanced (max capacity 1) ttl now d :=
    (balanced_start capacity ttl first).run hcap httl hfirst
  obtain ⟨hadd, haddTidy, haddBalanced⟩ := h.add hcap httl ticket
  obtain ⟨hauth, hauthTidy, hauthBalanced⟩ := h.auth ticket
  refine ⟨?_, ?_, ?_, hauthTidy, hauthBalanced.instants instant, haddTidy,
    haddBalanced.instants instant⟩
  · rcases hauth with ⟨hgood, he⟩ | ⟨hgood, e, he⟩
    · exact iff_of_true he hgood
    · exact iff_of_false (by rw [he]; simp) hgood
  · rcases hadd with ⟨hgood, he⟩ | ⟨hgood, he⟩
    · exact iff_of_true he hgood
    · exact iff_of_false (by rw [he]; simp) hgood
  · rcases hadd with ⟨hgood, he⟩ | ⟨hgood, he⟩
    · exact iff_of_false (by rw [he]; simp) (not_not_intro hgood)
    · exact iff_of_true he hgood

/-- Two others have been used since "b" was registered, so it is out, and "a" is still in. -/
theorem accepted_iff_usable_after_an_eviction :
    let es : List TokenEvent := [.add "a" 0, .add "b" 1, .auth "a" 2, .add "c" 3]
    let d := (start 2 10).run es
    (0 < 10 ∧ (es.filterMap TokenEvent.now? ++ [5]).Pairwise (· ≤ ·) ∧
      (5 : Int) + (10 : Nat) < Instant.bound) ∧
      d.uses = [("a", 0), ("b", 1), ("a", 2), ("c", 3)] ∧
      Usable 2 10 d.uses "a" 5 ∧ (d.registry.auth "a" 5).1 = .ok () ∧
      ¬ Usable 2 10 d.uses "b" 5 ∧ (d.registry.add "b" 5).1 = .ok () ∧
      Tidy 2 5 (d.registry.add "b" 5).2 := by
  intro es d
  have ordered : (es.filterMap TokenEvent.now? ++ [5]).Pairwise (· ≤ ·) := by decide
  have instant : (5 : Int) + (10 : Nat) < Instant.bound := by decide
  have huses : d.uses = [("a", 0), ("b", 1), ("a", 2), ("c", 3)] := by decide
  have ha : Usable 2 10 d.uses "a" 5 :=
    ⟨[("a", 0), ("b", 1)], 2, [("c", 3)], huses, by decide, by decide, by decide⟩
  have hb : (d.registry.add "b" 5).1 = .ok () := rfl
  obtain ⟨hauth, -⟩ := accepted_iff_usable 2 10 (by decide) es "a" 5 ordered instant
  obtain ⟨-, -, hadd, -, -, htidy, -⟩ :=
    accepted_iff_usable 2 10 (by decide) es "b" 5 ordered instant
  exact ⟨⟨by decide, ordered, instant⟩, huses, ha, hauth.2 ha, hadd.1 hb, hb, htidy⟩

end TokenLedger

end PushRelay
