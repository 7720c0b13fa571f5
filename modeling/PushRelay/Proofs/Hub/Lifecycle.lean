import PushRelay.Proofs.Hub.Changes

/-!
# The life of a channel

A channel is open while it has a key, and it has one key only.  When it loses its key it is closed for
good: it lets go of its connections, which are asked to close, and whoever still calls it gets nothing
out of it.

    h.Reachable → h.Sound                                                  (Reachable.sound)
    h.Sound → h.Sound after any event                                          (Sound.step)

`Sound` is what holds of a hub at all times; each of the four ways in which a hub changes keeps it.
`Steady` is the part of it that holds also while channels have lost their keys and have yet to be closed.
-/

namespace PushRelay.Hub

variable {h h' : Hub} {id : ChannelId} {ids : List ChannelId} {p : String → Bool} {key : String}

/-- There is a channel of that number, and it is open. -/
def IsOpen (h : Hub) (id : ChannelId) : Prop :=
  ∃ ch, h.channels.get? id = some ch ∧ ch.closed = false

instance (h : Hub) (id : ChannelId) : Decidable (h.IsOpen id) :=
  decidable_of_iff ((h.channels.get? id).any (fun ch => !ch.closed) = true) (by
    unfold IsOpen
    cases h.channels.get? id <;> simp)

/-- What holds of a hub also in between a key's losing its channel and the closing of the channel. -/
structure Steady (h : Hub) : Prop where
  placed : h.registry.Placed
  numbered : h.host.Numbered
  /-- The numbers given away are those of the channels. -/
  built : ∀ id, id < h.nextChannel ↔ (h.channels.get? id).isSome = true
  serving : ∀ key id, h.registry.find? key = some id → h.IsOpen id
  single : ∀ key key' id, h.registry.find? key = some id → h.registry.find? key' = some id →
    key = key'
  emptied : ∀ id ch, h.channels.get? id = some ch → ch.closed = true → ch.Emptied

/-- What holds of a hub at all times. -/
structure Sound (h : Hub) : Prop extends Steady h where
  keyed : ∀ id, h.IsOpen id → ∃ key, h.registry.find? key = some id

theorem Steady.unbuilt (hs : h.Steady) : h.channels.get? h.nextChannel = none := by
  have hb := mt (hs.built h.nextChannel).2 (Nat.lt_irrefl _)
  rwa [Bool.not_eq_true, Option.isSome_eq_false_iff, Option.isNone_iff_eq_none] at hb

theorem Steady.lt_of_get? (hs : h.Steady) {ch : Channel} (hch : h.channels.get? id = some ch) :
    id < h.nextChannel :=
  (hs.built id).2 (by rw [hch]; rfl)

theorem IsOpen.get? (ho : h.IsOpen id) {ch : Channel} (hch : h.channels.get? id = some ch) :
    ch.closed = false := by
  obtain ⟨ch', hch', ho⟩ := ho
  cases hch.symm.trans hch'
  exact ho

/-! ## Who is open after a change -/

theorem isOpen_call (h : Hub) (id : ChannelId) (call : ChannelCall) (id' : ChannelId) :
    (h.call id call).IsOpen id' ↔ h.IsOpen id' := by
  unfold IsOpen
  rw [call_channels]
  split
  · next hid =>
    subst hid
    cases h.channels.get? id' with
    | none => simp
    | some ch => simp [Channel.act_closed]
  · rfl

theorem Born.channels_get? (hb : Born key h h') (id : ChannelId) :
    ∃ deadline, h'.channels.get? id =
      if id = h.nextChannel then some (.new h.settings deadline) else h.channels.get? id := by
  obtain ⟨deadline, hc⟩ := hb.channels
  exact ⟨deadline, by rw [hc, Table.get?_insert]⟩

theorem Born.isOpen (hb : Born key h h') (id : ChannelId) :
    h'.IsOpen id ↔ id = h.nextChannel ∨ h.IsOpen id := by
  obtain ⟨deadline, hc⟩ := hb.channels_get? id
  unfold IsOpen
  rw [hc]
  split
  · next hid => exact ⟨fun _ => Or.inl hid, fun _ => ⟨_, rfl, rfl⟩⟩
  · next hid => exact ⟨Or.inr, fun h => h.resolve_left hid⟩

theorem Dropped.isOpen (hd : Dropped p ids h h') (id : ChannelId) :
    h'.IsOpen id ↔ id ∉ ids ∧ h.IsOpen id := by
  unfold IsOpen
  rw [hd.channels]
  split
  · next hid =>
    constructor
    · rintro ⟨ch', hch', ho⟩
      obtain ⟨ch, -, rfl⟩ := Option.map_eq_some_iff.1 hch'
      cases ho
    · rintro ⟨hn, -⟩
      exact absurd hid hn
  · next hid => exact ⟨fun ho => ⟨hid, ho⟩, And.right⟩

/-! ## Every change keeps a hub steady -/

theorem Steady.called (hs : h.Steady) (id : ChannelId) (call : ChannelCall) :
    (h.call id call).Steady := by
  obtain ⟨hr, hn⟩ := call_rest h id call
  refine ⟨hr ▸ hs.placed, (call_onward h id call).fresh hs.numbered, fun id' => ?_, ?_, ?_,
    fun id' ch hch hc => ?_⟩
  · rw [hn, hs.built, call_channels]
    split
    · next hid => rw [hid, Option.isSome_map]
    · rfl
  · intro key id' hk
    rw [hr] at hk
    exact (isOpen_call h id call id').2 (hs.serving key id' hk)
  · rw [hr]
    exact hs.single
  · rw [call_channels] at hch
    split at hch
    · obtain ⟨old, hold, rfl⟩ := Option.map_eq_some_iff.1 hch
      rw [Channel.act_closed] at hc
      exact (Channel.act_idle (hs.emptied id old hold hc) h.host call).1
    · exact hs.emptied id' ch hch hc

theorem Steady.born (hs : h.Steady) (hb : Born key h h') : h'.Steady := by
  have hfind : ∀ key', h'.registry.find? key' =
      if key' = key then some h.nextChannel else h.registry.find? key' := by
    intro key'
    rw [hb.registry, Registry.find?_insert hs.placed]
  have hold : ∀ key' id, h.registry.find? key' = some id → id ≠ h.nextChannel := by
    rintro key' id hk rfl
    obtain ⟨ch, hch, -⟩ := hs.serving key' _ hk
    rw [hs.unbuilt] at hch
    cases hch
  refine ⟨hb.registry ▸ hs.placed.insert key _, hb.host ▸ hs.numbered, fun id => ?_, ?_, ?_,
    fun id ch hch hc => ?_⟩
  · obtain ⟨deadline, hc⟩ := hb.channels_get? id
    rw [hc, hb.nextChannel]
    split
    · next hid => simp [hid]
    · next hid =>
      rw [← hs.built]
      exact ⟨fun hlt => Nat.lt_of_le_of_ne (Nat.le_of_lt_succ hlt) hid, Nat.lt_succ_of_lt⟩
  · intro key' id hk
    rw [hfind] at hk
    refine (hb.isOpen id).2 ?_
    split at hk
    · exact Or.inl (Option.some.inj hk).symm
    · exact Or.inr (hs.serving key' id hk)
  · intro key₁ key₂ id h₁ h₂
    rw [hfind] at h₁ h₂
    split at h₁
    · next he₁ =>
      split at h₂
      · next he₂ => rw [he₁, he₂]
      · exact absurd (Option.some.inj h₁).symm (hold key₂ id h₂)
    · split at h₂
      · exact absurd (Option.some.inj h₂).symm (hold key₁ id h₁)
      · exact hs.single key₁ key₂ id h₁ h₂
  · obtain ⟨deadline, hget⟩ := hb.channels_get? id
    rw [hget] at hch
    split at hch
    · cases hch
      cases hc
    · exact hs.emptied id ch hch hc

/-- A channel that a key keeps is not among those that are closed. -/
theorem Dropped.find?_iff (hd : Dropped p ids h h') (hs : h.Steady) :
    h'.registry.find? key = some id ↔ h.registry.find? key = some id ∧ id ∉ ids := by
  rw [hd.find?]
  constructor
  · intro hk
    split at hk
    · cases hk
    · next hp =>
      refine ⟨hk, fun hid => ?_⟩
      rcases hd.freed id hid with ⟨key', hk', hp'⟩ | hnone
      · exact hp (hs.single key key' id hk hk' ▸ hp')
      · exact hnone key hk
  · rintro ⟨hk, hid⟩
    rw [if_neg fun hp => hid (hd.lost key id hk hp), hk]

theorem Steady.dropped (hs : h.Steady) (hd : Dropped p ids h h') : h'.Steady := by
  refine ⟨hd.placed, hd.onward.fresh hs.numbered, fun id => ?_, fun key id hk => ?_,
    fun key key' id hk hk' => ?_, fun id ch hch hc => ?_⟩
  · rw [hd.nextChannel, hs.built, hd.channels]
    split
    · rw [Option.isSome_map]
    · rfl
  · obtain ⟨hk, hid⟩ := (hd.find?_iff hs).1 hk
    exact (hd.isOpen id).2 ⟨hid, hs.serving key id hk⟩
  · exact hs.single key key' id ((hd.find?_iff hs).1 hk).1 ((hd.find?_iff hs).1 hk').1
  · rw [hd.channels] at hch
    split at hch
    · obtain ⟨old, -, rfl⟩ := Option.map_eq_some_iff.1 hch
      exact Channel.emptied_close old h.host
    · exact hs.emptied id ch hch hc

theorem Steady.around (hs : h.Steady) (hr : h'.registry = h.registry)
    (hc : h'.channels = h.channels) (hn : h'.nextChannel = h.nextChannel)
    (ho : h.host.Onward h'.host) : h'.Steady := by
  refine ⟨hr ▸ hs.placed, ho.fresh hs.numbered, by rw [hn, hc]; exact hs.built, ?_, hr ▸ hs.single,
    hc ▸ hs.emptied⟩
  intro key id hk
  unfold IsOpen
  rw [hc]
  exact hs.serving key id (hr ▸ hk)

theorem Steady.change (hs : h.Steady) (hc : Change h h') : h'.Steady := by
  cases hc with
  | called id call hh => exact hh ▸ hs.called id call
  | born key hb => exact hs.born hb
  | dropped p ids hd => exact hs.dropped hd
  | around hr hc hn ho => exact hs.around hr hc hn ho

theorem Steady.step_change (hs : h.Steady) (e : HubEvent) : Change h (h.step e) :=
  Hub.step_change hs.placed hs.numbered e

theorem Steady.step (hs : h.Steady) (e : HubEvent) : (h.step e).Steady :=
  hs.change (hs.step_change e)

theorem Steady.run (hs : h.Steady) (es : List HubEvent) : (h.run es).Steady := by
  induction es generalizing h with
  | nil => exact hs
  | cons e es ih => exact ih (hs.step e)

/-- Registry and channels stay as they are but for keys that lose their channels and do not see them
closed. -/
theorem Steady.unkeyed (hs : h.Steady) {r : Registry} (hr : r.Placed)
    (hf : ∀ key id, r.find? key = some id → h.registry.find? key = some id) :
    ({ h with registry := r } : Hub).Steady :=
  ⟨hr, hs.numbered, hs.built, fun key id hk => hs.serving key id (hf key id hk),
    fun key key' id hk hk' => hs.single key key' id (hf key id hk) (hf key' id hk'), hs.emptied⟩

/-! ## Every change keeps a hub sound -/

/-- Whatever changes, the channels that are open have keys. -/
theorem Sound.keyed_change (hs : h.Sound) (hc : Change h h') (ho : h'.IsOpen id) :
    ∃ key, h'.registry.find? key = some id := by
  cases hc with
  | called id' call hh =>
    subst hh
    rw [(call_rest h id' call).1]
    exact hs.keyed id ((isOpen_call h id' call id).1 ho)
  | born key hb =>
    simp only [hb.registry, Registry.find?_insert hs.placed]
    rcases (hb.isOpen id).1 ho with rfl | ho
    · exact ⟨key, if_pos rfl⟩
    · obtain ⟨key', hk⟩ := hs.keyed id ho
      refine ⟨key', (if_neg ?_).trans hk⟩
      rintro rfl
      rw [hb.absent] at hk
      cases hk
  | dropped p ids hd =>
    obtain ⟨hid, ho⟩ := (hd.isOpen id).1 ho
    obtain ⟨key, hk⟩ := hs.keyed id ho
    exact ⟨key, (hd.find?_iff hs.toSteady).2 ⟨hk, hid⟩⟩
  | around hr hc hn _ =>
    unfold IsOpen at ho
    rw [hc] at ho
    rw [hr]
    exact hs.keyed id ho

theorem Sound.change (hs : h.Sound) (hc : Change h h') : h'.Sound :=
  ⟨hs.toSteady.change hc, fun _ => hs.keyed_change hc⟩

theorem Sound.step (hs : h.Sound) (e : HubEvent) : (h.step e).Sound := hs.change (hs.step_change e)

theorem Sound.run (hs : h.Sound) (es : List HubEvent) : (h.run es).Sound := by
  induction es generalizing h with
  | nil => exact hs
  | cons e es ih => exact ih (hs.step e)

/-- A hub that has just been made. -/
theorem new_ok {hash : String → Nat} {buckets : Nat} {settings : ChannelSettings} {hasStore : Bool}
    {host : Host} (made : new hash buckets settings hasStore host = .ok h) :
    ∃ registry, Registry.new hash buckets = .ok registry ∧ h = ⟨settings, registry, .empty, 0, host⟩ := by
  unfold new at made
  split at made
  · cases made
  · next registry hr =>
    split at made
    · cases made
    · cases made
      exact ⟨registry, hr, rfl⟩

theorem sound_new {hash : String → Nat} {buckets : Nat} {settings : ChannelSettings}
    {hasStore : Bool} {now : Int} {ids : IdSource} {store : Store}
    (made : new hash buckets settings hasStore (.new now ids store) = .ok h) : h.Sound := by
  obtain ⟨registry, hr, rfl⟩ := new_ok made
  obtain ⟨placed, hf⟩ := Registry.placed_new hr
  have hnone : ∀ key id, registry.find? key ≠ some id := by
    intro key id hk
    rw [hf] at hk
    cases hk
  refine ⟨⟨placed, fun _ _ => rfl, fun id => ?_, fun key id hk => absurd hk (hnone key id),
    fun key key' id hk => absurd hk (hnone key id), ?_⟩, ?_⟩
  · exact ⟨fun hlt => absurd hlt (Nat.not_lt_zero id), fun hb => by cases hb⟩
  · intro id ch hch
    cases hch
  · rintro id ⟨ch, hch, -⟩
    cases hch

/-! ## Channels that are still open -/

/-- Since `h` no channel has opened again, the channels that are still open have kept their keys, and no
key has come to another bucket or been given an old channel. -/
structure Later (h h' : Hub) : Prop where
  next : h.nextChannel ≤ h'.nextChannel
  kept : ∀ id, id < h.nextChannel → h'.IsOpen id → h.IsOpen id ∧
    ∀ key, h.registry.find? key = some id → h'.registry.find? key = some id
  bucketOf : ∀ key, h'.registry.bucketOf key = h.registry.bucketOf key
  unkeyed : ∀ id, id < h.nextChannel → (∀ key, h.registry.find? key ≠ some id) →
    ∀ key, h'.registry.find? key ≠ some id

theorem Later.refl (h : Hub) : Later h h :=
  ⟨Nat.le_refl _, fun _ _ ho => ⟨ho, fun _ => id⟩, fun _ => rfl, fun _ _ hid => hid⟩

theorem Later.trans {h'' : Hub} (hl : Later h h') (hl' : Later h' h'') : Later h h'' where
  next := Nat.le_trans hl.next hl'.next
  kept := by
    intro id hlt ho
    obtain ⟨ho', hk'⟩ := hl'.kept id (Nat.lt_of_lt_of_le hlt hl.next) ho
    obtain ⟨ho'', hk⟩ := hl.kept id hlt ho'
    exact ⟨ho'', fun key hkey => hk' key (hk key hkey)⟩
  bucketOf := fun key => (hl'.bucketOf key).trans (hl.bucketOf key)
  unkeyed := fun id hlt hid =>
    hl'.unkeyed id (Nat.lt_of_lt_of_le hlt hl.next) (hl.unkeyed id hlt hid)

theorem Steady.later_change (hs : h.Steady) (hc : Change h h') : Later h h' := by
  refine ⟨?_, ?_, hc.bucketOf, fun id hlt hid => hc.unkeyed hs.placed hlt hid⟩
  · cases hc with
    | called id call hh => exact Nat.le_of_eq (hh ▸ (call_rest h id call).2.symm)
    | born key hb => exact hb.nextChannel ▸ Nat.le_succ _
    | dropped p ids hd => exact Nat.le_of_eq hd.nextChannel.symm
    | around hr hc hn ho => exact Nat.le_of_eq hn.symm
  · intro id hlt ho
    cases hc with
    | called id' call hh =>
      subst hh
      rw [(call_rest h id' call).1]
      exact ⟨(isOpen_call h id' call id).1 ho, fun _ hk => hk⟩
    | born key hb =>
      refine ⟨((hb.isOpen id).1 ho).resolve_left (Nat.ne_of_lt hlt), fun key' hk => ?_⟩
      rw [hb.registry, Registry.find?_insert hs.placed, if_neg, hk]
      rintro rfl
      rw [hb.absent] at hk
      cases hk
    | dropped p ids hd =>
      obtain ⟨hid, ho⟩ := (hd.isOpen id).1 ho
      exact ⟨ho, fun key hk => (hd.find?_iff hs).2 ⟨hk, hid⟩⟩
    | around hr hc hn _ =>
      rw [hr]
      unfold IsOpen at ho ⊢
      rw [hc] at ho
      exact ⟨ho, fun _ hk => hk⟩

theorem Steady.later_run (hs : h.Steady) (es : List HubEvent) : Later h (h.run es) := by
  induction es generalizing h with
  | nil => exact .refl h
  | cons e es ih => exact (hs.later_change (hs.step_change e)).trans (ih (hs.step e))

/-- A hub that was made without channels and has gone through any events since. -/
def Reachable (h : Hub) : Prop :=
  ∃ hash buckets settings hasStore now ids store h₀ es,
    new hash buckets settings hasStore (.new now ids store) = .ok h₀ ∧ h₀.run es = h

theorem Reachable.sound (hr : h.Reachable) : h.Sound := by
  obtain ⟨_, _, _, _, _, _, _, h₀, es, made, rfl⟩ := hr
  exact (sound_new made).run es

theorem Reachable.run (hr : h.Reachable) (es : List HubEvent) : (h.run es).Reachable := by
  obtain ⟨hash, buckets, settings, hasStore, now, ids, store, h₀, fs, made, rfl⟩ := hr
  exact ⟨hash, buckets, settings, hasStore, now, ids, store, h₀, fs ++ es, made, run_append h₀ fs es⟩

/-! ## Closed for good -/

/-- A closed channel has let go of everything, and stays that way. -/
theorem Steady.emptied_change (hs : h.Steady) (hc : Change h h') {ch : Channel}
    (hch : h.channels.get? id = some ch) (he : ch.Emptied) :
    ∃ ch', h'.channels.get? id = some ch' ∧ ch'.Emptied := by
  cases hc with
  | called id' call hh =>
    subst hh
    rw [call_channels]
    split
    · next hid =>
      rw [← hid, hch]
      exact ⟨_, rfl, (Channel.act_idle he h.host call).1⟩
    · exact ⟨ch, hch, he⟩
  | born key hb =>
    obtain ⟨deadline, hget⟩ := hb.channels_get? id
    rw [hget, if_neg (Nat.ne_of_lt (hs.lt_of_get? hch))]
    exact ⟨ch, hch, he⟩
  | dropped p ids hd =>
    rw [hd.channels]
    split
    · rw [hch]
      exact ⟨_, rfl, Channel.emptied_close ch h.host⟩
    · exact ⟨ch, hch, he⟩
  | around hr hc hn ho =>
    rw [hc]
    exact ⟨ch, hch, he⟩

theorem Steady.emptied_run (hs : h.Steady) (es : List HubEvent) {ch : Channel}
    (hch : h.channels.get? id = some ch) (he : ch.Emptied) :
    ∃ ch', (h.run es).channels.get? id = some ch' ∧ ch'.Emptied := by
  induction es generalizing h ch with
  | nil => exact ⟨ch, hch, he⟩
  | cons e es ih =>
    obtain ⟨ch', hch', he'⟩ := hs.emptied_change (hs.step_change e) hch he
    exact ih (hs.step e) hch' he'

/-- Calling a closed channel is noticed nowhere on the host. -/
theorem call_host_of_emptied {ch : Channel} (hch : h.channels.get? id = some ch) (he : ch.Emptied)
    (call : ChannelCall) : (h.call id call).host = h.host := by
  rw [call_host, hch]
  exact (Channel.act_idle he h.host call).2

theorem push_of_emptied {ch : Channel} (hch : h.channels.get? id = some ch) (he : ch.Emptied)
    (key : String) (m : Message) :
    (h.push id key m).1 = .error .closed ∨ (h.push id key m).1 = .error .messageExpired := by
  obtain ⟨e, hp, hcause⟩ := Channel.push_refused he.closed h.host key m
  have hpush : (h.push id key m).1 = .error e := by
    simp only [push, onChannel, hch, hp]
  rcases hcause with rfl | rfl
  · exact Or.inl hpush
  · exact Or.inr hpush

theorem attach_of_emptied {ch : Channel} (hch : h.channels.get? id = some ch) (he : ch.Emptied)
    (key : String) (c : ConnId) (lastId : Int) : (h.attach id key c lastId).1 = .error .closed := by
  simp only [attach, onChannel, hch, Channel.attach_refused he.closed]

/-! ## Connections of a channel that closes -/

theorem Change.onward (hc : Change h h') : h.host.Onward h'.host := by
  cases hc with
  | called id call hh => exact hh ▸ call_onward h id call
  | born key hb => exact hb.host ▸ .refl _
  | dropped p ids hd => exact hd.onward
  | around hr hc hn ho => exact ho

theorem Steady.onward_run (hs : h.Steady) (es : List HubEvent) : h.host.Onward (h.run es).host := by
  induction es generalizing h with
  | nil => exact .refl _
  | cons e es ih => exact (hs.step_change e).onward.trans (ih (hs.step e))

/-- A channel closes only by losing its key, and then its connections are asked to close. -/
theorem Change.dismissed (hc : Change h h') (ho : h.IsOpen id) (hx : ¬ h'.IsOpen id)
    {c : ConnId} {conn : Connection Push} (ha : h.isAttached id c = true)
    (hconn : h.host.conns.get? c = some conn) : h'.host.conns.get? c = some conn.close := by
  cases hc with
  | called id' call hh =>
    subst hh
    exact absurd ((isOpen_call h id' call id).2 ho) hx
  | born key hb => exact absurd ((hb.isOpen id).2 (Or.inr ho)) hx
  | dropped p ids hd =>
    have hid : id ∈ ids := Decidable.byContradiction fun hn => hx ((hd.isOpen id).2 ⟨hn, ho⟩)
    have hany : ids.any (fun id => h.isAttached id c) = true := List.any_eq_true.2 ⟨id, hid, ha⟩
    rw [hd.conns, hconn, Option.map_some, if_pos hany]
  | around hr hc hn hh =>
    refine absurd ?_ hx
    unfold IsOpen
    rw [hc]
    exact ho

/-! ## From making to closing -/

/-- The registry hands out open channels only. -/
theorem Steady.getOrCreate_isOpen (hs : h.Steady) (key : String) :
    (h.getOrCreate key).2.registry.find? key = some (h.getOrCreate key).1 ∧
      (h.getOrCreate key).2.IsOpen (h.getOrCreate key).1 := by
  have hs' : (h.getOrCreate key).2.Steady := hs.change (getOrCreate_change h key)
  have hk : (h.getOrCreate key).2.registry.find? key = some (h.getOrCreate key).1 := by
    cases hf : h.registry.find? key with
    | none =>
      rw [(born_getOrCreate hf).registry, Registry.find?_insert hs.placed, if_pos rfl,
        getOrCreate_fst hf]
    | some id =>
      simp only [getOrCreate, hf]
      exact hf
  exact ⟨hk, hs'.serving key _ hk⟩

/-- A key has no channel, or one that has passed its deadline and is closed, or one whose deadline is put
off. -/
inductive LookedUp (h : Hub) (key : String) : Except ChannelError ChannelId × Hub → Prop
  | missing (hk : h.registry.find? key = none) : LookedUp h key (.error .notExist, h)
  | expired {id : ChannelId} {ch : Channel} {h' : Hub} (hk : h.registry.find? key = some id)
      (hch : h.channels.get? id = some ch) (ht : ch.isTimedOut h.host.now = true)
      (hd : Dropped (· == key) [id] h h') : LookedUp h key (.error .expired, h')
  | found {id : ChannelId} {ch : Channel} (hk : h.registry.find? key = some id)
      (hch : h.channels.get? id = some ch) (ht : ch.isTimedOut h.host.now = false) :
      LookedUp h key (.ok id, h.refresh id)

theorem Steady.lookup_lookedUp (hs : h.Steady) (key : String) : LookedUp h key (h.lookup key) := by
  unfold lookup
  split
  · next hk => exact .missing hk
  · next id hk =>
    obtain ⟨ch, hch, -⟩ := hs.serving key id hk
    simp only [hch]
    split
    · next ht => exact .expired hk hch ht { dropped_erase hs.placed hk with }
    · next ht => exact .found hk hch (Bool.eq_false_iff.2 ht)

theorem lookup_ok_iff (h : Hub) (key : String) (id : ChannelId) :
    (h.lookup key).1 = .ok id ↔ h.registry.find? key = some id ∧
      ∃ ch, h.channels.get? id = some ch ∧ ch.isTimedOut h.host.now = false := by
  unfold lookup
  split
  · next hf => simp [hf]
  · next id' hf =>
    rw [hf, Option.some.injEq]
    split
    · next hn =>
      refine iff_of_false (by simp) ?_
      rintro ⟨rfl, ch, hch, -⟩
      rw [hn] at hch
      cases hch
    · next ch hch =>
      split
      · next ht =>
        refine iff_of_false (by simp) ?_
        rintro ⟨rfl, ch', hch', ht'⟩
        cases hch.symm.trans hch'
        rw [ht] at ht'
        cases ht'
      · next ht =>
        constructor
        · intro he
          cases he
          exact ⟨rfl, ch, hch, Bool.eq_false_iff.2 ht⟩
        · rintro ⟨rfl, -⟩
          rfl

theorem Steady.lookup_isOpen (hs : h.Steady) (hl : (h.lookup key).1 = .ok id) :
    (h.lookup key).2.IsOpen id := by
  obtain ⟨hf, ch, hch, ht⟩ := (lookup_ok_iff h key id).1 hl
  have hcall : (h.lookup key).2 =
      h.call id (.setDeadline (deadlineAfter h.host.now h.settings.lifetime)) := by
    simp only [lookup, hf, hch, ht, Bool.false_eq_true, if_false]
    rfl
  rw [hcall]
  exact (isOpen_call h id _ id).2 (hs.serving key id hf)

/-- A hub without channels, ten nanoseconds after the beginning of 1970. -/
def emptyHub : Hub :=
  ⟨⟨.inner, 4, 4, none, 1000⟩, ⟨Registry.spread, [.empty, .empty]⟩, .empty, 0,
    .new 10 .time (.ofMemory .new)⟩

theorem reachable_emptyHub (es : List HubEvent) : (emptyHub.run es).Reachable :=
  ⟨Registry.spread, 2, emptyHub.settings, false, 10, .time, .ofMemory .new, emptyHub, es, rfl, rfl⟩

/-- The life of a channel, in any hub that has come about, whatever `es` goes on to happen to it.  Every
channel ever made has exactly one key and is open, or has none and is closed.  The registry hands out
open channels only.  A closed channel has no connections and retains nothing, refuses messages and
connections, does not reach the host whatever is called on it, and stays closed.  When an event closes a
channel, every connection attached to it is asked to close, once and for all. -/
theorem channel_lifecycle (hr : h.Reachable) (es : List HubEvent) :
    (∀ id, id < h.nextChannel → ∃ ch, h.channels.get? id = some ch ∧
      ((ch.closed = false ∧ ∃ key, ∀ key', h.registry.find? key' = some id ↔ key' = key) ∨
        (ch.closed = true ∧ ∀ key, h.registry.find? key ≠ some id))) ∧
    (∀ key, (h.getOrCreate key).2.IsOpen (h.getOrCreate key).1) ∧
    (∀ key id, (h.lookup key).1 = .ok id → (h.lookup key).2.IsOpen id) ∧
    (∀ id ch, h.channels.get? id = some ch → ch.closed = true →
      (ch.attached = .empty ∧ ch.retained = []) ∧
      (∀ key m, (h.push id key m).1 = .error .closed ∨ (h.push id key m).1 = .error .messageExpired) ∧
      (∀ key c lastId, (h.attach id key c lastId).1 = .error .closed) ∧
      (∀ call, (h.call id call).host = h.host) ∧
      ∃ ch', (h.run es).channels.get? id = some ch' ∧ ch'.closed = true) ∧
    (∀ e id, h.IsOpen id → ¬ (h.step e).IsOpen id → ∀ c conn, h.isAttached id c = true →
      h.host.conns.get? c = some conn →
      ∃ conn', ((h.step e).run es).host.conns.get? c = some conn' ∧ conn'.closeRequested = true) := by
  have hs := hr.sound
  refine ⟨fun id hlt => ?_, fun key => (hs.getOrCreate_isOpen key).2,
    fun key id hl => hs.lookup_isOpen hl, fun id ch hch hc => ?_, fun e id ho hx c conn ha hconn => ?_⟩
  · obtain ⟨ch, hch⟩ := Option.isSome_iff_exists.1 ((hs.built id).1 hlt)
    refine ⟨ch, hch, ?_⟩
    cases hc : ch.closed with
    | false =>
      obtain ⟨key, hk⟩ := hs.keyed id ⟨ch, hch, hc⟩
      refine Or.inl ⟨rfl, key, fun key' => ⟨fun hk' => hs.single key' key id hk' hk, ?_⟩⟩
      rintro rfl
      exact hk
    | true =>
      refine Or.inr ⟨rfl, fun key hk => ?_⟩
      have ho := (hs.serving key id hk).get? hch
      rw [hc] at ho
      cases ho
  · have he := hs.emptied id ch hch hc
    obtain ⟨ch', hch', he'⟩ := hs.emptied_run es hch he
    exact ⟨⟨he.attached, he.retained⟩, push_of_emptied hch he, attach_of_emptied hch he,
      call_host_of_emptied hch he, ch', hch', he'.closed⟩
  · have hd := (hs.step_change e).dismissed ho hx ha hconn
    obtain ⟨conn', hconn', hreq⟩ := ((hs.step e).onward_run es).kept c _ hd
    exact ⟨conn', hconn', hreq rfl⟩

/-- The lookup that finds a channel expired closes it and its connection, and the next one for the key
is another channel. -/
theorem channel_lifecycle_of_an_expired_channel :
    let m (id : Int) : Message := ⟨id, [], .personal, 5000⟩
    let h := emptyHub.run [.getOrCreate "a", .getOrCreate "b", .host (.connect 2),
      .call 0 (.attach "a" 1 0), .call 0 (.replay 1 0), .call 0 (.push "a" (m 7)),
      .host (.clock 2000)]
    let h' := h.step (.lookup "a")
    let fs : List HubEvent := [.getOrCreate "a", .call 0 (.push "a" (m 8)), .call 0 (.replay 1 0)]
    (h.Reachable ∧ h.IsOpen 0 ∧ ¬ h'.IsOpen 0 ∧ h.isAttached 0 1 = true) ∧
      (∃ conn, (h'.run fs).host.conns.get? 1 = some conn ∧ conn.closeRequested = true) ∧
      (h'.getOrCreate "a").1 = 2 ∧ (h'.getOrCreate "a").2.IsOpen 2 ∧
      (∃ ch, (h'.run fs).channels.get? 0 = some ch ∧ ch.closed = true) := by
  intro m h h' fs
  have hr : h.Reachable := reachable_emptyHub _
  have hr' : h'.Reachable := hr.run [.lookup "a"]
  have ho : h.IsOpen 0 := by decide
  have hx : ¬ h'.IsOpen 0 := by decide
  have ha : h.isAttached 0 1 = true := by decide
  obtain ⟨-, -, -, -, hconns⟩ := channel_lifecycle hr fs
  obtain ⟨-, hget, -, hclosed, -⟩ := channel_lifecycle hr' fs
  have hid : (h'.getOrCreate "a").1 = 2 := by decide
  obtain ⟨ch, hch⟩ : ∃ ch, h'.channels.get? 0 = some ch := Option.isSome_iff_exists.1 (by decide)
  have hc : ch.closed = true := Bool.not_eq_false _ |>.mp fun hc => hx ⟨ch, hch, hc⟩
  obtain ⟨-, -, -, -, hstays⟩ := hclosed 0 ch hch hc
  exact ⟨⟨hr, ho, hx, ha⟩, hconns (.lookup "a") 0 ho hx 1 _ ha rfl, hid, hid ▸ hget "a", hstays⟩

end PushRelay.Hub
