import PushRelay.Registry

/-!
# Keys and their buckets

`Placed r` says that every key of a registry stands in the bucket that is its own.  Then the buckets do
not show: an operation is known by what it does to `find?`, and `entries` lists each key once.

    r.Placed → (r.insert key id).find? key' = if key' = key then some id else r.find? key'
    r.Placed → ((key, id) ∈ r.entries ↔ r.find? key = some id)
-/

namespace PushRelay.Registry

variable {r : Registry} {key key' : String} {id : ChannelId}

/-- Every key stands in its own bucket, which there is. -/
structure Placed (r : Registry) : Prop where
  nonempty : 0 < r.buckets.length
  own : ∀ i bucket, r.buckets[i]? = some bucket → ∀ key id, bucket.get? key = some id →
    r.bucketOf key = i

theorem placed_new {hash : String → Nat} {count : Nat} (h : new hash count = .ok r) :
    r.Placed ∧ ∀ key, r.find? key = none := by
  unfold new at h
  split at h
  · next hpow =>
    cases h
    have hget : ∀ (i : Nat) (bucket : Table String ChannelId),
        (List.replicate count Table.empty)[i]? = some bucket → bucket = .empty := by
      intro i bucket hb
      rw [List.getElem?_replicate] at hb
      split at hb <;> cases hb
      rfl
    refine ⟨⟨?_, fun i bucket hb key id hk => ?_⟩, fun key => ?_⟩
    · rw [List.length_replicate]
      rcases Nat.eq_zero_or_pos count with rfl | hc
      · exact absurd hpow (by decide)
      · exact hc
    · rw [hget i bucket hb] at hk
      cases hk
    · unfold find?
      split
      · next bucket hb =>
        rw [hget _ bucket hb]
        rfl
      · rfl
  · cases h

theorem Placed.bucket (h : r.Placed) (key : String) :
    ∃ bucket, r.buckets[r.bucketOf key]? = some bucket := by
  have hlt : r.bucketOf key < r.buckets.length := Nat.mod_lt _ h.nonempty
  exact ⟨_, List.getElem?_eq_getElem hlt⟩

/-! ## Changing the bucket of a key -/

theorem bucketOf_modify (r : Registry) (i : Nat)
    (f : Table String ChannelId → Table String ChannelId) (key : String) :
    ({ r with buckets := r.buckets.modify i f } : Registry).bucketOf key = r.bucketOf key := by
  unfold bucketOf
  rw [List.length_modify]

/-- The channel of a key, after its bucket or that of another key has changed. -/
theorem find?_modify (r : Registry) (key : String)
    (f : Table String ChannelId → Table String ChannelId) (key' : String) :
    ({ r with buckets := r.buckets.modify (r.bucketOf key) f } : Registry).find? key' =
      (r.buckets[r.bucketOf key']?).bind fun bucket =>
        if r.bucketOf key = r.bucketOf key' then (f bucket).get? key' else bucket.get? key' := by
  unfold find?
  rw [bucketOf_modify, List.getElem?_modify]
  cases r.buckets[r.bucketOf key']? with
  | none => rfl
  | some bucket =>
    simp only [Option.map_eq_map, Option.map_some, Option.bind_some]
    split <;> rfl

/-- Keys stay in their buckets where a change adds at most a key whose bucket it is. -/
theorem Placed.modify (h : r.Placed) (key : String)
    (f : Table String ChannelId → Table String ChannelId)
    (hf : ∀ bucket key' id, (f bucket).get? key' = some id →
      key' = key ∨ bucket.get? key' = some id) :
    ({ r with buckets := r.buckets.modify (r.bucketOf key) f } : Registry).Placed := by
  refine ⟨by rw [List.length_modify]; exact h.nonempty, fun i bucket hb key' id hk => ?_⟩
  rw [bucketOf_modify]
  rw [List.getElem?_modify] at hb
  obtain ⟨old, hold, rfl⟩ := Option.map_eq_some_iff.1 hb
  split at hk
  · next hi =>
    rcases hf old key' id hk with rfl | hk
    · exact hi
    · exact h.own i old hold key' id hk
  · exact h.own i old hold key' id hk

theorem find?_insert (h : r.Placed) (key : String) (id : ChannelId) (key' : String) :
    (r.insert key id).find? key' = if key' = key then some id else r.find? key' := by
  unfold insert
  rw [find?_modify]
  obtain ⟨bucket, hb⟩ := h.bucket key'
  unfold find?
  simp only [hb, Option.bind_some, Table.get?_insert]
  by_cases hk : key' = key
  · subst hk
    simp
  · simp [hk]

theorem Placed.insert (h : r.Placed) (key : String) (id : ChannelId) : (r.insert key id).Placed := by
  refine h.modify key _ fun bucket key' id' hk => ?_
  rw [Table.get?_insert] at hk
  split at hk
  · next he => exact Or.inl he
  · exact Or.inr hk

theorem find?_erase (r : Registry) (key key' : String) :
    (r.erase key).find? key' = if key' = key then none else r.find? key' := by
  unfold erase
  rw [find?_modify]
  unfold find?
  cases r.buckets[r.bucketOf key']? with
  | none => simp
  | some bucket =>
    simp only [Option.bind_some, Table.get?_erase]
    by_cases hk : key' = key
    · subst hk
      simp
    · simp [hk]

theorem Placed.erase (h : r.Placed) (key : String) : (r.erase key).Placed := by
  refine h.modify key _ fun bucket key' id' hk => ?_
  rw [Table.get?_erase] at hk
  split at hk
  · cases hk
  · exact Or.inr hk

/-! ## Changing one bucket -/

theorem bucketOf_filterBucket (r : Registry) (i : Nat) (p : String → Bool) (key : String) :
    (r.filterBucket i p).bucketOf key = r.bucketOf key := bucketOf_modify _ _ _ key

theorem find?_filterBucket (r : Registry) (i : Nat) (p : String → Bool) (key : String) :
    (r.filterBucket i p).find? key =
      if r.bucketOf key = i ∧ p key = false then none else r.find? key := by
  unfold find?
  rw [bucketOf_filterBucket, filterBucket, List.getElem?_modify]
  cases r.buckets[r.bucketOf key]? with
  | none => simp
  | some bucket =>
    by_cases hi : i = r.bucketOf key
    · subst hi
      simp only [if_true, Option.map_eq_map, Option.map_some, Table.get?_filter, true_and]
      cases p key <;> cases bucket.get? key <;> rfl
    · simp [hi, Ne.symm hi]

theorem Placed.filterBucket (h : r.Placed) (i : Nat) (p : String → Bool) :
    (r.filterBucket i p).Placed := by
  refine ⟨by rw [Registry.filterBucket, List.length_modify]; exact h.nonempty,
    fun j bucket hb key id hk => ?_⟩
  rw [bucketOf_filterBucket]
  rw [Registry.filterBucket, List.getElem?_modify] at hb
  obtain ⟨old, hold, rfl⟩ := Option.map_eq_some_iff.1 hb
  refine h.own j old hold key id ?_
  split at hk
  · rw [Table.get?_filter] at hk
    exact (Option.filter_eq_some_iff.1 hk).1
  · exact hk

/-- The keys in a bucket are those that have a channel and are at home there. -/
theorem mem_bucket (h : r.Placed) {i : Nat} {bucket : Table String ChannelId}
    (hb : r.buckets[i]? = some bucket) :
    (key, id) ∈ bucket.entries ↔ r.bucketOf key = i ∧ r.find? key = some id := by
  rw [← Table.get?_eq_some]
  unfold find?
  constructor
  · intro hk
    have hi := h.own i bucket hb key id hk
    rw [hi, hb]
    exact ⟨rfl, hk⟩
  · rintro ⟨rfl, hk⟩
    rw [hb] at hk
    exact hk

/-! ## Changing all buckets -/

theorem bucketOf_map (r : Registry) (f : Table String ChannelId → Table String ChannelId)
    (key : String) :
    ({ r with buckets := r.buckets.map f } : Registry).bucketOf key = r.bucketOf key := by
  unfold bucketOf
  rw [List.length_map]

/-- Keys stay in their buckets where a change adds none. -/
theorem Placed.map (h : r.Placed) (f : Table String ChannelId → Table String ChannelId)
    (hf : ∀ bucket key id, (f bucket).get? key = some id → bucket.get? key = some id) :
    ({ r with buckets := r.buckets.map f } : Registry).Placed := by
  refine ⟨by rw [List.length_map]; exact h.nonempty, fun i bucket hb key id hk => ?_⟩
  rw [bucketOf_map]
  rw [List.getElem?_map] at hb
  obtain ⟨old, hold, rfl⟩ := Option.map_eq_some_iff.1 hb
  exact h.own i old hold key id (hf old key id hk)

theorem find?_filter (r : Registry) (p : String → Bool) (key : String) :
    (r.filter p).find? key = if p key then r.find? key else none := by
  unfold filter find?
  rw [bucketOf_map, List.getElem?_map]
  cases r.buckets[r.bucketOf key]? with
  | none => simp
  | some bucket =>
    simp only [Option.map_some, Table.get?_filter]
    cases bucket.get? key <;> simp [Option.filter]

theorem Placed.filter (h : r.Placed) (p : String → Bool) : (r.filter p).Placed := by
  refine h.map _ fun bucket key id hk => ?_
  rw [Table.get?_filter] at hk
  exact (Option.filter_eq_some_iff.1 hk).1

theorem find?_clear (r : Registry) (key : String) : r.clear.find? key = none := by
  unfold clear find?
  rw [bucketOf_map, List.getElem?_map]
  cases r.buckets[r.bucketOf key]? <;> rfl

theorem Placed.clear (h : r.Placed) : r.clear.Placed := h.map _ fun _ _ _ hk => by cases hk

/-! ## Listing -/

theorem mem_entries (h : r.Placed) : (key, id) ∈ r.entries ↔ r.find? key = some id := by
  unfold entries find?
  rw [List.mem_flatMap]
  constructor
  · rintro ⟨bucket, hb, hk⟩
    obtain ⟨i, hi⟩ := List.mem_iff_getElem?.1 hb
    have hget : bucket.get? key = some id := Table.get?_eq_some.2 hk
    rw [h.own i bucket hi key id hget, hi]
    exact hget
  · intro hf
    split at hf
    · next bucket hb => exact ⟨bucket, List.mem_of_getElem? hb, Table.get?_eq_some.1 hf⟩
    · cases hf

theorem nodup_entries (h : r.Placed) : (r.entries.map (·.1)).Nodup := by
  unfold entries
  rw [List.map_flatMap, List.Nodup, List.pairwise_flatMap]
  refine ⟨fun bucket _ => bucket.distinct, ?_⟩
  rw [List.pairwise_iff_getElem]
  intro i j hi hj hij key hk key' hk' he
  -- a key in two buckets would be at home in both
  obtain ⟨e, hmem, rfl⟩ := List.mem_map.1 hk
  obtain ⟨e', hmem', rfl⟩ := List.mem_map.1 hk'
  have hi' := h.own i _ (List.getElem?_eq_getElem hi) e.1 e.2 (Table.get?_eq_some.2 hmem)
  have hj' := h.own j _ (List.getElem?_eq_getElem hj) e'.1 e'.2 (Table.get?_eq_some.2 hmem')
  rw [he] at hi'
  omega

theorem size_eq (r : Registry) : r.size = r.entries.length := by
  have hsize : r.size = (r.buckets.map Table.size).sum := by
    rw [List.sum_eq_foldl, List.foldl_map]
    rfl
  rw [hsize, entries, List.length_flatMap]
  rfl

end PushRelay.Registry
