import Mathlib

/-!
# The size of an artifact cache

A partition cache adds up the sizes of its artifacts in a counter, and evicts the
least recently accessed ones until the counter leaves room for a new one.
-/

namespace Dagens.Runtime.CacheSize

open List

structure CachedArtifact where
  data : List UInt8
  size : Nat
  accessedAt : Int

structure ArtifactCache where
  artifacts : AList fun _ : String => CachedArtifact
  totalSize : Int
  maxSize : Int

abbrev Entry := Sigma fun _ : String => CachedArtifact

/-- The order in which a loop over the map visits its entries. -/
structure MapOrder where
  arrange : List Entry → List Entry
  permutes : ∀ entries, (arrange entries).Perm entries

def removeFromCache (cache : ArtifactCache) (key : String) : ArtifactCache :=
  match cache.artifacts.lookup key with
  | some cached =>
    { cache with
      artifacts := cache.artifacts.erase key
      totalSize := cache.totalSize - cached.size }
  | none => cache

/-- The empty key stands for none found yet. -/
def oldestOf (entries : List Entry) : String × Int :=
  entries.foldl (fun (oldestKey, oldestTime) ⟨key, cached⟩ =>
    if oldestKey = "" ∨ cached.accessedAt < oldestTime then (key, cached.accessedAt)
    else (oldestKey, oldestTime)) ("", 0)

def evictOldestFromCache (order : MapOrder) (cache : ArtifactCache) : ArtifactCache :=
  let (oldestKey, _) := oldestOf (order.arrange cache.artifacts.entries)
  if oldestKey ≠ "" then removeFromCache cache oldestKey else cache

def ArtifactCache.crowded (cache : ArtifactCache) (dataSize : Nat) : Prop :=
  cache.maxSize < cache.totalSize + dataSize

instance (cache : ArtifactCache) (dataSize : Nat) : Decidable (cache.crowded dataSize) :=
  inferInstanceAs (Decidable (_ < _))

/-- The loop of `putInCache`, `none` when it has not ended after `fuel` turns. -/
def makeRoom (orders : Nat → MapOrder) (dataSize : Nat) :
    Nat → ArtifactCache → Option ArtifactCache
  | fuel, cache =>
    if cache.crowded dataSize ∧ cache.artifacts.entries ≠ [] then
      match fuel with
      | 0 => none
      | fuel + 1 => makeRoom orders dataSize fuel (evictOldestFromCache (orders fuel) cache)
    else some cache

def putInCache (orders : Nat → MapOrder) (fuel : Nat) (cache : ArtifactCache) (key : String)
    (data : List UInt8) (now : Int) : Option ArtifactCache :=
  (makeRoom orders data.length fuel cache).map fun cache =>
    if cache.crowded data.length then cache
    else
      { cache with
        artifacts := cache.artifacts.insert key ⟨data, data.length, now⟩
        totalSize := cache.totalSize + data.length }

/-- The size that is cached under a key. -/
def ArtifactCache.sizeAt (cache : ArtifactCache) (key : String) : Nat :=
  ((cache.artifacts.lookup key).map (·.size)).getD 0

/-- The size of the artifact that a put replaces. -/
def replacedSize (orders : Nat → MapOrder) (fuel : Nat) (cache : ArtifactCache) (key : String)
    (data : List UInt8) : Nat :=
  match makeRoom orders data.length fuel cache with
  | none => 0
  | some roomy => if roomy.crowded data.length then 0 else roomy.sizeAt key

/-- The caches that operations lead to, with the sizes of all artifacts that puts have
replaced on the way. `makeKey` makes no empty key. -/
inductive Reached (maxSize : Int) : Nat → ArtifactCache → Prop
  | new : Reached maxSize 0 ⟨∅, 0, maxSize⟩
  | put {replaced cache after} (orders fuel key data now) : Reached maxSize replaced cache →
      key ≠ "" → putInCache orders fuel cache key data now = some after →
      Reached maxSize (replaced + replacedSize orders fuel cache key data) after
  | remove {replaced cache} (key) : Reached maxSize replaced cache →
      Reached maxSize replaced (removeFromCache cache key)

def ArtifactCache.sizes (cache : ArtifactCache) : Nat :=
  (cache.artifacts.entries.map (·.2.size)).sum

structure Sound (maxSize : Int) (replaced : Nat) (cache : ArtifactCache) : Prop where
  limit : cache.maxSize = maxSize
  total : cache.totalSize = cache.sizes + replaced
  fits : cache.totalSize ≤ maxSize
  named : "" ∉ cache.artifacts

variable {maxSize : Int} {replaced : Nat} {cache after : ArtifactCache} {key : String}

theorem sizes_erase (cache : ArtifactCache) (key : String) :
    cache.sizes =
      cache.sizeAt key + ((kerase key cache.artifacts.entries).map (·.2.size)).sum := by
  by_cases present : key ∈ cache.artifacts
  · obtain ⟨cached, before, behind, -, split, erased⟩ := exists_of_kerase present
    have found : cache.artifacts.lookup key = some cached :=
      (mem_dlookup_iff cache.artifacts.nodupKeys).mpr (by simp [split])
    rw [erased, ArtifactCache.sizes, ArtifactCache.sizeAt, found, split]
    simp
    omega
  · rw [kerase_of_notMem_keys present, ArtifactCache.sizeAt, AList.lookup_eq_none.mpr present]
    exact (Nat.zero_add _).symm

theorem sound_remove (sound : Sound maxSize replaced cache) (key : String) :
    Sound maxSize replaced (removeFromCache cache key) := by
  unfold removeFromCache
  split
  · rename_i cached found
    have sizes := sizes_erase cache key
    have total := sound.total
    rw [ArtifactCache.sizeAt, found] at sizes
    refine ⟨sound.limit, ?_, ?_, fun member => sound.named (AList.mem_erase.mp member).2⟩
    · change cache.totalSize - cached.size =
        ((kerase key cache.artifacts.entries).map (·.2.size)).sum + replaced
      rw [total, sizes]
      simp
      omega
    · exact (Int.sub_le_self _ (Int.natCast_nonneg _)).trans sound.fits
  · exact sound

theorem oldest_mem (entries : List Entry) (filled : entries ≠ []) :
    (oldestOf entries).1 ∈ entries.map (·.1) := by
  induction entries using reverseRecOn with
  | nil => exact absurd rfl filled
  | append_singleton entries last ih =>
    rw [oldestOf, foldl_concat, map_append, mem_append]
    dsimp only
    split_ifs with newer
    · exact .inr mem_cons_self
    · rcases eq_or_ne entries [] with rfl | more
      · exact absurd (.inl rfl) newer
      · exact .inl (ih more)

theorem sound_evict (order : MapOrder) (sound : Sound maxSize replaced cache) :
    Sound maxSize replaced (evictOldestFromCache order cache) := by
  simp only [evictOldestFromCache]
  split_ifs
  · exact sound_remove sound _
  · exact sound

/-- As no key is empty, the loop finds an entry to remove. -/
theorem evict_shrinks (order : MapOrder) (sound : Sound maxSize replaced cache)
    (filled : cache.artifacts.entries ≠ []) :
    (evictOldestFromCache order cache).artifacts.entries.length <
      cache.artifacts.entries.length := by
  have visited := order.permutes cache.artifacts.entries
  have present : (oldestOf (order.arrange cache.artifacts.entries)).1 ∈ cache.artifacts :=
    (visited.map _).mem_iff.mp (oldest_mem _ fun none => filled (none ▸ visited).nil_eq.symm)
  have named : (oldestOf (order.arrange cache.artifacts.entries)).1 ≠ "" := by
    intro blank
    exact sound.named (blank ▸ present)
  obtain ⟨cached, found⟩ := Option.isSome_iff_exists.mp (AList.lookup_isSome.mpr present)
  obtain ⟨_, before, behind, -, split, erased⟩ := exists_of_kerase present
  simp only [evictOldestFromCache, if_pos named, removeFromCache, found]
  change (kerase _ _).length < _
  rw [erased, split]
  simp

variable {orders : Nat → MapOrder} {fuel : Nat}

theorem room_sound {dataSize : Nat} (sound : Sound maxSize replaced cache)
    (made : makeRoom orders dataSize fuel cache = some after) : Sound maxSize replaced after := by
  induction fuel generalizing cache with
  | zero =>
    rw [makeRoom] at made
    split_ifs at made
    cases made
    exact sound
  | succ fuel ih =>
    rw [makeRoom] at made
    split_ifs at made
    · exact ih (sound_evict _ sound) made
    · cases made
      exact sound

theorem room_made (dataSize : Nat) (sound : Sound maxSize replaced cache)
    (enough : cache.artifacts.entries.length ≤ fuel) :
    (makeRoom orders dataSize fuel cache).isSome := by
  induction fuel generalizing cache with
  | zero =>
    rw [makeRoom, if_neg fun full => full.2 (length_eq_zero_iff.mp (Nat.le_zero.mp enough))]
    rfl
  | succ fuel ih =>
    rw [makeRoom]
    split_ifs with full
    · exact ih (sound_evict _ sound)
        (Nat.le_of_lt_succ ((evict_shrinks _ sound full.2).trans_le enough))
    · rfl

theorem sound_put {data : List UInt8} {now : Int} (sound : Sound maxSize replaced cache)
    (named : key ≠ "") (stored : putInCache orders fuel cache key data now = some after) :
    Sound maxSize (replaced + replacedSize orders fuel cache key data) after := by
  obtain ⟨roomy, made, rfl⟩ := Option.map_eq_some_iff.mp stored
  have kept := room_sound sound made
  rw [replacedSize, made]
  dsimp only
  split_ifs with full
  · exact kept
  · have sizes := sizes_erase roomy key
    refine ⟨kept.limit, ?_, ?_, ?_⟩
    · rw [ArtifactCache.sizes, AList.entries_insert, map_cons, sum_cons, kept.total, sizes]
      push_cast
      ring
    · rw [ArtifactCache.crowded, not_lt, kept.limit] at full
      exact full
    · simp [AList.mem_insert, named.symm, kept.named]

theorem reached_sound (bound : 0 ≤ maxSize) (reached : Reached maxSize replaced cache) :
    Sound maxSize replaced cache := by
  induction reached with
  | new => exact ⟨rfl, rfl, bound, AList.notMem_empty _⟩
  | put _ _ _ _ _ _ named stored ih => exact sound_put ih named stored
  | remove key _ ih => exact sound_remove ih key

/-- The counter is the size of the cache exactly while no artifact that has a size was
replaced. It stays within its limit, and every put terminates. -/
theorem size_known_iff (maxSize : Int) (bound : 0 ≤ maxSize) (replaced : Nat)
    (cache : ArtifactCache) (reached : Reached maxSize replaced cache) :
    (cache.totalSize = cache.sizes ↔ replaced = 0) ∧ cache.totalSize ≤ maxSize ∧
    ∀ orders key data now, ∃ fuel, (putInCache orders fuel cache key data now).isSome := by
  have sound := reached_sound bound reached
  refine ⟨?_, sound.fits, fun orders key data now => ⟨cache.artifacts.entries.length, ?_⟩⟩
  · rw [sound.total, add_eq_left, Int.natCast_eq_zero]
  · rw [putInCache, Option.isSome_map]
    exact room_made data.length sound le_rfl

def asStored : Nat → MapOrder := fun _ => ⟨id, fun _ => .rfl⟩

/-- One artifact of one byte. -/
def single (key : String) (maxSize : Int) : ArtifactCache :=
  ⟨AList.singleton key ⟨[0], 1, 0⟩, 1, maxSize⟩

theorem single_reached : Reached 2 0 (single "a" 2) :=
  .put asStored 0 "a" [0] 0 .new (by decide) rfl

theorem single_size_known : (single "a" 2).totalSize = (single "a" 2).sizes :=
  (size_known_iff 2 (by decide) 0 _ single_reached).1.mpr rfl

theorem blank_kept (order : MapOrder) :
    evictOldestFromCache order (single "" 1) = single "" 1 := by
  have visited : order.arrange (single "" 1).artifacts.entries = [⟨"", ⟨[0], 1, 0⟩⟩] :=
    perm_singleton.mp (order.permutes _)
  simp only [evictOldestFromCache, visited]
  rfl

theorem no_room_beside_blank (orders : Nat → MapOrder) (fuel : Nat) :
    makeRoom orders 1 fuel (single "" 1) = none := by
  have turns : (single "" 1).crowded 1 ∧ (single "" 1).artifacts.entries ≠ [] :=
    ⟨by decide, cons_ne_nil _ _⟩
  induction fuel with
  | zero => rw [makeRoom, if_pos turns]
  | succ fuel ih =>
    rw [makeRoom, if_pos turns]
    rwa [blank_kept]

/-- The size of an artifact that is replaced stays in the counter; and beside an
artifact under the empty key a put may not end. -/
theorem replaced_size_kept :
    (∃ replaced cache, Reached 2 replaced cache ∧ cache.totalSize ≠ cache.sizes) ∧
    ∃ cache, putInCache asStored 0 ⟨∅, 0, 1⟩ "" [0] 0 = some cache ∧
      ∀ orders fuel, putInCache orders fuel cache "a" [0] 1 = none := by
  refine ⟨⟨_, _, .put asStored 0 "a" [0] 0 single_reached (by decide) rfl, by decide⟩,
    single "" 1, rfl, fun orders fuel => ?_⟩
  rw [putInCache]
  exact congrArg (Option.map _) (no_room_beside_blank orders fuel)

end Dagens.Runtime.CacheSize
