import Mathlib

/-!
# A key-value store with revisions

Every write has its own revision, and an entry remembers the revision that
created its key and the one that last wrote it. The entries are kept in the order
of their creation: a write to a known key leaves its entry in place, a deleted key
that is written again goes to the end. Ranges are therefore sorted by creation
without further ado.
-/

namespace Dagens.Lib.RevisionStore

open List Function Option

structure KeyValue (Key Value : Type) where
  key : Key
  value : Value
  createRevision : Nat
  modRevision : Nat
  deriving DecidableEq, Repr

/-- No two entries share a key or a revision. -/
structure Store (Key Value : Type) where
  revision : Nat
  kvs : List (KeyValue Key Value)
  apart : kvs.Pairwise fun one other =>
    one.key ≠ other.key ∧ one.createRevision < other.createRevision ∧
      one.modRevision ≠ other.modRevision
  past : ∀ kv ∈ kvs, kv.createRevision ≤ kv.modRevision ∧ kv.modRevision ≤ revision

namespace Store

variable {Key Value : Type}

def empty : Store Key Value := ⟨0, [], List.Pairwise.nil, by simp⟩

/-- The keys in the order of their creation. -/
def keys (store : Store Key Value) : List Key := store.kvs.map (·.key)

theorem nodup_keys (store : Store Key Value) : store.keys.Nodup :=
  pairwise_map.mpr (store.apart.imp fun apart => apart.1)

/-- The entries within a part of the key space, oldest first. -/
def range (store : Store Key Value) (within : Key → Bool) : List (KeyValue Key Value) :=
  store.kvs.filter fun kv => within kv.key

theorem range_keys (store : Store Key Value) (within : Key → Bool) :
    (store.range within).map (·.key) = store.keys.filter within := by
  simp [range, keys, List.filter_map, comp_def]

/-- Deleting nothing is not a write. -/
def delete (store : Store Key Value) (drops : Key → Bool) : Store Key Value where
  revision := if store.keys.any drops then store.revision + 1 else store.revision
  kvs := store.kvs.filter fun kv => !drops kv.key
  apart := store.apart.filter _
  past := by
    intro kv member
    have past := store.past kv (List.mem_of_mem_filter member)
    split_ifs <;> omega

@[simp] theorem keys_delete (store : Store Key Value) (drops : Key → Bool) :
    (store.delete drops).keys = store.keys.filter fun key => !drops key := by
  simp [delete, keys, List.filter_map, comp_def]

/-- The key with the lowest creation revision. -/
def oldest (store : Store Key Value) : Option Key := store.keys.head?

variable {store first later : Store Key Value} {key : Key}

theorem oldest_delete {drops : Key → Bool} (first : store.oldest = some key)
    (kept : drops key = false) :
    (store.delete drops).oldest = some key := by
  obtain ⟨_, keys⟩ := head?_eq_some_iff.mp first
  rw [oldest, keys_delete, keys, filter_cons_of_pos (by simp [kept]), head?_cons]

variable [DecidableEq Key]

def get (store : Store Key Value) (key : Key) : Option Value :=
  (store.kvs.find? fun kv => decide (kv.key = key)).map (·.value)

variable {value : Value} {kv : KeyValue Key Value}

theorem get_eq_some_iff :
    store.get key = some value ↔ ∃ kv ∈ store.kvs, kv.key = key ∧ kv.value = value := by
  constructor
  · intro got
    obtain ⟨kv, found, same⟩ := map_eq_some_iff.mp got
    exact ⟨kv, mem_of_find?_eq_some found, by simpa using find?_some found, same⟩
  · rintro ⟨kv, member, rfl, rfl⟩
    cases found : store.kvs.find? fun other => decide (other.key = kv.key) with
    | none => simpa using find?_eq_none.mp found kv member
    | some other =>
      have sameKey : other.key = kv.key := by simpa using find?_some found
      have distinct := store.nodup_keys
      have same : other = kv := inj_on_of_nodup_map distinct
        (mem_of_find?_eq_some found) member sameKey
      rw [get, found, same, map_some]

theorem get_delete (store : Store Key Value) (drops : Key → Bool) (key : Key) :
    (store.delete drops).get key = if drops key then none else store.get key := by
  apply ext
  intro _
  rw [get_eq_some_iff]
  simp only [delete, mem_filter, Bool.not_eq_eq_eq_not, Bool.not_true]
  split_ifs with dropped
  · simp only [iff_false, not_exists, not_and, and_imp]
    rintro kv member kept rfl
    rw [dropped] at kept
    cases kept
  · rw [get_eq_some_iff]
    constructor
    · rintro ⟨kv, ⟨member, _⟩, same⟩
      exact ⟨kv, member, same⟩
    · rintro ⟨kv, member, rfl, rfl⟩
      exact ⟨kv, ⟨member, by simpa using dropped⟩, rfl, rfl⟩

def rewrite (key : Key) (value : Value) (revision : Nat) (kv : KeyValue Key Value) :
    KeyValue Key Value :=
  if kv.key = key then { kv with value := value, modRevision := revision } else kv

@[simp] theorem rewrite_key (key : Key) (value : Value) (revision : Nat)
    (kv : KeyValue Key Value) : (rewrite key value revision kv).key = kv.key := by
  unfold rewrite
  split_ifs <;> rfl

@[simp] theorem rewrite_create (key : Key) (value : Value) (revision : Nat)
    (kv : KeyValue Key Value) :
    (rewrite key value revision kv).createRevision = kv.createRevision := by
  unfold rewrite
  split_ifs <;> rfl

theorem rewrite_mod (key : Key) (value : Value) (revision : Nat) (kv : KeyValue Key Value) :
    (rewrite key value revision kv).modRevision =
      if kv.key = key then revision else kv.modRevision := by
  unfold rewrite
  split_ifs <;> rfl

def put (store : Store Key Value) (key : Key) (value : Value) : Store Key Value :=
  if known : key ∈ store.keys then {
    revision := store.revision + 1
    kvs := store.kvs.map (rewrite key value (store.revision + 1))
    apart := by
      refine List.pairwise_map.mpr (store.apart.imp_of_mem ?_)
      intro one other first second apart
      have oldOne := store.past one first
      have oldOther := store.past other second
      refine ⟨by simpa using apart.1, by simpa using apart.2.1, ?_⟩
      simp only [rewrite_mod]
      split_ifs with isOne isOther isOther
      · exact absurd (isOne.trans isOther.symm) apart.1
      · omega
      · omega
      · exact apart.2.2
    past := by
      intro kv member
      obtain ⟨old, oldMember, rfl⟩ := List.mem_map.mp member
      have past := store.past old oldMember
      simp only [rewrite_create, rewrite_mod]
      split_ifs <;> omega }
  else {
    revision := store.revision + 1
    kvs := store.kvs ++ [⟨key, value, store.revision + 1, store.revision + 1⟩]
    apart := by
      refine List.pairwise_append.mpr ⟨store.apart, List.pairwise_singleton _ _, ?_⟩
      intro old member fresh isFresh
      obtain rfl := List.mem_singleton.mp isFresh
      have past := store.past old member
      have other : old.key ≠ key :=
        fun same => known (same ▸ List.mem_map_of_mem member)
      exact ⟨other, by simp only; omega, by simp only; omega⟩
    past := by
      intro kv member
      rcases List.mem_append.mp member with old | fresh
      · have past := store.past kv old
        omega
      · obtain rfl := List.mem_singleton.mp fresh
        exact ⟨le_refl _, le_refl _⟩ }

section

variable (value)

theorem kvs_put_known (known : key ∈ store.keys) :
    (store.put key value).kvs = store.kvs.map (rewrite key value (store.revision + 1)) := by
  rw [put, dif_pos known]

theorem kvs_put_new (unknown : key ∉ store.keys) :
    (store.put key value).kvs =
      store.kvs ++ [⟨key, value, store.revision + 1, store.revision + 1⟩] := by
  rw [put, dif_neg unknown]

theorem keys_put_known (known : key ∈ store.keys) : (store.put key value).keys = store.keys := by
  simp [keys, kvs_put_known value known, comp_def]

theorem keys_put_new (unknown : key ∉ store.keys) :
    (store.put key value).keys = store.keys ++ [key] := by
  simp [keys, kvs_put_new value unknown]

end

@[simp] theorem mem_keys_put (store : Store Key Value) (key : Key) (value : Value)
    (other : Key) : other ∈ (store.put key value).keys ↔ other = key ∨ other ∈ store.keys := by
  by_cases known : key ∈ store.keys
  · rw [keys_put_known value known]
    constructor
    · exact .inr
    · rintro (rfl | member)
      · exact known
      · exact member
  · rw [keys_put_new value known, List.mem_append, mem_singleton, or_comm]

theorem get_put (store : Store Key Value) (key : Key) (value : Value) (other : Key) :
    (store.put key value).get other = if other = key then some value else store.get other := by
  apply ext
  intro _
  rw [get_eq_some_iff]
  by_cases known : key ∈ store.keys
  · rw [kvs_put_known value known]
    simp only [List.mem_map, exists_exists_and_eq_and, rewrite_key]
    split_ifs with same
    · subst same
      obtain ⟨kv, member, isKey⟩ := List.mem_map.mp known
      constructor
      · rintro ⟨old, _, sameKey, rfl⟩
        simp [rewrite, sameKey]
      · intro isValue
        exact ⟨kv, member, isKey, by simpa [rewrite, isKey] using isValue⟩
    · rw [get_eq_some_iff]
      constructor
      · rintro ⟨old, member, rfl, rfl⟩
        exact ⟨old, member, rfl, by simp [rewrite, same]⟩
      · rintro ⟨old, member, rfl, rfl⟩
        exact ⟨old, member, rfl, by simp [rewrite, same]⟩
  · rw [kvs_put_new value known]
    simp only [List.mem_append, mem_singleton]
    split_ifs with same
    · subst same
      constructor
      · rintro ⟨old, member | rfl, sameKey, rfl⟩
        · exact absurd (sameKey ▸ List.mem_map_of_mem member) known
        · rfl
      · rintro ⟨⟩
        exact ⟨_, .inr rfl, rfl, rfl⟩
    · rw [get_eq_some_iff]
      constructor
      · rintro ⟨old, member | rfl, rfl, rfl⟩
        · exact ⟨old, member, rfl, rfl⟩
        · exact absurd rfl same
      · rintro ⟨old, member, sameKey, rfl⟩
        exact ⟨old, .inl member, sameKey, rfl⟩

/-- A transaction that writes a key only if it does not exist. -/
def create (store : Store Key Value) (key : Key) (value : Value) : Store Key Value :=
  if key ∈ store.keys then store else store.put key value

@[simp] theorem mem_keys_create (store : Store Key Value) (key : Key) (value : Value)
    (other : Key) : other ∈ (store.create key value).keys ↔ other = key ∨ other ∈ store.keys := by
  unfold create
  split_ifs with known
  · constructor
    · exact .inr
    · rintro (rfl | member)
      · exact known
      · exact member
  · exact mem_keys_put store key value other

theorem oldest_create (first : store.oldest = some key) (other : Key) (value : Value) :
    (store.create other value).oldest = some key := by
  unfold create
  split_ifs with known
  · exact first
  · obtain ⟨_, keys⟩ := head?_eq_some_iff.mp first
    rw [oldest, keys_put_new value known, keys, cons_append, head?_cons]

/-- The store after some writes and deletions. -/
inductive Evolves (first : Store Key Value) : Store Key Value → Prop where
  | refl : Evolves first first
  | put {store : Store Key Value} (earlier : Evolves first store) (key : Key) (value : Value) :
      Evolves first (store.put key value)
  | delete {store : Store Key Value} (earlier : Evolves first store) (drops : Key → Bool) :
      Evolves first (store.delete drops)

theorem revision_put (store : Store Key Value) (key : Key) (value : Value) :
    (store.put key value).revision = store.revision + 1 := by
  unfold put
  split_ifs <;> rfl

theorem mem_put (member : kv ∈ (store.put key value).kvs) :
    kv ∈ store.kvs ∨ kv.modRevision = store.revision + 1 := by
  by_cases known : key ∈ store.keys
  · rw [kvs_put_known value known] at member
    obtain ⟨old, _, rfl⟩ := List.mem_map.mp member
    by_cases same : old.key = key
    · exact .inr (by rw [rewrite_mod, if_pos same])
    · exact .inl (by rwa [rewrite, if_neg same])
  · rw [kvs_put_new value known] at member
    rcases List.mem_append.mp member with old | new
    · exact .inl old
    · rw [mem_singleton.mp new]
      exact .inr rfl

theorem evolves_revision (evolves : first.Evolves later) :
    first.revision ≤ later.revision := by
  induction evolves with
  | refl => exact le_refl _
  | put =>
    rw [revision_put]
    omega
  | delete =>
    simp only [delete]
    split_ifs <;> omega

theorem evolves_entry (evolves : first.Evolves later) (member : kv ∈ later.kvs) :
    kv ∈ first.kvs ∨ first.revision < kv.modRevision := by
  induction evolves with
  | refl => exact .inl member
  | put earlier _ _ ih =>
    rcases mem_put member with old | _
    · exact ih old
    · have before := evolves_revision earlier
      exact .inr (by omega)
  | delete _ _ ih => exact ih (mem_of_mem_filter member)

theorem evolves_mod_ne (evolves : first.Evolves later) {one other : KeyValue Key Value}
    (inside : one ∈ first.kvs) (member : other ∈ later.kvs) (different : other.key ≠ one.key) :
    other.modRevision ≠ one.modRevision := by
  intro same
  rcases evolves_entry evolves member with old | _
  · have distinct : (first.kvs.map (·.modRevision)).Nodup :=
      pairwise_map.mpr (first.apart.imp fun apart => apart.2.2)
    exact different (congrArg _ (inj_on_of_nodup_map distinct old inside same))
  · have past := (first.past one inside).2
    omega

end Store

end Dagens.Lib.RevisionStore
