import Mathlib

/-!
# Parties in a list

The parties of a system sit in a list and are named by their position. A step of
one of them replaces its entry.
-/

namespace Dagens.Lib.Parties

open List

variable {Party : Type} {parties : List Party} {index : Nat} {party next one : Party}

theorem mem_set_cases (member : one ∈ parties.set index next) :
    one = next ∨ ∃ other, other ≠ index ∧ parties[other]? = some one := by
  obtain ⟨other, found⟩ := mem_iff_getElem?.mp member
  rw [getElem?_set] at found
  split_ifs at found with same bound
  · exact .inl (Option.some.inj found).symm
  · exact .inr ⟨other, Ne.symm same, found⟩

theorem mem_set_old (member : one ∈ parties.set index next) : one = next ∨ one ∈ parties := by
  rcases mem_set_cases member with rfl | ⟨_, _, found⟩
  · exact .inl rfl
  · exact .inr (mem_of_getElem? found)

theorem mem_set_self (found : parties[index]? = some party) (next : Party) :
    next ∈ parties.set index next :=
  mem_set (List.getElem?_eq_some_iff.mp found).1 next

theorem mem_set_other {other : Nat} (apart : other ≠ index) (found : parties[other]? = some one)
    (next : Party) : one ∈ parties.set index next := by
  refine mem_iff_getElem?.mpr ⟨other, ?_⟩
  rw [getElem?_set_ne (Ne.symm apart), found]

variable {place : Nat} {clash : Party → Party → Prop} {Thing : Type} {things : List Thing}

theorem found_set_cases (found : (parties.set index next)[place]? = some one) :
    place = index ∧ one = next ∨ place ≠ index ∧ parties[place]? = some one := by
  rw [getElem?_set] at found
  split_ifs at found with same bound
  · exact .inl ⟨same.symm, (Option.some.inj found).symm⟩
  · exact .inr ⟨Ne.symm same, found⟩

theorem found_append_cases (found : (parties ++ [next])[place]? = some one) :
    parties[place]? = some one ∨ place = parties.length ∧ one = next := by
  rw [getElem?_append] at found
  split_ifs at found with inside
  · exact .inl found
  · obtain ⟨first, same⟩ := List.getElem?_eq_some_iff.mp found
    simp only [length_singleton] at first
    refine .inr ⟨by omega, ?_⟩
    rw [← same, getElem_singleton]

/-- No two parties clash. -/
def Apart (clash : Party → Party → Prop) (parties : List Party) : Prop :=
  ∀ (first second : Nat) (one two : Party), parties[first]? = some one →
    parties[second]? = some two → clash one two → first = second

section

variable (symmetric : ∀ one two, clash one two → clash two one) (apart : Apart clash parties)

include symmetric apart

theorem apart_set
    (alone : ∀ (place : Nat) (other : Party), place ≠ index → parties[place]? = some other → ¬ clash
      other next) : Apart clash (parties.set index next) := by
  intro first second one two foundOne foundTwo clashing
  rcases found_set_cases foundOne with ⟨isFirst, rfl⟩ | ⟨apartOne, oldOne⟩
  · rcases found_set_cases foundTwo with ⟨isSecond, rfl⟩ | ⟨apartTwo, oldTwo⟩
    · exact isFirst.trans isSecond.symm
    · exact absurd (symmetric _ _ clashing) (alone second two apartTwo oldTwo)
  · rcases found_set_cases foundTwo with ⟨_, rfl⟩ | ⟨_, oldTwo⟩
    · exact absurd clashing (alone first one apartOne oldOne)
    · exact apart first second one two oldOne oldTwo clashing

theorem apart_append (alone : ∀ other, ¬ clash other next) : Apart clash (parties ++ [next]) := by
  intro first second one two foundOne foundTwo clashing
  rcases found_append_cases foundOne with oldOne | ⟨_, rfl⟩
  · rcases found_append_cases foundTwo with oldTwo | ⟨_, rfl⟩
    · exact apart first second one two oldOne oldTwo clashing
    · exact absurd clashing (alone one)
  · exact absurd (symmetric _ _ clashing) (alone two)

end

theorem countP_set_found (found : parties[index]? = some party) (next : Party)
    (counts : Party → Bool) :
    (parties.set index next).countP counts + (if counts party then 1 else 0) =
      parties.countP counts + (if counts next then 1 else 0) := by
  obtain ⟨bound, rfl⟩ := List.getElem?_eq_some_iff.mp found
  have counted := countP_set (p := counts) (a := next) bound
  have atLeast : (if counts parties[index] then 1 else 0) ≤ parties.countP counts := by
    split_ifs with held
    · exact countP_pos_iff.mpr ⟨_, getElem_mem bound, held⟩
    · exact Nat.zero_le _
  omega

variable {kind : Party → Bool}

theorem length_le_countP (distinct : things.Nodup) (belongs : Party → Thing)
    (owned : ∀ thing ∈ things, ∃ party ∈ parties, kind party = true ∧ belongs party = thing) :
    things.length ≤ parties.countP kind := by
  have inside : things ⊆ (parties.filter kind).map belongs := by
    intro thing member
    obtain ⟨_, present, isKind, rfl⟩ := owned thing member
    exact List.mem_map_of_mem (mem_filter.mpr ⟨present, isKind⟩)
  have bound := (subperm_of_subset distinct inside).length_le
  simpa [countP_eq_length_filter] using bound

theorem countP_le_length (belongs : Party → Thing)
    (owned : ∀ party ∈ parties, kind party = true → belongs party ∈ things)
    (apart : Apart (fun one two => kind one = true ∧ kind two = true ∧ belongs one = belongs two)
      parties) :
    parties.countP kind ≤ things.length := by
  have distinct : ((parties.filter kind).map belongs).Nodup := by
    rw [List.Nodup, pairwise_map, pairwise_filter, pairwise_iff_getElem]
    intro first second before bound _ isKind isKindToo same
    have equal := apart first second _ _ (getElem?_eq_getElem before)
      (getElem?_eq_getElem bound) ⟨isKind, isKindToo, same⟩
    omega
  have inside : (parties.filter kind).map belongs ⊆ things := by
    intro _ member
    obtain ⟨party, present, rfl⟩ := List.mem_map.mp member
    obtain ⟨listed, isKind⟩ := mem_filter.mp present
    exact owned party listed isKind
  have bound := (subperm_of_subset distinct inside).length_le
  simpa [countP_eq_length_filter] using bound

theorem countP_le_one (alone : Apart (fun one two => kind one = true ∧ kind two = true) parties) :
    parties.countP kind ≤ 1 := by
  have bound : parties.countP kind ≤ [()].length := by
    refine countP_le_length (fun _ => ()) (by simp) ?_
    exact fun first second one two foundOne foundTwo both =>
      alone first second one two foundOne foundTwo ⟨both.1, both.2.1⟩
  exact bound

end Dagens.Lib.Parties
