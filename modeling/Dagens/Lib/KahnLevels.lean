import Mathlib

/-!
# Kahn's algorithm, level by level

`succs` lists the targets of the edges that leave a node, with multiplicity.
Processing a level lowers the in-degree of every target; a target whose degree
reaches zero joins the next level. When the initial level holds exactly the
nodes without incoming edges, every edge leads to a strictly later level.
-/

namespace Dagens.Lib.KahnLevels

open List Function

variable {Node : Type} [DecidableEq Node]

/-- One edge: its target loses one from its degree. -/
def relaxEdge (state : (Node → Int) × List Node) (target : Node) : (Node → Int) × List Node :=
  let degree := state.1 target - 1
  (update state.1 target degree,
    if degree = 0 then state.2 ++ [target] else state.2)

def relaxAll (degrees : Node → Int) (targets : List Node) : (Node → Int) × List Node :=
  targets.foldl relaxEdge (degrees, [])

/-- The levels from `level` on. The fuel bounds the number of levels. -/
def levelsFrom (succs : Node → List Node) :
    (fuel : Nat) → (Node → Int) → List Node → List (List Node)
  | 0, _, _ => []
  | fuel + 1, degrees, level =>
    if level = [] then []
    else
      let relaxed := relaxAll degrees (level.flatMap succs)
      level :: levelsFrom succs fuel relaxed.1 relaxed.2

def inDegree (succs : Node → List Node) (nodes : List Node) (node : Node) : Int :=
  ((nodes.flatMap succs).count node : Nat)

section

variable (targets : List Node) (degrees : Node → Int) (collected : List Node)

include targets degrees collected

theorem relax_degrees (node : Node) :
    (targets.foldl relaxEdge (degrees, collected)).1 node = degrees node - targets.count node := by
  induction targets generalizing degrees collected with
  | nil => simp
  | cons target _ ih =>
    simp only [foldl_cons, relaxEdge]
    rw [ih]
    by_cases same : node = target
    · subst same
      simp [update_self]
      omega
    · have apart : target ≠ node := fun equal => same equal.symm
      rw [update_of_ne same, count_cons_of_ne apart]

theorem relax_collected (node : Node) :
    node ∈ (targets.foldl relaxEdge (degrees, collected)).2 ↔
      node ∈ collected ∨ 1 ≤ degrees node ∧ degrees node ≤ targets.count node := by
  induction targets generalizing degrees collected with
  | nil =>
    simp only [foldl_nil, count_nil, Nat.cast_zero]
    constructor
    · exact .inl
    · rintro (member | ⟨low, high⟩)
      · exact member
      · omega
  | cons target _ ih =>
    simp only [foldl_cons, relaxEdge]
    rw [ih]
    by_cases same : node = target
    · subst same
      rw [update_self, count_cons_self]
      push_cast
      split_ifs with zero
      · simp only [List.mem_append, mem_singleton, or_true, true_or, true_iff]
        right
        omega
      · constructor
        · rintro (member | ⟨low, high⟩)
          · exact .inl member
          · exact .inr ⟨by omega, by omega⟩
        · rintro (member | ⟨_⟩)
          · exact .inl member
          · exact .inr ⟨by omega, by omega⟩
    · have apart : target ≠ node := fun equal => same equal.symm
      rw [update_of_ne same, count_cons_of_ne apart]
      split_ifs with zero
      · simp [same]
      · rfl

theorem relax_nodup (nodup : collected.Nodup) (passed : ∀ node ∈ collected, degrees node ≤ 0) :
    (targets.foldl relaxEdge (degrees, collected)).2.Nodup := by
  induction targets generalizing degrees collected with
  | nil => exact nodup
  | cons target _ ih =>
    simp only [foldl_cons, relaxEdge]
    have lowered : ∀ node ∈ collected, update degrees target (degrees target - 1) node ≤ 0 := by
      intro node member
      by_cases same : node = target
      · subst same
        rw [update_self]
        have before := passed node member
        omega
      · rw [update_of_ne same]
        exact passed node member
    split_ifs with zero
    · apply ih
      · rw [nodup_append]
        refine ⟨nodup, nodup_singleton target, ?_⟩
        rintro node member _ last rfl
        rw [mem_singleton] at last
        subst last
        have before := passed node member
        omega
      · intro node member
        rcases List.mem_append.mp member with old | new
        · exact lowered node old
        · rw [mem_singleton] at new
          subst new
          rw [update_self]
          omega
    · exact ih _ _ nodup lowered

end

section Levels

variable (succs : Node → List Node) (nodes : List Node)

/-- `processed` are the levels whose edges have been relaxed, `level` the next
one; together they hold exactly the nodes without an unprocessed edge. -/
structure LevelInvariant (processed level : List Node) (degrees : Node → Int) : Prop where
  remaining : ∀ node, degrees node =
    inDegree succs nodes node - (processed.flatMap succs).count node
  nodup : (processed ++ level).Nodup
  ready : ∀ node, node ∈ processed ++ level ↔ node ∈ nodes ∧ degrees node ≤ 0

variable {succs nodes} {level processed : List Node} {degrees : Node → Int}

theorem initial_invariant
    (initial : level.Perm (nodes.filter fun node => decide (inDegree succs nodes node = 0)))
    (distinct : nodes.Nodup) : LevelInvariant succs nodes [] level (inDegree succs nodes) where
  remaining := by simp
  nodup := by
    rw [nil_append, initial.nodup_iff]
    exact distinct.filter _
  ready := by
    intro node
    have nonneg : 0 ≤ inDegree succs nodes node := by
      unfold inDegree
      omega
    rw [nil_append, initial.mem_iff, mem_filter, decide_eq_true_eq]
    exact and_congr_right fun _ => by omega

theorem next_invariant (closed : ∀ node ∈ nodes, ∀ target ∈ succs node, target ∈ nodes)
    (invariant : LevelInvariant succs nodes processed level degrees) :
    LevelInvariant succs nodes (processed ++ level) (relaxAll degrees (level.flatMap succs)).2
      (relaxAll degrees (level.flatMap succs)).1 := by
  have lowered : ∀ node, (relaxAll degrees (level.flatMap succs)).1 node =
      degrees node - (level.flatMap succs).count node :=
    fun node => relax_degrees (level.flatMap succs) degrees [] node
  have collected : ∀ node, node ∈ (relaxAll degrees (level.flatMap succs)).2 ↔
      1 ≤ degrees node ∧ degrees node ≤ (level.flatMap succs).count node := by
    intro node
    have member := relax_collected (level.flatMap succs) degrees [] node
    simpa [relaxAll] using member
  refine ⟨?_, ?_, ?_⟩
  · intro node
    rw [lowered, invariant.remaining, flatMap_append, count_append]
    push_cast
    omega
  · rw [nodup_append]
    refine ⟨invariant.nodup, relax_nodup _ _ [] nodup_nil (by simp), ?_⟩
    rintro node member _ new rfl
    have positive := ((collected node).mp new).1
    have passed := ((invariant.ready node).mp member).2
    omega
  · intro node
    rw [List.mem_append, collected, lowered, invariant.ready]
    constructor
    · rintro (⟨known, passed⟩ | ⟨_⟩)
      · exact ⟨known, by omega⟩
      · have target : node ∈ level.flatMap succs := count_pos_iff.mp (by omega)
        obtain ⟨source, member, edge⟩ := mem_flatMap.mp target
        have known := ((invariant.ready source).mp (mem_append_right _ member)).1
        exact ⟨closed source known node edge, by omega⟩
    · rintro ⟨known, _⟩
      by_cases before : degrees node ≤ 0
      · exact .inl ⟨known, before⟩
      · exact .inr ⟨by omega, by omega⟩

theorem count_successors (distinct : nodes.Nodup) (target : Node) :
    (nodes.flatMap succs).count target = ∑ node ∈ nodes.toFinset, (succs node).count target := by
  rw [sum_toFinset _ distinct, count_flatMap]
  rfl

theorem source_counted {part : List Node} (distinct : nodes.Nodup) (partDistinct : part.Nodup)
    (inside : ∀ node ∈ part, node ∈ nodes) (source target : Node) (member : source ∈ nodes)
    (edge : target ∈ succs source)
    (all : (nodes.flatMap succs).count target ≤ (part.flatMap succs).count target) :
    source ∈ part := by
  by_contra missing
  rw [count_successors distinct, count_successors partDistinct] at all
  have subset : part.toFinset ⊆ nodes.toFinset := by
    intro node
    simpa using inside node
  have smaller : ∑ node ∈ part.toFinset, (succs node).count target <
      ∑ node ∈ nodes.toFinset, (succs node).count target :=
    Finset.sum_lt_sum_of_subset subset (by simpa using member) (by simpa using missing)
      (count_pos_iff.mpr edge) (fun _ _ _ => Nat.zero_le _)
  omega

variable {source target node : Node}

theorem source_processed (distinct : nodes.Nodup)
    (invariant : LevelInvariant succs nodes processed level degrees) (member : source ∈ nodes)
    (edge : target ∈ succs source) (reached : target ∈ processed ++ level) :
    source ∈ processed := by
  have passed := ((invariant.ready target).mp reached).2
  rw [invariant.remaining] at passed
  refine source_counted distinct (nodup_append.mp invariant.nodup).1 ?_ source target member edge ?_
  · intro node inPart
    exact ((invariant.ready node).mp (mem_append_left _ inPart)).1
  · unfold inDegree at passed
    omega

section

variable (closed : ∀ node ∈ nodes, ∀ target ∈ succs node, target ∈ nodes)

include closed

theorem levels_nodup (fuel : Nat) (invariant : LevelInvariant succs nodes processed level degrees) :
    (processed ++ (levelsFrom succs fuel degrees level).flatten).Nodup := by
  induction fuel generalizing processed level degrees with
  | zero =>
    simp only [levelsFrom, flatten_nil, append_nil]
    exact (nodup_append.mp invariant.nodup).1
  | succ _ ih =>
    simp only [levelsFrom]
    split_ifs with empty
    · simp only [flatten_nil, append_nil]
      exact (nodup_append.mp invariant.nodup).1
    · rw [flatten_cons, ← append_assoc]
      exact ih (next_invariant closed invariant)

theorem levels_edges (distinct : nodes.Nodup) (fuel : Nat)
    (invariant : LevelInvariant succs nodes processed level degrees)
    {before after : List (List Node)} {current : List Node}
    (split : levelsFrom succs fuel degrees level = before ++ current :: after)
    (member : source ∈ nodes) (edge : target ∈ succs source) (reached : target ∈ current) :
    source ∈ processed ++ before.flatten := by
  induction fuel generalizing processed level degrees before with
  | zero => simp [levelsFrom] at split
  | succ _ ih =>
    simp only [levelsFrom] at split
    split_ifs at split with empty
    · simp at split
    · cases before with
      | nil =>
        simp only [nil_append, List.cons.injEq] at split
        have inLevel : target ∈ processed ++ level :=
          mem_append_right _ (split.1 ▸ reached)
        simpa using source_processed distinct invariant member edge inLevel
      | cons =>
        simp only [cons_append, List.cons.injEq] at split
        have earlier := ih (next_invariant closed invariant) split.2
        simpa [split.1] using earlier

end

theorem level_bound (invariant : LevelInvariant succs nodes processed level degrees) :
    processed.length + level.length ≤ nodes.length := by
  rw [← length_append]
  exact (invariant.nodup.subperm fun node member =>
    ((invariant.ready node).mp member).1).length_le

theorem levels_exhausted (closed : ∀ node ∈ nodes, ∀ target ∈ succs node, target ∈ nodes)
    (fuel : Nat) (invariant : LevelInvariant succs nodes processed level degrees)
    (enough : nodes.length ≤ processed.length + fuel) :
    ∃ final, LevelInvariant succs nodes
      (processed ++ (levelsFrom succs fuel degrees level).flatten) [] final := by
  induction fuel generalizing processed level degrees with
  | zero =>
    have bounded := level_bound invariant
    have empty : level = [] := length_eq_zero_iff.mp (by omega)
    subst empty
    exact ⟨degrees, by simpa [levelsFrom] using invariant⟩
  | succ _ ih =>
    simp only [levelsFrom]
    split_ifs with empty
    · subst empty
      exact ⟨degrees, by simpa using invariant⟩
    · have positive : 0 < level.length := length_pos_iff.mpr empty
      rw [flatten_cons, ← append_assoc]
      exact ih (next_invariant closed invariant) (by rw [length_append]; omega)

theorem source_left_over (distinct : nodes.Nodup)
    (invariant : LevelInvariant succs nodes processed [] degrees) (member : node ∈ nodes)
    (left : node ∉ processed) :
    ∃ source ∈ nodes, source ∉ processed ∧ node ∈ succs source := by
  by_contra none
  push Not at none
  have processedDistinct : processed.Nodup := by simpa using invariant.nodup
  have covered : (nodes.flatMap succs).count node ≤ (processed.flatMap succs).count node := by
    rw [count_successors distinct, count_successors processedDistinct]
    refine Finset.sum_le_sum_of_ne_zero fun source inNodes positive => ?_
    by_contra outside
    have edge : node ∈ succs source :=
      count_pos_iff.mp (Nat.pos_of_ne_zero positive)
    exact none source (by simpa using inNodes) (by simpa using outside) edge
  have passed : degrees node ≤ 0 := by
    rw [invariant.remaining]
    unfold inDegree
    omega
  exact left (by simpa using (invariant.ready node).mpr ⟨member, passed⟩)

variable (succs) in
def Acyclic : Prop :=
  ∀ node, ¬ Relation.TransGen (fun source target => target ∈ succs source) node node

theorem acyclic_processed (acyclic : Acyclic succs) (distinct : nodes.Nodup)
    (invariant : LevelInvariant succs nodes processed [] degrees) (member : node ∈ nodes) :
    node ∈ processed := by
  let path : {node // node ∈ nodes} → {node // node ∈ nodes} → Prop := fun source target =>
    Relation.TransGen (fun source target => target ∈ succs source) source.val target.val
  have trans : IsTrans _ path := ⟨fun _ _ _ => Relation.TransGen.trans⟩
  have irrefl : Std.Irrefl path := ⟨fun node => acyclic node.val⟩
  have wellFounded : WellFounded path := Finite.wellFounded_of_trans_of_irrefl path
  by_contra left
  obtain ⟨first, isLeft, minimal⟩ := wellFounded.has_min
    {node | node.val ∉ processed} ⟨⟨node, member⟩, left⟩
  obtain ⟨source, known, alsoLeft, edge⟩ := source_left_over distinct invariant first.2 isLeft
  exact minimal ⟨source, known⟩ alsoLeft (.single edge)

end Levels

end Dagens.Lib.KahnLevels
