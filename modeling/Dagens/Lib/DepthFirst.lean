import Dagens.Lib.Chronicle

/-!
# Depth-first search over ordered edges

The search marks a node and then visits the targets of its edges in order. The
list of marked nodes has the newest one first, so read backwards it is the
preorder. The last section says for acyclic graphs when that order never puts a
node before one that it can be reached from.
-/

namespace Dagens.Lib.DepthFirst

open Chronicle List

variable {V : Type} (next : V → List V)

def Reach : V → V → Prop :=
  Relation.ReflTransGen fun source target => target ∈ next source

/-- Nothing the node reaches is visited. -/
def Fresh (node : V) (visited : List V) : Prop :=
  ∀ below, Reach next node below → below ∉ visited

variable [DecidableEq V]

/-- `fuel` bounds the depth of the recursion. -/
def visit : Nat → V → List V → List V
  | 0, _, visited => visited
  | fuel + 1, node, visited =>
    if node ∈ visited then visited
    else (next node).foldl (fun seen target => visit fuel target seen) (node :: visited)

def visitAll (fuel : Nat) (targets visited : List V) : List V :=
  targets.foldl (fun seen target => visit next fuel target seen) visited

variable {next} {node : V} {visited later : List V}

theorem visit_seen (fuel : Nat) (seen : node ∈ visited) :
    visit next fuel node visited = visited := by
  cases fuel <;> simp [visit, seen]

theorem visit_new (fuel : Nat) (new : node ∉ visited) :
    visit next (fuel + 1) node visited = visitAll next fuel (next node) (node :: visited) := by
  simp [visit, visitAll, new]

@[simp]
theorem visit_all_cons (fuel : Nat) (target : V) (rest visited : List V) :
    visitAll next fuel (target :: rest) visited =
      visitAll next fuel rest (visit next fuel target visited) :=
  rfl

section

variable (fuel : Nat)

theorem visit_all_grows (grows : ∀ node visited, visited <:+ visit next fuel node visited)
    (targets visited : List V) :
    visited <:+ visitAll next fuel targets visited := by
  induction targets generalizing visited with
  | nil => exact suffix_refl _
  | cons target _ ih => exact (grows target visited).trans (ih _)

theorem visit_grows (node : V) (visited : List V) : visited <:+ visit next fuel node visited := by
  induction fuel generalizing node visited with
  | zero => exact suffix_refl _
  | succ fuel ih =>
    by_cases seen : node ∈ visited
    · rw [visit_seen _ seen]
    · rw [visit_new _ seen]
      exact (suffix_cons node visited).trans (visit_all_grows fuel ih _ _)

theorem loop_grows (targets visited : List V) : visited <:+ visitAll next fuel targets visited :=
  visit_all_grows fuel (visit_grows fuel) targets visited

theorem visit_sound (node : V) (visited : List V) :
    ∀ marked ∈ visit next fuel node visited, marked ∈ visited ∨ Reach next node marked := by
  induction fuel generalizing node visited with
  | zero => exact fun marked member => .inl member
  | succ fuel ih =>
    by_cases seen : node ∈ visited
    · rw [visit_seen _ seen]
      exact fun marked member => .inl member
    · rw [visit_new _ seen]
      have loop : ∀ targets ⊆ next node, ∀ already : List V,
          (∀ marked ∈ already, marked ∈ visited ∨ Reach next node marked) →
          ∀ marked ∈ visitAll next fuel targets already,
            marked ∈ visited ∨ Reach next node marked := by
        intro targets edges
        induction targets with
        | nil => exact fun already sound => sound
        | cons target _ ihRest =>
          intro already sound
          refine ihRest (fun other member => edges (mem_cons_of_mem _ member)) _ ?_
          intro marked member
          rcases ih target already marked member with old | path
          · exact sound marked old
          · exact .inr (.head (edges mem_cons_self) path)
      refine loop _ (List.Subset.refl _) _ ?_
      intro marked member
      rcases mem_cons.mp member with rfl | old
      · exact .inr .refl
      · exact .inl old

theorem visit_nodup (node : V) (visited : List V) (distinct : visited.Nodup) :
    (visit next fuel node visited).Nodup := by
  induction fuel generalizing node visited with
  | zero => exact distinct
  | succ fuel ih =>
    by_cases seen : node ∈ visited
    · rwa [visit_seen _ seen]
    · rw [visit_new _ seen]
      have loop : ∀ targets already : List V, already.Nodup →
          (visitAll next fuel targets already).Nodup := by
        intro targets
        induction targets with
        | nil => exact fun already clean => clean
        | cons target _ ihRest => exact fun already clean => ihRest _ (ih target already clean)
      exact loop _ _ (nodup_cons.mpr ⟨seen, distinct⟩)

end

section Fuel

/-- The nodes of a finite graph that are not marked yet. -/
def unseen (nodes visited : List V) : Nat :=
  (nodes.filter fun node => decide (node ∉ visited)).length

variable {visited : List V}

theorem unseen_mono (nodes : List V) (grown : visited ⊆ later) :
    unseen nodes later ≤ unseen nodes visited := by
  refine (monotone_filter_right nodes ?_).length_le
  intro _ new
  simp only [decide_eq_true_eq] at new ⊢
  exact fun member => new (grown member)

theorem unseen_cons {nodes : List V} {node : V} (known : node ∈ nodes) (new : node ∉ visited) :
    unseen nodes (node :: visited) < unseen nodes visited := by
  have fewer : (nodes.filter fun other => decide (other ∉ node :: visited)) =
      (nodes.filter fun other => decide (other ∉ visited)).filter fun other => decide (other ≠ node)
      := by
    rw [List.filter_filter]
    refine filter_congr fun other _ => ?_
    by_cases same : other = node <;> simp [same]
  unfold unseen
  rw [fewer]
  refine length_filter_lt_length_iff_exists.mpr ⟨node, ?_, by simp⟩
  exact mem_filter.mpr ⟨known, by simpa using new⟩

variable {nodes : List V} (closed : ∀ node ∈ nodes, ∀ target ∈ next node, target ∈ nodes)

include closed

theorem visit_closed (fuel : Nat) (node : V) (visited : List V) (known : node ∈ nodes)
    (enough : unseen nodes visited < fuel) :
    node ∈ visit next fuel node visited ∧
      ∀ marked ∈ visit next fuel node visited, marked ∉ visited →
        ∀ target ∈ next marked, target ∈ visit next fuel node visited := by
  induction fuel generalizing node visited with
  | zero => omega
  | succ fuel ih =>
    by_cases seen : node ∈ visited
    · rw [visit_seen _ seen]
      exact ⟨seen, fun marked member new => absurd member new⟩
    · rw [visit_new _ seen]
      have less := unseen_cons known seen
      have loop : ∀ targets : List V, (∀ target ∈ targets, target ∈ nodes) → ∀ already : List V,
          unseen nodes already < fuel →
          (∀ target ∈ targets, target ∈ visitAll next fuel targets already) ∧
            ∀ marked ∈ visitAll next fuel targets already, marked ∉ already →
              ∀ target ∈ next marked, target ∈ visitAll next fuel targets already := by
        intro targets
        induction targets with
        | nil =>
          intro _ already _
          exact ⟨by simp, fun marked member new => absurd member new⟩
        | cons first rest ihRest =>
          intro inside already fits
          obtain ⟨marks, follows⟩ := ih first already (inside first mem_cons_self) fits
          have grown : already ⊆ visit next fuel first already :=
            (visit_grows fuel first already).subset
          obtain ⟨restMarks, restFollows⟩ := ihRest
            (fun target member => inside target (mem_cons_of_mem _ member))
            (visit next fuel first already)
            (lt_of_le_of_lt (unseen_mono nodes grown) fits)
          have kept : visit next fuel first already ⊆
              visitAll next fuel rest (visit next fuel first already) :=
            (loop_grows fuel rest _).subset
          refine ⟨?_, ?_⟩
          · intro target member
            rcases mem_cons.mp member with rfl | later
            · exact kept marks
            · exact restMarks target later
          · intro marked member new target edge
            by_cases middle : marked ∈ visit next fuel first already
            · exact kept (follows marked middle new target edge)
            · exact restFollows marked member middle target edge
      obtain ⟨marks, follows⟩ := loop (next node) (closed node known) (node :: visited) (by omega)
      have kept : node :: visited ⊆ visitAll next fuel (next node) (node :: visited) :=
        (loop_grows fuel (next node) _).subset
      refine ⟨kept mem_cons_self, ?_⟩
      intro marked member new target edge
      by_cases same : marked = node
      · exact marks target (same ▸ edge)
      · exact follows marked member (by simp [same, new]) target edge

theorem visit_reaches (fuel : Nat) (node : V) (visited : List V) (known : node ∈ nodes)
    (enough : unseen nodes visited < fuel) (fresh : Fresh next node visited) (marked : V) :
    marked ∈ visit next fuel node visited ↔ marked ∈ visited ∨ Reach next node marked := by
  refine ⟨visit_sound fuel node visited marked, ?_⟩
  rintro (old | path)
  · exact (visit_grows fuel node visited).subset old
  · obtain ⟨marks, follows⟩ := visit_closed closed fuel node visited known enough
    induction path with
    | refl => exact marks
    | tail path edge reached => exact follows _ reached (fresh _ path) _ edge

end Fuel

section Order

variable (next)

/-- The newest node reaches none of the nodes marked before it. -/
def Unreached : List V → Prop
  | [] => True
  | node :: earlier => ∀ marked ∈ earlier, ¬ Reach next node marked

/-- No node was marked after a node that it reaches. -/
def Topological (visited : List V) : Prop := AtEvery (Unreached next) visited

/-- An edge target is fine behind the targets before it when one of them leads
to it, or when it leads to nothing that one of them leads to. -/
def Fits (before : List V) (target : V) : Prop :=
  (∃ first ∈ before, Reach next first target) ∨
    ∀ first ∈ before, ∀ shared, Reach next first shared → ¬ Reach next target shared

def FitsAt (node : V) : Prop :=
  ∀ before target after, next node = before ++ target :: after → Fits next before target

/-- The edges of every node below `root` are in an order that fits. -/
def Tidy (root : V) : Prop := ∀ node, Reach next root node → FitsAt next node

variable {next} {visited before already : List V} {node target : V} {fuel : Nat}

omit [DecidableEq V] in
theorem topological_suffix (grown : visited <:+ later) (ordered : Topological next later) :
    Topological next visited :=
  fun moment earlier => ordered moment (earlier.trans grown)

variable {nodes : List V} (closed : ∀ node ∈ nodes, ∀ target ∈ next node, target ∈ nodes)
  (acyclic : ∀ node, ∀ target ∈ next node, ¬ Reach next target node)

/-- What is marked in the loop of `node` when the targets `before` are done. -/
def Halfway (next : V → List V) (node : V) (visited before already : List V) : Prop :=
  ∀ marked, marked ∈ already ↔
    marked ∈ visited ∨ marked = node ∨ ∃ first ∈ before, Reach next first marked

omit [DecidableEq V] in
theorem halfway_start (node : V) (visited : List V) :
    Halfway next node visited [] (node :: visited) := by
  intro _
  simp only [mem_cons, not_mem_nil, false_and, exists_false, or_false]
  exact Or.comm

omit [DecidableEq V] in
theorem halfway_skip (halfway : Halfway next node visited before already)
    (led : ∃ first ∈ before, Reach next first target) :
    Halfway next node visited (before ++ [target]) already := by
  intro marked
  rw [halfway marked]
  refine or_congr_right (or_congr_right ?_)
  constructor
  · rintro ⟨first, member, path⟩
    exact ⟨first, mem_append_left _ member, path⟩
  · rintro ⟨first, member, path⟩
    rcases List.mem_append.mp member with old | new
    · exact ⟨first, old, path⟩
    · rw [mem_singleton] at new
      subst new
      obtain ⟨origin, member, below⟩ := led
      exact ⟨origin, member, below.trans path⟩

include closed in
theorem halfway_visit (halfway : Halfway next node visited before already) (known : target ∈ nodes)
    (enough : unseen nodes already < fuel) (fresh : Fresh next target already) :
    Halfway next node visited (before ++ [target]) (visit next fuel target already) := by
  intro marked
  rw [visit_reaches closed fuel target already known enough fresh, halfway marked]
  constructor
  · rintro ((old | same | ⟨first, member, path⟩) | path)
    · exact .inl old
    · exact .inr (.inl same)
    · exact .inr (.inr ⟨first, mem_append_left _ member, path⟩)
    · exact .inr (.inr ⟨target, by simp, path⟩)
  · rintro (old | same | ⟨first, member, path⟩)
    · exact .inl (.inl old)
    · exact .inl (.inr (.inl same))
    · rcases List.mem_append.mp member with old | new
      · exact .inl (.inr (.inr ⟨first, old, path⟩))
      · rw [mem_singleton] at new
        exact .inr (new ▸ path)

include acyclic in
omit [DecidableEq V] in
theorem halfway_below {reached : V} (halfway : Halfway next node visited before already)
    (fresh : Fresh next node visited) (edge : target ∈ next node)
    (path : Reach next target reached) (marked : reached ∈ already) :
    ∃ first ∈ before, Reach next first reached := by
  rcases (halfway reached).mp marked with old | same | led
  · exact absurd old (fresh reached (.head edge path))
  · exact absurd (same ▸ path) (acyclic node target edge)
  · exact led

include closed acyclic in
theorem loop_topological
    (calls : ∀ target already, target ∈ nodes → unseen nodes already < fuel →
      Fresh next target already → Topological next already → Tidy next target →
      Topological next (visit next fuel target already)) (known : node ∈ nodes)
    (fresh : Fresh next node visited) (tidy : Tidy next node)
    (targets before already : List V) (edges : next node = before ++ targets)
    (halfway : Halfway next node visited before already) (enough : unseen nodes already < fuel)
    (ordered : Topological next already) :
    Topological next (visitAll next fuel targets already) := by
  induction targets generalizing before already with
  | nil => exact ordered
  | cons target rest ih =>
    have edge : target ∈ next node := by rw [edges]; simp
    have edges' : next node = (before ++ [target]) ++ rest := by rw [edges]; simp
    rw [visit_all_cons]
    rcases tidy node .refl before target rest edges with led | apart
    · -- an earlier target leads here, so the call returns at once
      have seen : target ∈ already := (halfway target).mpr (.inr (.inr led))
      rw [visit_seen fuel seen]
      exact ih _ already edges' (halfway_skip halfway led) enough ordered
    · have clear : Fresh next target already := by
        intro reached path marked
        obtain ⟨first, member, shared⟩ := halfway_below acyclic halfway fresh edge path marked
        exact apart first member reached shared path
      have targetKnown := closed node known target edge
      have grown : already ⊆ visit next fuel target already :=
        (visit_grows fuel target already).subset
      refine ih _ _ edges' (halfway_visit closed halfway targetKnown enough clear)
        (lt_of_le_of_lt (unseen_mono nodes grown) enough)
        (calls target already targetKnown enough clear ordered ?_)
      exact fun below path => tidy below (.head edge path)

include closed acyclic in
theorem tidy_topological (fuel : Nat) (node : V) (visited : List V) (known : node ∈ nodes)
    (enough : unseen nodes visited < fuel) (fresh : Fresh next node visited)
    (ordered : Topological next visited) (tidy : Tidy next node) :
    Topological next (visit next fuel node visited) := by
  induction fuel generalizing node visited with
  | zero => omega
  | succ fuel ih =>
    have new : node ∉ visited := fresh node .refl
    have less := unseen_cons known new
    rw [visit_new fuel new]
    refine loop_topological closed acyclic ih known fresh tidy _ [] _ rfl
      (halfway_start node visited) (by omega) ?_
    refine at_every_cons.mpr ⟨?_, ordered⟩
    exact fun marked old path => fresh marked path old

include closed acyclic in
theorem loop_fits
    (calls : ∀ target already, target ∈ nodes → unseen nodes already < fuel →
      Fresh next target already → Topological next (visit next fuel target already) →
      Tidy next target) (known : node ∈ nodes) (fresh : Fresh next node visited)
    (targets before already : List V) (edges : next node = before ++ targets)
    (halfway : Halfway next node visited before already) (enough : unseen nodes already < fuel)
    (ordered : Topological next (visitAll next fuel targets already)) :
    (∀ middle target after, targets = middle ++ target :: after →
      Fits next (before ++ middle) target) ∧
    ∀ target ∈ targets, ∀ below, Reach next target below →
      (∃ first ∈ before, Reach next first below) ∨ FitsAt next below := by
  induction targets generalizing before already with
  | nil => exact ⟨by simp, by simp⟩
  | cons target rest ih =>
    have edge : target ∈ next node := by rw [edges]; simp
    have edges' : next node = (before ++ [target]) ++ rest := by rw [edges]; simp
    have targetKnown := closed node known target edge
    rw [visit_all_cons] at ordered
    -- what holds for this target, and what the loop has marked after it
    have here : Fits next before target ∧
        (∀ below, Reach next target below →
          (∃ first ∈ before, Reach next first below) ∨ FitsAt next below) ∧
        Halfway next node visited (before ++ [target]) (visit next fuel target already) := by
      by_cases seen : target ∈ already
      · have led := halfway_below acyclic halfway fresh edge .refl seen
        rw [visit_seen fuel seen]
        refine ⟨.inl led, fun below path => ?_, halfway_skip halfway led⟩
        obtain ⟨first, member, above⟩ := led
        exact .inl ⟨first, member, above.trans path⟩
      · obtain ⟨fuel, rfl⟩ : ∃ less, fuel = less + 1 := ⟨fuel - 1, by omega⟩
        have entered : target :: already <:+ visit next (fuel + 1) target already := by
          rw [visit_new fuel seen]
          exact loop_grows fuel _ _
        have clear : Fresh next target already := by
          intro reached path marked
          exact ordered _ (entered.trans (loop_grows ..)) reached marked path
        have below := calls target already targetKnown enough clear
          (topological_suffix (loop_grows ..) ordered)
        refine ⟨.inr ?_, fun lower path => .inr (below lower path),
          halfway_visit closed halfway targetKnown enough clear⟩
        intro first member shared led path
        exact clear shared path ((halfway shared).mpr (.inr (.inr ⟨first, member, led⟩)))
    obtain ⟨fits, under, after⟩ := here
    have grown : already ⊆ visit next fuel target already :=
      (visit_grows fuel target already).subset
    obtain ⟨later, others⟩ := ih _ _ edges' after
      (lt_of_le_of_lt (unseen_mono nodes grown) enough) ordered
    constructor
    · intro middle other tail split
      cases middle with
      | nil =>
        obtain ⟨rfl, -⟩ := List.cons.inj split
        simpa using fits
      | cons _ middle =>
        obtain ⟨rfl, shorter⟩ := List.cons.inj split
        simpa using later middle other tail shorter
    · intro other member below path
      rcases mem_cons.mp member with rfl | inRest
      · exact under below path
      · rcases others other inRest below path with ⟨first, earlier, led⟩ | fine
        · rcases List.mem_append.mp earlier with old | new
          · exact .inl ⟨first, old, led⟩
          · rw [mem_singleton] at new
            exact under below (new ▸ led)
        · exact .inr fine

include closed acyclic in
theorem topological_tidy (fuel : Nat) (node : V) (visited : List V) (known : node ∈ nodes)
    (enough : unseen nodes visited < fuel) (fresh : Fresh next node visited)
    (ordered : Topological next (visit next fuel node visited)) : Tidy next node := by
  induction fuel generalizing node visited with
  | zero => omega
  | succ fuel ih =>
    have new : node ∉ visited := fresh node .refl
    have less := unseen_cons known new
    rw [visit_new fuel new] at ordered
    obtain ⟨own, others⟩ := loop_fits closed acyclic ih known fresh _ [] _ rfl
      (halfway_start node visited) (by omega) ordered
    intro below path
    rcases Relation.ReflTransGen.cases_head path with rfl | ⟨target, edge, rest⟩
    · exact own
    · exact (others target edge below rest).resolve_left (by simp)

end Order

end Dagens.Lib.DepthFirst
