import Dagens.Graph.SmoothWalk

/-!
# Edge conditions

`ShouldTraverse` says whether an edge may be followed in the present state. The
A2A executor asks it; the walks of `graph.go` follow every edge. They run a node
that no condition let in exactly when the walk that asks would turn away from a
node that has not run.
-/

namespace Dagens.Graph.EdgeConditions

open Lib Chronicle DepthFirst Scheduler.GoSupport Traversal SmoothWalk List

variable {State : Type}

/-- The log has an edge into `nodeID` that was considered in a state in which it
should be traversed, and that leaves a node executed by then. -/
def LetIn (workflow : Workflow State) (before : List String) (nodeID : String)
    (log : List (Event State)) : Prop :=
  ∃ source edge state, Event.considered source edge state ∈ log ∧
    edge ∈ workflow.outgoing source ∧ source ∈ ranNodes log ++ before ∧ edge.toID = nodeID ∧
    edge.shouldTraverse state = true

def LicensedNow (workflow : Workflow State) (first : String) (before : List String) :
    List (Event State) → Prop
  | .ran nodeID _ :: earlier => nodeID = first ∨ LetIn workflow before nodeID earlier
  | _ => True

/-- Every node except `first` was run after an edge had let it in; the nodes
`before` were run in an earlier call. -/
def Licensed (workflow : Workflow State) (first : String) (before : List String)
    (log : List (Event State)) : Prop :=
  AtEvery (LicensedNow workflow first before) log

def OpenNow (interrupted : State → Option GoError) (before : List String) :
    List (Event State) → Prop
  | .considered _ edge state :: earlier => interrupted state = none →
      edge.toID ∉ ranNodes earlier ++ before → edge.shouldTraverse state = true
  | _ => True

/-- While the context was active, no edge into a node that had not run was
considered in a state in which it should not be traversed. -/
def NoneBarred (interrupted : State → Option GoError) (before : List String)
    (log : List (Event State)) : Prop :=
  AtEvery (OpenNow interrupted before) log

def heeding (walker : Walker State) : Walker State :=
  { walker with follows := Edge.shouldTraverse }

variable {source first nodeID : String} {before : List String} {outcome : Option NodeError}
  {state : State} {walker : Walker State} {workflow : Workflow State} {edge : Edge State}

attribute [local simp] followEdges begin Traversal.traverse ranNodes

section Logs

variable {interrupted : State → Option GoError}

theorem at_every_suffix {Entry : Type} {property : List Entry → Prop} {log later : List Entry}
    (grown : log <:+ later) (every : AtEvery property later) : AtEvery property log :=
  fun moment earlier => every moment (earlier.trans grown)

variable {log : List (Event State)}

theorem licensed_ran :
    Licensed workflow first before (.ran nodeID outcome :: log) ↔
    (nodeID = first ∨ LetIn workflow before nodeID log) ∧ Licensed workflow first before log :=
  at_every_cons

theorem licensed_considered :
    Licensed workflow first before (.considered source edge state :: log) ↔
      Licensed workflow first before log :=
  at_every_cons.trans (by simp [Licensed, LicensedNow])

theorem none_barred_ran :
    NoneBarred interrupted before (.ran nodeID outcome :: log) ↔
      NoneBarred interrupted before log :=
  at_every_cons.trans (by simp [NoneBarred, OpenNow])

theorem none_barred_considered :
    NoneBarred interrupted before (.considered source edge state :: log) ↔
      (interrupted state = none → edge.toID ∉ ranNodes log ++ before →
        edge.shouldTraverse state = true) ∧ NoneBarred interrupted before log :=
  at_every_cons

theorem log_cases : WalkCases workflow walker (fun _ _ walk result => walk.log <:+ result.2.log)
    (fun _ _ _ walk result => walk.log <:+ result.2.log) where
  exhausted := fun _ _ => suffix_refl _
  cancelled := fun _ _ _ _ _ => suffix_refl _
  seen := fun _ _ _ _ _ => suffix_refl _
  missing := fun _ _ _ _ _ _ _ => suffix_refl _
  failing := by
    intro fuel nodeID walk node _ after _ _ _ ran
    obtain ⟨-, rfl⟩ := run_node_eq ran
    exact suffix_cons _ _
  entered := by
    intro fuel nodeID walk node after result _ _ _ ran follow
    obtain ⟨-, rfl⟩ := run_node_eq ran
    exact (suffix_cons _ _).trans follow
  done := fun _ _ _ => suffix_refl _
  stopped := fun _ _ _ _ _ _ _ => suffix_refl _
  broken := fun _ _ _ _ _ _ _ _ _ visit => (suffix_cons _ _).trans visit
  passed := fun _ _ _ _ _ _ _ _ _ visit follow =>
    ((suffix_cons _ _).trans visit).trans follow
  declined := fun _ _ _ _ _ _ _ _ follow => (suffix_cons _ _).trans follow

theorem alike_cases (workflow : Workflow State) (walker other : Walker State)
    (checks : ∀ state, walker.interrupted state = other.interrupted state)
    (asks : ∀ edge state, walker.follows edge state = other.follows edge state) :
    WalkCases workflow walker (fun fuel nodeID walk result =>
        (traverse workflow other fuel nodeID walk).2 = result.2 ∧
          (traverse workflow other fuel nodeID walk).1.isSome = result.1.isSome)
      (fun fuel source edges walk result =>
        (followEdges other (traverse workflow other fuel) source edges walk).2 = result.2 ∧
          (followEdges other (traverse workflow other fuel) source edges walk).1.isSome =
            result.1.isSome) where
  exhausted := fun _ _ => ⟨rfl, rfl⟩
  cancelled := by
    intro fuel nodeID walk err check
    rw [checks] at check
    simp [check]
  seen := by
    intro fuel nodeID walk check seen
    rw [checks] at check
    simp [check, seen]
  missing := by
    intro fuel nodeID walk err check new found
    rw [checks] at check
    simp [check, new, found]
  failing := by
    intro fuel nodeID walk node err after check new found ran
    rw [checks] at check
    simp [check, new, found, ran]
  entered := by
    intro fuel nodeID walk node after result check new found ran follow
    rw [checks] at check
    simpa [check, new, found, ran] using follow
  done := fun _ _ _ => ⟨rfl, rfl⟩
  stopped := by
    intro fuel source edge rest walk err check
    rw [checks] at check
    simp [check]
  broken := by
    intro fuel source edge rest walk err after check asked visit
    rw [checks] at check
    rw [asks] at asked
    cases called : traverse workflow other fuel edge.toID (walk.consider source edge) with
    | mk =>
      rw [called] at visit
      obtain ⟨rfl, stopped⟩ := visit
      obtain ⟨_, rfl⟩ := Option.isSome_iff_exists.mp stopped
      simp [check, asked, called]
  passed := by
    intro fuel source edge rest walk after result check asked visit follow
    rw [checks] at check
    rw [asks] at asked
    cases called : traverse workflow other fuel edge.toID (walk.consider source edge) with
    | mk outcome =>
      rw [called] at visit
      obtain ⟨rfl, returned⟩ := visit
      obtain rfl : outcome = none := by simpa using returned
      simpa [check, asked, called] using follow
  declined := by
    intro fuel source edge rest walk result check asked follow
    rw [checks] at check
    rw [asks] at asked
    simpa [check, asked] using follow

theorem ran_suffix {later : List (Event State)} (grown : log <:+ later) :
    ranNodes log ⊆ ranNodes later := by
  obtain ⟨added, rfl⟩ := grown
  induction added with
  | nil => exact List.Subset.refl _
  | cons event _ ih =>
    cases event with
    | ran nodeID => exact subset_cons_of_subset nodeID ih
    | considered => exact ih

theorem licensed_cases (workflow : Workflow State) (first : String) (before : List String)
    (asks : ∀ edge state, walker.follows edge state = true → edge.shouldTraverse state = true) :
    WalkCases workflow walker
      (fun _ nodeID walk result => nodeID = first ∨ LetIn workflow before nodeID walk.log →
        Licensed workflow first before walk.log →
        Licensed workflow first before result.2.log ∧ walk.log <:+ result.2.log)
      (fun _ source edges walk result => edges ⊆ workflow.outgoing source →
        source ∈ ranNodes walk.log ++ before → Licensed workflow first before walk.log →
        Licensed workflow first before result.2.log ∧ walk.log <:+ result.2.log) where
  exhausted := fun _ _ _ licensed => ⟨licensed, suffix_refl _⟩
  cancelled := fun _ _ _ _ _ _ licensed => ⟨licensed, suffix_refl _⟩
  seen := fun _ _ _ _ _ _ licensed => ⟨licensed, suffix_refl _⟩
  missing := fun _ _ _ _ _ _ _ _ licensed => ⟨licensed, suffix_refl _⟩
  failing := by
    intro fuel nodeID walk node err after _ _ _ ran letIn licensed
    obtain ⟨-, rfl⟩ := run_node_eq ran
    exact ⟨licensed_ran.mpr ⟨letIn, licensed⟩, suffix_cons _ _⟩
  entered := by
    intro fuel nodeID walk node after result _ _ _ ran follow letIn licensed
    obtain ⟨-, rfl⟩ := run_node_eq ran
    obtain ⟨later, grown⟩ := follow (List.Subset.refl _) (by simp)
      (licensed_ran.mpr ⟨letIn, licensed⟩)
    exact ⟨later, (suffix_cons _ _).trans grown⟩
  done := fun _ _ _ _ _ licensed => ⟨licensed, suffix_refl _⟩
  stopped := fun _ _ _ _ _ _ _ _ _ licensed => ⟨licensed, suffix_refl _⟩
  broken := by
    intro fuel source edge rest walk err after _ asked visit edges ran licensed
    have letIn : LetIn workflow before edge.toID (walk.consider source edge).log :=
      ⟨source, edge, walk.state, mem_cons_self, edges mem_cons_self, ran, rfl,
        asks edge walk.state asked⟩
    obtain ⟨later, grown⟩ := visit (.inr letIn) (licensed_considered.mpr licensed)
    exact ⟨later, (suffix_cons _ _).trans grown⟩
  passed := by
    intro fuel source edge rest walk after result _ asked visit follow edges ran licensed
    have letIn : LetIn workflow before edge.toID (walk.consider source edge).log :=
      ⟨source, edge, walk.state, mem_cons_self, edges mem_cons_self, ran, rfl,
        asks edge walk.state asked⟩
    obtain ⟨called, grown⟩ := visit (.inr letIn) (licensed_considered.mpr licensed)
    have grown' := (suffix_cons _ _).trans grown
    have ran' : source ∈ ranNodes after.log ++ before := by
      rcases List.mem_append.mp ran with here | earlier
      · exact mem_append_left _ (ran_suffix grown' here)
      · exact mem_append_right _ earlier
    obtain ⟨later, further⟩ := follow (fun other member => edges (mem_cons_of_mem _ member))
      ran' called
    exact ⟨later, grown'.trans further⟩
  declined := by
    intro fuel source edge rest walk result _ _ follow edges ran licensed
    obtain ⟨later, grown⟩ := follow (fun other member => edges (mem_cons_of_mem _ member)) ran
      (licensed_considered.mpr licensed)
    exact ⟨later, (suffix_cons _ _).trans grown⟩

end Logs

variable {walk : Walk State} {following asking : Option WalkError × Walk State}

section SideBySide

def heedless (walker : Walker State) : Walker State :=
  { walker with follows := fun _ _ => true }

theorem follow_log_grows (fuel : Nat) (source : String) (edges : List (Edge State))
    (walk : Walk State) :
    walk.log <:+ (followEdges walker (traverse workflow walker fuel) source edges walk).2.log :=
  follow_induction log_cases fuel source edges walk

theorem call_runs (fuel : Nat) (check : walker.interrupted walk.state = none)
    (new : nodeID ∉ walk.visited) (known : nodeID ∈ workflow.graph.nodes) :
    ∃ outcome, .ran nodeID outcome :: walk.log <:+
    (traverse workflow walker (fuel + 1) nodeID walk).2.log := by
  obtain ⟨_, found⟩ := get_node_ok known
  cases ran : (walk.enter nodeID).runNode workflow nodeID with
  | mk outcome =>
    obtain ⟨-, rfl⟩ := run_node_eq ran
    refine ⟨outcome, ?_⟩
    cases outcome with
    | some => simp [check, new, found, ran]
    | none =>
      simp only [Traversal.traverse, check, new, if_false, found, ran]
      exact follow_log_grows fuel nodeID (workflow.outgoing nodeID)
        ⟨_, _, .ran nodeID none :: walk.log⟩

variable {rest : List (Edge State)} {fuel : Nat}

theorem loop_keeps (fuel : Nat) (check : walker.interrupted walk.state = none)
    (asked : walker.follows edge walk.state = true) :
    (traverse workflow walker fuel edge.toID (walk.consider source edge)).2.log <:+
      (followEdges walker (traverse workflow walker fuel) source (edge :: rest) walk).2.log := by
  cases called : traverse workflow walker fuel edge.toID (walk.consider source edge) with
  | mk outcome after =>
    cases outcome with
    | some => simp [check, asked, called]
    | none =>
      simp only [followEdges, check, asked, if_true, called]
      exact follow_log_grows fuel source rest after

/-- The target of every edge considered so far is marked or in `called`. -/
def TargetsMarked (called : List String) (walk : Walk State) : Prop :=
  ∀ source edge state, Event.considered source edge state ∈ walk.log →
    edge.toID ∈ called ++ walk.visited

/-- Up to here the two walks are one, and no edge was barred. -/
structure Together (workflow : Workflow State) (walker : Walker State) (before : List String)
    (fuel : Nat) (called : List String) (walk : Walk State) : Prop where
  agree : walk.visited = ranNodes walk.log ++ before
  enough : unseen workflow.graph.nodes.keys walk.visited < fuel
  fine : NoneBarred walker.interrupted before walk.log
  targets : TargetsMarked called walk

/-- The walks stay one, or one of them bars an edge and the other runs a node
that none let in. -/
def Matched (workflow : Workflow State) (walker : Walker State) (first : String)
    (before : List String) (walk : Walk State) (asking following : Option WalkError × Walk State) :
    Prop :=
  (following = asking ∧ NoneBarred walker.interrupted before asking.2.log ∧
    walk.visited ⊆ asking.2.visited ∧
    (asking.1 = none → asking.2.visited = ranNodes asking.2.log ++ before ∧
      TargetsMarked [] asking.2)) ∨
  (¬ NoneBarred walker.interrupted before asking.2.log ∧
    ¬ Licensed workflow first before following.2.log)

theorem matched_later {asked followed : List (Event State)}
    (parted : ¬ NoneBarred walker.interrupted before asked ∧ ¬ Licensed workflow first before
      followed) (asks : asked <:+ asking.2.log) (follows : followed <:+ following.2.log) :
    Matched workflow walker first before walk asking following :=
  .inr ⟨fun fine => parted.1 (at_every_suffix asks fine),
    fun licensed => parted.2 (at_every_suffix follows licensed)⟩

theorem together_considered (together : Together workflow walker before fuel [] walk)
    (allowed : edge.toID ∉ walk.visited → edge.shouldTraverse walk.state = true) :
    Together workflow walker before fuel [edge.toID] (walk.consider source edge) where
  agree := together.agree
  enough := together.enough
  fine := none_barred_considered.mpr ⟨fun _ new => allowed (together.agree ▸ new), together.fine⟩
  targets := by
    intro other otherEdge state member
    rcases mem_cons.mp member with same | old
    · cases same
      exact mem_cons_self
    · exact mem_cons_of_mem _ (together.targets other otherEdge state old)

theorem barred_parts (check : walker.interrupted walk.state = none)
    (barred : edge.shouldTraverse walk.state = false) (new : edge.toID ∉ walk.visited)
    (known : edge.toID ∈ workflow.graph.nodes) (marked : first ∈ walk.visited)
    (together : Together workflow walker before fuel [] walk) :
    ¬ NoneBarred walker.interrupted before (walk.consider source edge).log ∧
      ¬ Licensed workflow first before (followEdges (heedless walker)
        (traverse workflow (heedless walker) fuel) source (edge :: rest) walk).2.log := by
  constructor
  · intro fine
    have allowed := (none_barred_considered.mp fine).1 check (together.agree ▸ new)
    rw [barred] at allowed
    cases allowed
  · intro licensed
    have positive := together.enough
    obtain ⟨fuel, rfl⟩ : ∃ less, fuel = less + 1 := ⟨fuel - 1, by omega⟩
    obtain ⟨_, runs⟩ : ∃ outcome, Event.ran edge.toID outcome :: (walk.consider source edge).log <:+
        (traverse workflow (heedless walker) (fuel + 1) edge.toID
          (walk.consider source edge)).2.log := call_runs fuel check new known
    have kept : (traverse workflow (heedless walker) (fuel + 1) edge.toID
        (walk.consider source edge)).2.log <:+ (followEdges (heedless walker)
          (traverse workflow (heedless walker) (fuel + 1)) source (edge :: rest) walk).2.log :=
      loop_keeps (fuel + 1) check rfl
    have now := (licensed_ran.mp (at_every_suffix (runs.trans kept) licensed)).1
    rcases now with same | ⟨other, otherEdge, state, member, -, -, target, allowed⟩
    · exact new (same ▸ marked)
    · rcases mem_cons.mp member with same | old
      · cases same
        rw [barred] at allowed
        cases allowed
      · exact new (target ▸ together.targets other otherEdge state old)

theorem heedless_interrupted : (heedless walker).interrupted = (heeding walker).interrupted := rfl

theorem heedless_edge {call : String → Walk State → Option WalkError × Walk State}
    {after : Walk State} (check : (heeding walker).interrupted walk.state = none)
    (visit : call edge.toID (walk.consider source edge) = (none, after)) :
    followEdges (heedless walker) call source (edge :: rest) walk =
      followEdges (heedless walker) call source rest after := by
  simp only [followEdges, heedless_interrupted, check, visit]
  simp [heedless]

theorem matched_cases (workflow : Workflow State) (walker : Walker State) (first : String)
    (before : List String) : WalkCases workflow (heeding walker)
    (fun fuel nodeID walk result => walk.log <:+ result.2.log ∧
      (nodeID ∈ workflow.graph.nodes → nodeID = first ∨ first ∈ walk.visited →
        Together workflow walker before fuel [nodeID] walk →
        Matched workflow walker first before walk result
          (traverse workflow (heedless walker) fuel nodeID walk)))
    (fun fuel source edges walk result => walk.log <:+ result.2.log ∧
      ((∀ edge ∈ edges, edge.toID ∈ workflow.graph.nodes) → first ∈ walk.visited →
        Together workflow walker before fuel [] walk →
        Matched workflow walker first before walk result
          (followEdges (heedless walker) (traverse workflow (heedless walker) fuel) source edges
            walk))) where
  exhausted := by
    intro nodeID walk
    refine ⟨suffix_refl _, fun _ _ together => ?_⟩
    have impossible := together.enough
    omega
  cancelled := by
    intro fuel nodeID walk err check
    refine ⟨suffix_refl _, fun _ _ together => .inl ⟨?_, together.fine,
      List.Subset.refl _, by simp⟩⟩
    simp [heedless_interrupted, check]
  seen := by
    intro fuel nodeID walk check seen
    refine ⟨suffix_refl _, fun _ _ together => .inl ⟨?_, together.fine,
      List.Subset.refl _, fun _ => ⟨together.agree, ?_⟩⟩⟩
    · simp [heedless_interrupted, check, seen]
    · intro source edge state member
      rcases mem_cons.mp (together.targets source edge state member) with same | marked
      · exact same ▸ seen
      · exact marked
  missing := by
    intro fuel nodeID walk err _ _ found
    refine ⟨suffix_refl _, fun known => ?_⟩
    obtain ⟨node, present⟩ := get_node_ok known
    rw [present] at found
    cases found
  failing := by
    intro fuel nodeID walk node err after check new found ran
    obtain ⟨-, rfl⟩ := run_node_eq ran
    refine ⟨suffix_cons _ _, fun _ _ together => .inl ⟨?_,
      none_barred_ran.mpr together.fine, subset_cons_self _ _, by simp⟩⟩
    simp only [Traversal.traverse, heedless_interrupted, check, new, if_false, found, ran]
    rfl
  entered := by
    intro fuel nodeID walk node after result check new found ran follow
    obtain ⟨-, rfl⟩ := run_node_eq ran
    refine ⟨(suffix_cons _ _).trans follow.1, fun known start together => ?_⟩
    have less := unseen_cons known new
    have enough := together.enough
    have stays : Together workflow walker before fuel []
        ⟨(workflow.execute nodeID walk.state).2, nodeID :: walk.visited,
          .ran nodeID none :: walk.log⟩ := by
      refine ⟨by simp [together.agree], by simp only; omega,
        none_barred_ran.mpr together.fine, ?_⟩
      intro source edge state member
      rcases mem_cons.mp member with impossible | old
      · cases impossible
      · exact together.targets source edge state old
    have marked : first ∈ nodeID :: walk.visited := by
      rcases start with same | old
      · exact same ▸ mem_cons_self
      · exact mem_cons_of_mem _ old
    have matched := follow.2 (outgoing_known workflow nodeID) marked stays
    have unfolds : traverse workflow (heedless walker) (fuel + 1) nodeID walk =
        followEdges (heedless walker) (traverse workflow (heedless walker) fuel) nodeID
          (workflow.outgoing nodeID) ⟨(workflow.execute nodeID walk.state).2,
            nodeID :: walk.visited, .ran nodeID none :: walk.log⟩ := by
      simp [heedless_interrupted, check, new, found, ran]
    rw [unfolds]
    rcases matched with ⟨same, fine, grown, after⟩ | parted
    · exact .inl ⟨same, fine, List.Subset.trans (subset_cons_self _ _) grown, after⟩
    · exact .inr parted
  done := by
    intro fuel source walk
    exact ⟨suffix_refl _, fun _ _ together => .inl ⟨rfl, together.fine,
      List.Subset.refl _, fun _ => ⟨together.agree, together.targets⟩⟩⟩
  stopped := by
    intro fuel source edge rest walk err check
    refine ⟨suffix_refl _, fun _ _ together => .inl ⟨?_, together.fine,
      List.Subset.refl _, by simp⟩⟩
    simp [heedless_interrupted, check]
  broken := by
    intro fuel source edge rest walk err after check asked visit
    refine ⟨(suffix_cons _ _).trans visit.1, fun known marked together => ?_⟩
    have matched := visit.2 (known edge mem_cons_self) (.inr marked)
      (together_considered together fun _ => asked)
    rcases matched with ⟨same, fine, grown, -⟩ | parted
    · refine .inl ⟨?_, fine, grown, by simp⟩
      simp only [followEdges, heedless_interrupted, check, same]
      simp [heedless]
    · exact matched_later parted (suffix_refl _) (loop_keeps fuel check rfl)
  passed := by
    intro fuel source edge rest walk after result check asked visit follow
    refine ⟨((suffix_cons _ _).trans visit.1).trans follow.1,
      fun known marked together => ?_⟩
    have matched := visit.2 (known edge mem_cons_self) (.inr marked)
      (together_considered together fun _ => asked)
    rcases matched with ⟨same, fine, grown, settled⟩ | parted
    · obtain ⟨agree, targets⟩ := settled rfl
      have later := follow.2 (fun other member => known other (mem_cons_of_mem _ member))
        (grown marked) ⟨agree, lt_of_le_of_lt (unseen_mono _ grown) together.enough, fine, targets⟩
      rw [heedless_edge check same]
      rcases later with ⟨same, fine, further, after⟩ | parted
      · exact .inl ⟨same, fine, List.Subset.trans grown further, after⟩
      · exact .inr parted
    · exact matched_later parted follow.1 (loop_keeps fuel check rfl)
  declined := by
    intro fuel source edge rest walk result check asked follow
    refine ⟨(suffix_cons _ _).trans follow.1, fun known marked together => ?_⟩
    by_cases seen : edge.toID ∈ walk.visited
    · -- the other walk makes a call that returns at once
      have stays : Together workflow walker before fuel [edge.toID] (walk.consider source edge) :=
        together_considered together fun new => absurd seen new
      have settled : Together workflow walker before fuel [] (walk.consider source edge) := by
        refine ⟨stays.agree, stays.enough, stays.fine, fun other otherEdge state member => ?_⟩
        rcases mem_cons.mp (stays.targets other otherEdge state member) with same | old
        · exact same ▸ seen
        · exact old
      have later := follow.2 (fun other member => known other (mem_cons_of_mem _ member))
        marked settled
      have positive := together.enough
      obtain ⟨fuel, rfl⟩ : ∃ less, fuel = less + 1 := ⟨fuel - 1, by omega⟩
      have returns : traverse workflow (heedless walker) (fuel + 1) edge.toID
          (walk.consider source edge) = (none, walk.consider source edge) := by
        have checkCall : (heedless walker).interrupted (walk.consider source edge).state = none :=
          check
        have seenCall : edge.toID ∈ (walk.consider source edge).visited := seen
        simp [checkCall, seenCall]
      rw [heedless_edge check returns]
      exact later
    · have active : walker.interrupted walk.state = none := check
      exact matched_later (barred_parts active asked seen (known edge mem_cons_self) marked together)
        follow.1 (suffix_refl _)

end SideBySide

section Unchecked

/-- The same walker without its check of the context. -/
def unchecked (walker : Walker State) : Walker State :=
  { walker with interrupted := fun _ => none }

theorem unchecked_loop (workflow : Workflow State) (walker : Walker State)
    (property : List (Event State) → Prop)
    (blind : ∀ source edge state log, walker.interrupted state ≠ none →
      (property (.considered source edge state :: log) ↔ property log))
    (fuel : Nat) (source : String) (edges : List (Edge State)) (walk : Walk State) :
    property (followEdges (unchecked walker) (traverse workflow walker (fuel + 1)) source edges
        walk).2.log ↔
      property (followEdges walker (traverse workflow walker (fuel + 1)) source edges
        walk).2.log := by
  induction edges generalizing walk with
  | nil => exact Iff.rfl
  | cons edge rest ih =>
    cases check : walker.interrupted walk.state with
    | none =>
      cases asked : walker.follows edge walk.state with
      | false => simpa [check, asked, unchecked] using ih (walk.consider source edge)
      | true =>
        cases called : traverse workflow walker (fuel + 1) edge.toID
            (walk.consider source edge) with
        | mk outcome after =>
          cases outcome with
          | some => simp [-Traversal.traverse, check, asked, called, unchecked]
          | none => simpa [-Traversal.traverse, check, asked, called, unchecked] using ih after
    | some err =>
      have considered : property (walk.consider source edge).log ↔ property walk.log :=
        blind source edge walk.state walk.log (by simp [check])
      have checkCall : walker.interrupted (walk.consider source edge).state = some err := check
      cases asked : walker.follows edge walk.state with
      | true => simpa [check, asked, unchecked, checkCall] using considered
      | false =>
        have later := ih (walk.consider source edge)
        have halted : (followEdges walker (traverse workflow walker (fuel + 1)) source rest
            (walk.consider source edge)).2 = walk.consider source edge := by
          cases rest <;> simp [checkCall]
        rw [halted] at later
        simpa [check, asked, unchecked] using later.trans considered

end Unchecked

attribute [local simp] TargetsMarked

section Executors

variable [ExecutionState State] (workflow : Workflow State)

/-- `ResumeFromPaused` gets as far as its loop. -/
def Accepted (paused : PausedResult) : Prop :=
  paused.nodeID ≠ "" ∧ paused.nodeID ∈ workflow.graph.nodes ∧
    ¬ (paused.graphVersion ≠ "" ∧ workflow.version ≠ "" ∧
      paused.graphVersion ≠ workflow.version)

def resumedState (state : State) (paused : PausedResult) : State :=
  if paused.requestID = "" then state else ExecutionState.setRequestID paused.requestID state

def askingWalk (state : State) : Walk State :=
  (traverse workflow (heeding (graphWalker workflow)) (depth workflow) workflow.graph.entryNode
    (begin state [])).2

def askingResume (state : State) (paused : PausedResult) : Walk State :=
  (followEdges (heeding (resumeWalker workflow))
    (traverse workflow (heeding (graphWalker workflow)) (depth workflow)) paused.nodeID
    (workflow.outgoing paused.nodeID) (begin (resumedState state paused) [paused.nodeID])).2

/-- Asked on the way, no edge turns the walk away from a node that has not run. -/
def Unforced (state : State) : Prop :=
  NoneBarred ExecutionState.ctxErr [] (askingWalk workflow state).log

def UnforcedResume (state : State) (paused : PausedResult) : Prop :=
  NoneBarred ExecutionState.ctxErr [paused.nodeID] (askingResume workflow state paused).log

variable {workflow}

section

omit [ExecutionState State]

theorem matched_licensed_iff (matched : Matched workflow walker first before walk asking following)
    (licensed : Licensed workflow first before asking.2.log) :
    Licensed workflow first before following.2.log ↔
      NoneBarred walker.interrupted before asking.2.log := by
  rcases matched with ⟨same, fine, -⟩ | ⟨barred, unlicensed⟩
  · rw [same]
    exact ⟨fun _ => fine, fun _ => licensed⟩
  · exact ⟨fun claimed => absurd claimed unlicensed, fun fine => absurd fine barred⟩

theorem entry_licensed
    (asks : ∀ edge state, walker.follows edge state = true → edge.shouldTraverse state = true)
    (state : State) :
    Licensed workflow workflow.graph.entryNode []
      (traverse workflow walker (depth workflow) workflow.graph.entryNode (begin state [])).2.log :=
  (traverse_induction (licensed_cases workflow workflow.graph.entryNode [] asks) (depth workflow)
    workflow.graph.entryNode (begin state []) (.inl rfl) (at_every_nil.mpr trivial)).1

theorem entry_matched (walker : Walker State) (state : State)
    (valid : workflow.graph.validate = .ok ()) :
    Matched workflow walker workflow.graph.entryNode [] (begin state [])
      (traverse workflow (heeding walker) (depth workflow) workflow.graph.entryNode
        (begin state []))
      (traverse workflow (heedless walker) (depth workflow) workflow.graph.entryNode
        (begin state [])) :=
  (traverse_induction (matched_cases workflow walker workflow.graph.entryNode [])
    (depth workflow) workflow.graph.entryNode (begin state [])).2 (valid_entry valid).2 (.inl rfl)
    ⟨rfl, by simp [unseen, depth], at_every_nil.mpr trivial,
      by simp⟩

end

theorem execute_licensed_iff (state : State) (valid : workflow.graph.validate = .ok ()) :
    Licensed workflow workflow.graph.entryNode [] (executeWithResult workflow state).2.log ↔
      Unforced workflow state := by
  rw [execute_valid workflow state valid]
  exact matched_licensed_iff (entry_matched (graphWalker workflow) state valid)
    (entry_licensed (fun _ _ asked => asked) state)

theorem observed_licensed_iff (factory : Except GoError Unit) (state : State)
    (valid : workflow.graph.validate = .ok ()) :
    Licensed workflow workflow.graph.entryNode []
        (executeWithObservability workflow factory state).2.log ↔ Unforced workflow state := by
  cases factory with
  | error err =>
    have same : (executeWithObservability workflow (.error err) state).2 =
        (executeWithResult workflow state).2 := by
      simp only [executeWithObservability, valid]
      split <;> simp_all
    rw [same]
    exact execute_licensed_iff state valid
  | ok =>
    -- the two walks of `graph.go` differ in what they make of an error only
    have alike := traverse_induction (alike_cases workflow (heeding (graphWalker workflow))
      (heeding observedWalker) (fun _ => rfl) (fun _ _ => rfl)) (depth workflow)
      workflow.graph.entryNode (begin state [])
    have observed : (executeWithObservability workflow (.ok ()) state).2 =
        (traverse workflow observedWalker (depth workflow) workflow.graph.entryNode
          (begin state [])).2 := by
      simp only [executeWithObservability, valid, (valid_entry valid).1, if_false]
      split <;> simp_all
    rw [observed]
    refine (matched_licensed_iff (entry_matched observedWalker state valid)
      (entry_licensed (fun _ _ asked => asked) state)).trans ?_
    rw [alike.1]
    exact Iff.rfl

section

variable {paused : PausedResult} (valid : workflow.graph.validate = .ok ())

include valid

theorem resume_refused (refused : ¬ Accepted workflow paused) :
    (resumeFromPaused workflow state (some paused)).2 = begin state [] := by
  simp only [resumeFromPaused, valid]
  by_cases isNamed : paused.nodeID = ""
  · simp [isNamed]
  · rw [if_neg isNamed]
    cases found : workflow.graph.getNode paused.nodeID with
    | error => rfl
    | ok =>
      have known : paused.nodeID ∈ workflow.graph.nodes := by
        by_contra unknown
        simp [Graph.getNode, AList.lookup_eq_none.mpr unknown] at found
      have mismatch : paused.graphVersion ≠ "" ∧ workflow.version ≠ "" ∧
          paused.graphVersion ≠ workflow.version := by
        by_contra compatible
        exact refused ⟨isNamed, known, compatible⟩
      simp only [if_pos mismatch]

end

theorem resume_licensed_iff (state : State) (paused : PausedResult)
    (valid : workflow.graph.validate = .ok ()) :
    Licensed workflow paused.nodeID [paused.nodeID]
        (resumeFromPaused workflow state (some paused)).2.log ↔
      (Accepted workflow paused → UnforcedResume workflow state paused) := by
  by_cases accepted : Accepted workflow paused
  · have marked := accepted.2.1
    have less := unseen_cons marked not_mem_nil
    have bound : unseen workflow.graph.nodes.keys [] < depth workflow := by simp [unseen, depth]
    have together : Together workflow (graphWalker workflow) [paused.nodeID] (depth workflow) []
        (begin (resumedState state paused) [paused.nodeID]) :=
      ⟨rfl, by simp only [begin]; omega, at_every_nil.mpr trivial, by simp⟩
    have matched := (follow_induction (matched_cases workflow (graphWalker workflow) paused.nodeID
        [paused.nodeID]) (depth workflow) paused.nodeID (workflow.outgoing paused.nodeID)
      (begin (resumedState state paused) [paused.nodeID])).2 (outgoing_known workflow _)
      (by simp) together
    have licensed := (follow_induction (licensed_cases workflow paused.nodeID [paused.nodeID]
        fun edge state (asked : (heeding (graphWalker workflow)).follows edge state = true) => asked)
      (depth workflow) paused.nodeID (workflow.outgoing paused.nodeID)
      (begin (resumedState state paused) [paused.nodeID]) (List.Subset.refl _) (by simp)
      (at_every_nil.mpr trivial)).1
    have resumed : (resumeFromPaused workflow state (some paused)).2 =
        (followEdges (resumeWalker workflow) (traverseNode workflow (depth workflow)) paused.nodeID
          (workflow.outgoing paused.nodeID)
          (begin (resumedState state paused) [paused.nodeID])).2 := by
      obtain ⟨isNamed, known, compatible⟩ := accepted
      obtain ⟨_, found⟩ := get_node_ok known
      simp only [resumeFromPaused, isNamed, if_false, valid, found, if_neg compatible, resumedState]
    rw [resumed]
    simp only [accepted, true_imp_iff]
    -- the loop of `ResumeFromPaused` leaves the check of the context to its calls
    refine (unchecked_loop workflow (graphWalker workflow)
      (Licensed workflow paused.nodeID [paused.nodeID])
      (fun _ _ _ _ _ => licensed_considered) _ _ _ _).trans ?_
    refine (matched_licensed_iff matched licensed).trans (Iff.symm ?_)
    unfold UnforcedResume askingResume
    refine unchecked_loop workflow (heeding (graphWalker workflow))
      (NoneBarred (graphWalker workflow).interrupted [paused.nodeID])
      (fun _ _ _ _ cancelled => ?_) _ _ _ _
    exact none_barred_considered.trans (and_iff_right fun active => absurd active cancelled)
  · rw [resume_refused valid accepted]
    exact ⟨fun _ claimed => absurd claimed accepted, fun _ => at_every_nil.mpr trivial⟩

section

variable (state) (valid : workflow.graph.validate = .ok ())

include state valid

theorem a2a_walk :
    (a2aExecute workflow (some state)).2 =
      (traverse workflow (a2aWalker workflow) (depth workflow) workflow.graph.entryNode
        (begin state [])).2 := by
  simp only [a2aExecute, (valid_entry valid).1, if_false, Option.getD_some]
  split <;> simp_all

theorem same_walk (unforced : Unforced workflow state)
    (active : ∀ state : State, ExecutionState.ctxErr state = none) :
    (executeWithResult workflow state).2 = (a2aExecute workflow (some state)).2 := by
  have alike := traverse_induction (alike_cases workflow (heeding (graphWalker workflow))
    (a2aWalker workflow) active (fun _ _ => rfl)) (depth workflow) workflow.graph.entryNode
    (begin state [])
  rw [execute_valid workflow state valid, a2a_walk state valid, alike.1]
  rcases entry_matched (graphWalker workflow) state valid with ⟨same, -⟩ | ⟨barred, -⟩
  · exact congrArg Prod.snd same
  · exact absurd unforced barred

end

/-- Every node that one of the executors runs, except the first, was let in by
an edge, and the local and the A2A executor run the same nodes in order (the
latter does not look at the context). -/
structure Obeyed (workflow : Workflow State) (factory : Except GoError Unit)
    (state pausedState : State) (paused : PausedResult) : Prop where
  executed : Licensed workflow workflow.graph.entryNode [] (executeWithResult workflow state).2.log
  observed : Licensed workflow workflow.graph.entryNode []
    (executeWithObservability workflow factory state).2.log
  resumed : Licensed workflow paused.nodeID [paused.nodeID]
    (resumeFromPaused workflow pausedState (some paused)).2.log
  asked : Licensed workflow workflow.graph.entryNode [] (a2aExecute workflow (some state)).2.log
  sameOrder : (∀ state : State, ExecutionState.ctxErr state = none) →
    ranNodes (executeWithResult workflow state).2.log =
      ranNodes (a2aExecute workflow (some state)).2.log

theorem conditions_obeyed_iff (workflow : Workflow State) (factory : Except GoError Unit)
    (state pausedState : State) (paused : PausedResult)
    (valid : workflow.graph.validate = .ok ()) :
    Obeyed workflow factory state pausedState paused ↔
      Unforced workflow state ∧
        (Accepted workflow paused → UnforcedResume workflow pausedState paused) := by
  constructor
  · intro obeyed
    exact ⟨(execute_licensed_iff state valid).mp obeyed.executed,
      (resume_licensed_iff pausedState paused valid).mp obeyed.resumed⟩
  · rintro ⟨unforced, resume⟩
    refine ⟨(execute_licensed_iff state valid).mpr unforced,
      (observed_licensed_iff factory state valid).mpr unforced,
      (resume_licensed_iff pausedState paused valid).mpr resume, ?_, fun active => ?_⟩
    · rw [a2a_walk state valid]
      exact entry_licensed (fun _ _ asked => asked) state
    · rw [same_walk state valid unforced active]

end Executors

def conditionalWorkflow (graph : Graph) (condition : Diary → Bool) : Workflow Diary where
  graph := graph
  version := ""
  isA2ANode := fun _ => false
  execute := fun nodeID diary => (none, ⟨nodeID :: diary.executed⟩)
  outgoing := fun nodeID => (graph.getEdges nodeID).map fun target =>
    Edge.conditional nodeID target (some condition)
  targets := fun nodeID => by simp [Function.comp_def, Edge.toID]

def guardedGraph : Graph := graphOf ["start", "guarded"] [("start", "guarded")]

/-- The only edge into `guarded` is never to be traversed; the local executor
runs it all the same, the A2A executor does not. -/
theorem closed_edge_followed :
    guardedGraph.validate = .ok () ∧
      (∀ nodeID, ∀ edge ∈ (conditionalWorkflow guardedGraph fun _ => false).outgoing nodeID,
        ∀ diary, edge.shouldTraverse diary = false) ∧
      ranNodes (executeWithResult (conditionalWorkflow guardedGraph fun _ => false) ⟨[]⟩).2.log =
        ["guarded", "start"] ∧
      ranNodes (a2aExecute (conditionalWorkflow guardedGraph fun _ => false)
        (some ⟨[]⟩)).2.log = ["start"] := by
  refine ⟨by decide +kernel, ?_, by decide +kernel, by decide +kernel⟩
  intro nodeID edge member diary
  obtain ⟨_, -, rfl⟩ := List.mem_map.mp member
  rfl

/-- The edge into `guarded` is open once `start` has run, as it always has when
the edge is considered. -/
def openAfterStart (diary : Diary) : Bool := decide ("start" ∈ diary.executed)

theorem open_edge_obeyed :
    Obeyed (conditionalWorkflow guardedGraph openAfterStart) (.ok ()) ⟨[]⟩ ⟨[]⟩ ⟨"", "", ""⟩ := by
  refine (conditions_obeyed_iff (conditionalWorkflow guardedGraph openAfterStart) (.ok ()) ⟨[]⟩
    ⟨[]⟩ ⟨"", "", ""⟩ (by decide +kernel)).mpr ⟨?_, fun accepted => absurd rfl accepted.1⟩
  have log : (askingWalk (conditionalWorkflow guardedGraph openAfterStart) ⟨[]⟩).log =
      [.ran "guarded" none,
        .considered "start" (.conditional "start" "guarded" (some openAfterStart)) ⟨["start"]⟩,
        .ran "start" none] := by
    rfl
  unfold Unforced
  rw [log]
  exact none_barred_ran.mpr (none_barred_considered.mpr ⟨fun _ _ => by decide,
    none_barred_ran.mpr (at_every_nil.mpr trivial)⟩)

end Dagens.Graph.EdgeConditions
