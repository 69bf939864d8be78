import Mathlib

/-!
# The route a router takes

`NewRouterAgent` sorts its routes by exchanging entries, the higher priority first. The exchange
moves the displaced route behind others of its priority, so the order of listing is lost.
-/

namespace Dagens.Agents.RoutePriority

open List

structure Route (Input Agent : Type) where
  name : String
  condition : Input → Bool
  agent : Agent
  priority : Int

variable {Input Agent : Type}

/-- The inner loop, with the route at position `i` and those at the later positions. -/
def exchange (route : Route Input Agent) :
    List (Route Input Agent) → Route Input Agent × List (Route Input Agent)
  | [] => (route, [])
  | other :: later =>
    if other.priority > route.priority then
      ((exchange other later).1, route :: (exchange other later).2)
    else ((exchange route later).1, other :: (exchange route later).2)

/-- The outer loop, for the number of positions that are left. -/
def sortRoutes : Nat → List (Route Input Agent) → List (Route Input Agent)
  | passes + 1, route :: later =>
    (exchange route later).1 :: sortRoutes passes (exchange route later).2
  | _, routes => routes

inductive FallbackMode where
  | error | default | first

structure RouterAgent (Input Agent : Type) where
  routes : List (Route Input Agent)
  defaultAgent : Option Agent
  fallback : FallbackMode

def newRouterAgent (config : RouterAgent Input Agent) : RouterAgent Input Agent :=
  { config with routes := sortRoutes (config.routes.length - 1) config.routes }

def handleNoMatch (router : RouterAgent Input Agent) : Except String Agent :=
  match router.fallback with
  | .default =>
    match router.defaultAgent with
    | none => .error "no route matched and no default agent configured"
    | some agent => .ok agent
  | .first =>
    match router.routes.head? with
    | none => .error "no routes configured"
    | some route => .ok route.agent
  | .error => .error "no route matched input"

/-- The agent that `routerExecutor.Execute` runs. -/
def execute (router : RouterAgent Input Agent) (input : Input) : Except String Agent :=
  match router.routes.find? (·.condition input) with
  | some route => .ok route.agent
  | none => handleNoMatch router

/-- What the configuration asks for: of the matching routes, or of all for the fallback, the one of
the highest priority that was listed first. -/
noncomputable def rightAgent (config : RouterAgent Input Agent) (input : Input) :
    Except String Agent :=
  match (config.routes.filter (·.condition input)).argmax (·.priority) with
  | some route => .ok route.agent
  | none => handleNoMatch { config with routes := (config.routes.argmax (·.priority)).toList }

/-- A route of a higher priority sends the first route of the line behind the others. -/
def settle (priority : Int) (line : List (Route Input Agent)) (route : Route Input Agent) :
    List (Route Input Agent) :=
  if route.priority = priority then line ++ [route]
  else if priority < route.priority then line.rotate 1
  else line

/-- The routes of a priority, lined up as they are listed. -/
def settled (priority : Int) (routes : List (Route Input Agent)) : List (Route Input Agent) :=
  routes.foldl (settle priority) []

/-- The route that is to run stays in front of those of its priority that match and have
another agent. -/
def KeepsFirst (config : RouterAgent Input Agent) (input : Input) : Prop :=
  ∀ route ∈ (config.routes.filter (·.condition input)).argmax (·.priority),
    ((settled route.priority config.routes).find? (·.condition input)).map (·.agent) =
      some route.agent

section

variable (route : Route Input Agent) (later : List (Route Input Agent))

theorem exchange_perm :
    (exchange route later).1 :: (exchange route later).2 ~ route :: later := by
  induction later generalizing route with
  | nil => rfl
  | cons other later ih =>
    unfold exchange
    split_ifs
    · exact (Perm.swap _ _ _).trans ((ih other).cons route)
    · exact (Perm.swap _ _ _).trans (((ih route).cons other).trans (Perm.swap _ _ _))

/-- A pass leaves at its position the first of the routes of the highest priority. -/
theorem exchange_argmax :
    (route :: later).argmax (·.priority) = some (exchange route later).1 := by
  induction later generalizing route with
  | nil => rfl
  | cons other later ih =>
    unfold exchange
    split_ifs with higher
    · rw [← ih other]
      simp [argmax, argAux, higher]
    · rw [← ih route]
      simp [argmax, argAux, higher]

theorem exchange_below {other : Route Input Agent} (member : other ∈ (exchange route later).2) :
    other.priority ≤ (exchange route later).1.priority := by
  have inside : other ∈ route :: later := (exchange_perm route later).mem_iff.mp (.tail _ member)
  exact le_of_mem_argmax inside (exchange_argmax route later)

theorem exchange_above : route.priority ≤ (exchange route later).1.priority :=
  le_of_mem_argmax mem_cons_self (exchange_argmax route later)

variable {route} {priority : Int}

/-- The exchanges of a pass among routes of higher priorities move no other route. -/
theorem exchange_higher (higher : priority < route.priority) (line : List (Route Input Agent)) :
    (exchange route later).2.foldl (settle priority) line =
      later.foldl (settle priority) line := by
  induction later generalizing route line with
  | nil => rfl
  | cons other later ih =>
    unfold exchange
    split_ifs with swaps
    · have above : priority < other.priority := higher.trans swaps
      simp only [foldl_cons, ih above]
      simp [settle, higher, higher.ne', above, above.ne']
    · exact ih higher _

/-- A route that is displaced in a pass goes behind the line that follows it. -/
theorem exchange_level (level : route.priority = priority) (line : List (Route Input Agent)) :
    later.foldl (settle priority) (route :: line) =
      if (exchange route later).1.priority = priority then
        (exchange route later).1 :: (exchange route later).2.foldl (settle priority) line
      else (exchange route later).2.foldl (settle priority) line := by
  induction later generalizing line with
  | nil => simp [exchange, level]
  | cons other later ih =>
    by_cases swaps : other.priority > route.priority
    · rw [level] at swaps
      have apart := (swaps.trans_le (exchange_above other later)).ne'
      simp only [exchange, level, swaps, apart, if_true, if_false, foldl_cons,
        exchange_higher later swaps]
      simp [settle, level, swaps, swaps.ne']
    · have behind : settle priority (route :: line) other =
          route :: settle priority line other := by
        unfold settle
        split_ifs with same higher
        · rfl
        · exact absurd (level ▸ higher) swaps
        · rfl
      simp only [exchange, swaps, if_false, foldl_cons, behind]
      exact ih _

theorem exchange_lower (lower : route.priority < priority) :
    later.foldl (settle priority) [] =
      if (exchange route later).1.priority = priority then
        (exchange route later).1 :: (exchange route later).2.foldl (settle priority) []
      else (exchange route later).2.foldl (settle priority) [] := by
  induction later generalizing route with
  | nil => simp [exchange, lower.ne]
  | cons other later ih =>
    have skipped : settle priority [] route = [] := by simp [settle, lower.ne, lower.not_gt]
    by_cases swaps : other.priority > route.priority
    · simp only [exchange, swaps, if_true, foldl_cons, skipped]
      rcases lt_trichotomy other.priority priority with below | level | higher
      · simpa [settle, below.ne, below.not_gt] using ih below
      · rw [← exchange_level later level]
        simp [settle, level]
      · have apart := (higher.trans_le (exchange_above other later)).ne'
        rw [if_neg apart, exchange_higher later higher]
        simp [settle, higher, higher.ne']
    · have below : other.priority < priority := (not_lt.mp swaps).trans_lt lower
      simpa [exchange, swaps, settle, below.ne, below.not_gt] using ih lower

/-- What a pass does to the line of a priority. -/
theorem settled_pass (priority : Int) :
    settled priority (route :: later) =
      if (exchange route later).1.priority = priority then
        (exchange route later).1 :: settled priority (exchange route later).2
      else settled priority (exchange route later).2 := by
  rw [settled, foldl_cons]
  rcases lt_trichotomy route.priority priority with lower | level | higher
  · rw [show settle priority [] route = [] by simp [settle, lower.ne, lower.not_gt]]
    exact exchange_lower later lower
  · rw [show settle priority [] route = [route] by simp [settle, level]]
    exact exchange_level later level []
  · rw [show settle priority [] route = [] by simp [settle, higher, higher.ne'],
      if_neg (higher.trans_le (exchange_above route later)).ne']
    exact (exchange_higher later higher []).symm

variable (passes : Nat) (routes : List (Route Input Agent))

theorem sort_perm : sortRoutes passes routes ~ routes := by
  induction passes generalizing routes with
  | zero => rfl
  | succ passes ih =>
    cases routes with
    | nil => rfl
    | cons route later => exact ((ih _).cons _).trans (exchange_perm route later)

theorem sort_sorted (enough : routes.length ≤ passes + 1) :
    (sortRoutes passes routes).Pairwise (·.priority ≥ ·.priority) := by
  induction passes generalizing routes with
  | zero =>
    match routes, enough with
    | [], _ => exact .nil
    | [_], _ => exact pairwise_singleton _ _
  | succ passes ih =>
    cases routes with
    | nil => exact .nil
    | cons route later =>
      have length := (exchange_perm route later).length_eq
      refine .cons (fun other member => ?_) (ih _ (by simp at length enough; omega))
      exact exchange_below route later ((sort_perm passes _).mem_iff.mp member)

/-- Among routes of one priority the sort leaves the order of their line. -/
theorem sort_settled (priority : Int) (enough : routes.length ≤ passes + 1) :
    (sortRoutes passes routes).filter (·.priority = priority) = settled priority routes := by
  induction passes generalizing routes with
  | zero =>
    match routes, enough with
    | [], _ => rfl
    | [only], _ =>
      by_cases level : only.priority = priority <;>
        simp [sortRoutes, settled, settle, level]
  | succ passes ih =>
    cases routes with
    | nil => rfl
    | cons route later =>
      have length := (exchange_perm route later).length_eq
      have rest := ih (exchange route later).2 (by simp at length enough; omega)
      rw [settled_pass, sortRoutes, filter_cons, rest]
      simp only [decide_eq_true_eq]

theorem sort_head :
    (sortRoutes (routes.length - 1) routes).head? = routes.argmax (·.priority) :=
  match routes with
  | [] | [_] => rfl
  | route :: next :: later => (exchange_argmax route (next :: later)).symm

end

section

variable (config : RouterAgent Input Agent) (input : Input)

theorem no_match_right :
    handleNoMatch (newRouterAgent config) =
      handleNoMatch { config with routes := (config.routes.argmax (·.priority)).toList } := by
  simp [handleNoMatch, newRouterAgent, sort_head]

/-- The first route of the sorted list that matches has the highest priority of those that do. -/
theorem found_highest {route other : Route Input Agent}
    (found : (newRouterAgent config).routes.find? (·.condition input) = some route)
    (matching : other.condition input = true) (member : other ∈ config.routes) :
    other.priority ≤ route.priority := by
  obtain ⟨-, before, after, sorted, earlier⟩ := find?_eq_some_iff_append.mp found
  have ordered : (newRouterAgent config).routes.Pairwise (·.priority ≥ ·.priority) :=
    sort_sorted _ config.routes (by omega)
  have inside : other ∈ (newRouterAgent config).routes := (sort_perm _ _).mem_iff.mpr member
  rw [sorted] at ordered inside
  rcases mem_append.mp inside with early | late
  · exact absurd matching (by simpa using earlier other early)
  · rcases mem_cons.mp late with rfl | late
    · exact le_rfl
    · exact rel_of_pairwise_cons (pairwise_append.mp ordered).2.1 late

/-- The router runs the right agent exactly when the exchanges keep the first route in front. -/
theorem router_right_iff :
    execute (newRouterAgent config) input = rightAgent config input ↔ KeepsFirst config input := by
  unfold execute rightAgent KeepsFirst
  cases found : (newRouterAgent config).routes.find? (·.condition input) with
  | none =>
    have nothing : config.routes.filter (·.condition input) = [] := by
      refine filter_eq_nil_iff.mpr fun route member => ?_
      exact find?_eq_none.mp found route ((sort_perm _ _).mem_iff.mpr member)
    simp [nothing, no_match_right config]
  | some route =>
    have matching : route ∈ config.routes.filter (·.condition input) := by
      refine mem_filter.mpr ⟨(sort_perm _ _).mem_iff.mp (mem_of_find?_eq_some found), ?_⟩
      simpa using find?_some found
    cases best : (config.routes.filter (·.condition input)).argmax (·.priority) with
    | none => simp [argmax_eq_none.mp best] at matching
    | some highest =>
      have inside := mem_filter.mp (argmax_mem best)
      have level : route.priority = highest.priority :=
        (le_of_mem_argmax matching best).antisymm
          (found_highest config input found inside.2 inside.1)
      -- the line of the highest priority has the route that is found in front
      have front : (settled highest.priority config.routes).find? (·.condition input) =
          some route := by
        rw [← sort_settled (config.routes.length - 1) _ _ (by omega), find?_filter]
        obtain ⟨-, before, after, sorted, earlier⟩ := find?_eq_some_iff_append.mp found
        refine find?_eq_some_iff_append.mpr ⟨?_, before, after, sorted, fun other member => ?_⟩
        · simpa [level] using find?_some found
        · have skipped : other.condition input = false := by simpa using earlier other member
          simp [skipped]
      simp [front]

end

/-- Two routes of the same priority that match, and one of a higher priority. -/
def sampleRoutes : RouterAgent Unit Nat where
  routes := [⟨"first", fun _ => true, 1, 1⟩, ⟨"second", fun _ => true, 2, 1⟩,
    ⟨"third", fun _ => false, 3, 2⟩]
  defaultAgent := none
  fallback := .error

/-- The third route takes the place of the first, which goes behind the second. -/
theorem listed_first_overtaken : execute (newRouterAgent sampleRoutes) () = .ok 2 ∧
    rightAgent sampleRoutes () = .ok 1 :=
  ⟨by decide, by simp [rightAgent, sampleRoutes, argmax, argAux]⟩

end Dagens.Agents.RoutePriority
