import Dagens.Resilience.CircuitBreaker

/-!
# When a breaker admits requests again

A half-open breaker gives out its places once: `halfOpenCount` only falls when
the state changes, and only enough successes or a failure change it. `Execute`
calls `afterRequest` after the protected call, not in a deferred function, so a
call that panics uses its place without ever reporting. The breaker stays able
to leave the half-open state as long as the successes it has counted, the calls
in progress and the places left together reach the success threshold.
-/

namespace Dagens.Resilience.Readmission

open Lib.GuardedRun CircuitBreaker List

variable {Err : Type} (config : CircuitBreakerConfig Err)

inductive CallAction (Err : Type) where
  | proceed (action : Action Err)
  | panics (call : Nat)

/-- A panic skips `afterRequest`: the breaker does not hear of it. -/
def callStep (traffic : Traffic) : CallAction Err → Option Traffic
  | .proceed action => trafficStep config traffic action
  | .panics call =>
    if call ∈ traffic.inFlight then
      some { traffic with inFlight := traffic.inFlight.erase call }
    else none

/-- The successes a half-open breaker can still come to without changing its
state. -/
def prospects (traffic : Traffic) : Int :=
  traffic.breaker.successCount + traffic.inFlight.length +
    (config.halfOpenMaxRequests - traffic.breaker.halfOpenCount)

/-- A request that makes the breaker half-open, or a panic while it is, leaves
enough prospects for the success threshold. -/
def leavesWay (traffic : Traffic) : CallAction Err → Bool
  | .proceed .request =>
    !(decide (traffic.breaker.state = .stateOpen) &&
      decide (timeSince traffic.now traffic.breaker.lastFailureTime > config.timeout)) ||
    decide (config.successThreshold ≤
      traffic.inFlight.length + 1 + config.halfOpenMaxRequests)
  | .panics _ =>
    !(decide (traffic.breaker.state = .stateHalfOpen)) ||
    decide (config.successThreshold + 1 ≤ prospects config traffic)
  | _ => true

/-- A half-open breaker can still reach its threshold, which it has not yet. -/
def Hopeful (traffic : Traffic) : Prop :=
  traffic.breaker.state = .stateHalfOpen →
    traffic.breaker.successCount < config.successThreshold ∧
      config.successThreshold ≤ prospects config traffic

variable {config} {traffic after : Traffic}

theorem hopeful_fresh (fresh : Fresh traffic) : Hopeful config traffic := by
  obtain ⟨_, rfl⟩ := fresh
  rintro ⟨⟩

variable {call : Nat} {err : Option Err}

theorem result_in_flight (taken : trafficStep config traffic (.result call err) = some after) :
    call ∈ traffic.inFlight := by
  by_contra absent
  simp [trafficStep, absent] at taken

theorem length_without {calls : List Nat} (member : call ∈ calls) :
    ((calls.erase call).length : Int) = calls.length - 1 := by
  have positive := length_pos_of_mem member
  rw [length_erase_of_mem member]
  omega

theorem hopeful_request (positive : 0 < config.successThreshold) (hopeful : Hopeful config traffic)
    (allowed : leavesWay config traffic (.proceed .request) = true)
    (taken : trafficStep config traffic .request = some after) : Hopeful config after := by
  obtain ⟨⟨state, _⟩, _, _, inFlight, _⟩ := traffic
  cases state with
  | stateClosed =>
    cases taken
    rintro ⟨⟩
  | stateOpen =>
    simp only [trafficStep, beforeRequest] at taken
    split_ifs at taken with late
    · cases taken
      have enough : config.successThreshold ≤ inFlight.length + 1 + config.halfOpenMaxRequests := by
        simpa [leavesWay, late] using allowed
      intro _
      refine ⟨positive, ?_⟩
      simp only [prospects, toHalfOpen, length_cons, Nat.cast_add, Nat.cast_one]
      omega
    · cases taken
      rintro ⟨⟩
  | stateHalfOpen =>
    obtain ⟨below, enough⟩ := hopeful rfl
    simp only [prospects] at enough
    simp only [trafficStep, beforeRequest] at taken
    split_ifs at taken
    · cases taken
      exact fun _ => ⟨below, enough⟩
    · cases taken
      refine fun _ => ⟨below, ?_⟩
      simp only [prospects, length_cons, Nat.cast_add, Nat.cast_one]
      omega

theorem hopeful_result (hopeful : Hopeful config traffic)
    (taken : trafficStep config traffic (.result call err) = some after) :
    Hopeful config after := by
  have ended := length_without (result_in_flight taken)
  cases result_moves taken with
  | recovers _ _ halfOpen _ below =>
    obtain ⟨_, enough⟩ := hopeful halfOpen
    refine fun _ => ⟨below, ?_⟩
    simp only [prospects, reports] at enough ⊢
    omega
  | counts _ _ closed | clears _ _ closed =>
    intro halfOpen
    simp [reports, closed] at halfOpen
  | ignores _ _ isOpen =>
    intro halfOpen
    simp [reports, isOpen] at halfOpen
  | trips | reopens | closes => rintro ⟨⟩

theorem hopeful_step (positive : 0 < config.successThreshold) {action : CallAction Err}
    (hopeful : Hopeful config traffic) (allowed : leavesWay config traffic action = true)
    (taken : callStep config traffic action = some after) : Hopeful config after := by
  cases action with
  | panics =>
    simp only [callStep] at taken
    split_ifs at taken with member
    cases taken
    have ended := length_without member
    intro halfOpen
    change traffic.breaker.state = .stateHalfOpen at halfOpen
    have enough : config.successThreshold + 1 ≤ prospects config traffic := by
      simpa [leavesWay, halfOpen] using allowed
    refine ⟨(hopeful halfOpen).1, ?_⟩
    simp only [prospects] at enough ⊢
    omega
  | proceed action =>
    cases action with
    | elapse =>
      cases taken
      exact hopeful
    | request => exact hopeful_request positive hopeful allowed taken
    | result => exact hopeful_result hopeful taken

/-- After any run of calls, returning or panicking, whose steps leave a half-open
breaker its way out, a breaker without calls in progress admits the request that
comes later than the timeout. -/
theorem idle_breaker_admits (config : CircuitBreakerConfig Err)
    (positive : 0 < config.successThreshold) (representable : config.timeout < 2 ^ 63 - 1)
    {traffic : Traffic}
    (reached : Reaches (callStep config)
      (fun traffic action => leavesWay config traffic action = true) Fresh traffic)
    (idle : traffic.inFlight = [])
    (late : traffic.breaker.lastFailureTime + config.timeout < traffic.now) :
    (beforeRequest config traffic.breaker traffic.now).2 = none := by
  have hopeful : Hopeful config traffic :=
    reaches_invariant (fun _ fresh => hopeful_fresh fresh)
      (fun _ _ _ hopeful allowed taken => hopeful_step positive hopeful allowed taken) reached
  cases state : traffic.breaker.state with
  | stateClosed => simp [beforeRequest, state]
  | stateOpen =>
    have passed : timeSince traffic.now traffic.breaker.lastFailureTime > config.timeout :=
      lt_min (by omega) representable
    simp [beforeRequest, state, passed]
  | stateHalfOpen =>
    obtain ⟨_, enough⟩ := hopeful state
    have room : ¬ config.halfOpenMaxRequests ≤ traffic.breaker.halfOpenCount := by
      simp only [prospects, idle, length_nil, Nat.cast_zero] at enough
      omega
    simp [beforeRequest, state, room]

/-- The first call fails; after the timeout each probe in turn ends as given. -/
def probing (ends : List (Nat → CallAction Unit)) : List (CallAction Unit) :=
  [.proceed .request, .proceed (.result 0 (some ())), .proceed (.elapse 2)] ++
    ends.zipIdx.flatMap (fun (ends, number) => [.proceed .request, ends (number + 1)]) ++
    [.proceed (.elapse 2)]

def succeeds (call : Nat) : CallAction Unit := .proceed (.result call none)

/-- With a threshold of three successes and one counted place, two successful
probes use up the places; with the threshold of two and three places, four
panics do. Either breaker has no call in progress and refuses. -/
theorem spent_breakers_refuse :
    (run (callStep (sampleConfig 3 1)) sampleTraffic (probing [succeeds, succeeds])).any
      (fun traffic => decide (traffic.inFlight = [] ∧
        traffic.breaker.lastFailureTime + (sampleConfig 3 1).timeout < traffic.now ∧
        (beforeRequest (sampleConfig 3 1) traffic.breaker traffic.now).2 =
          some .errTooManyRequests)) = true ∧
    (run (callStep (sampleConfig 2 3)) sampleTraffic
        (probing [.panics, .panics, .panics, .panics])).any
      (fun traffic => decide (traffic.inFlight = [] ∧
        traffic.breaker.lastFailureTime + (sampleConfig 2 3).timeout < traffic.now ∧
        (beforeRequest (sampleConfig 2 3) traffic.breaker traffic.now).2 =
          some .errTooManyRequests)) = true := by
  decide +kernel

/-- One panicking probe of four leaves the threshold of two in reach. -/
theorem one_panic_leaves_way :
    ∃ traffic, run (callStep (sampleConfig 2 3)) sampleTraffic (probing [.panics]) =
        some traffic ∧ traffic.breaker.state = .stateHalfOpen ∧
      (beforeRequest (sampleConfig 2 3) traffic.breaker traffic.now).2 = none := by
  refine ⟨_, rfl, rfl, ?_⟩
  refine idle_breaker_admits (sampleConfig 2 3) (by decide) (by decide)
    (reaches_of_run (.start ⟨0, rfl⟩) (probing [.panics]) (by decide) rfl) rfl (by decide)

end Dagens.Resilience.Readmission
