import Dagens.Lib.Chronicle
import Dagens.Lib.GuardedRun

/-!
# The circuit breaker

`beforeRequest` and `afterRequest` run under the breaker's lock, the protected
call between them does not. A system of calls over one breaker therefore has the
two as separate steps, and a call may report in a later period of the breaker
than the one that admitted it. The log keeps what happened, newest entry first.
-/

namespace Dagens.Resilience.CircuitBreaker

open Lib.Chronicle

set_option linter.dupNamespace false

inductive CircuitState where
  | stateClosed
  | stateOpen
  | stateHalfOpen
  deriving DecidableEq, Repr

/-- What `beforeRequest` returns instead of letting the request pass. -/
inductive BreakerError where
  | errCircuitOpen
  | errTooManyRequests
  deriving DecidableEq, Repr

/-- Thresholds are `int64` and durations count nanoseconds; nothing excludes
negative ones. -/
structure CircuitBreakerConfig (Err : Type) where
  failureThreshold : Int
  successThreshold : Int
  timeout : Int
  halfOpenMaxRequests : Int
  isFailure : Option Err → Bool

structure CircuitBreaker where
  state : CircuitState
  failureCount : Int
  successCount : Int
  halfOpenCount : Int
  lastFailureTime : Int
  deriving DecidableEq, Repr

def newCircuitBreaker : CircuitBreaker where
  state := .stateClosed
  failureCount := 0
  successCount := 0
  halfOpenCount := 0
  lastFailureTime := 0

/-- `time.Since` saturates at the largest duration. -/
def timeSince (now earlier : Int) : Int := min (now - earlier) (2 ^ 63 - 1)

def toOpen (cb : CircuitBreaker) (now : Int) : CircuitBreaker :=
  { cb with state := .stateOpen, lastFailureTime := now, halfOpenCount := 0, successCount := 0 }

def toHalfOpen (cb : CircuitBreaker) : CircuitBreaker :=
  { cb with state := .stateHalfOpen, halfOpenCount := 0, successCount := 0, failureCount := 0 }

def toClosed (cb : CircuitBreaker) : CircuitBreaker :=
  { cb with state := .stateClosed, failureCount := 0, successCount := 0, halfOpenCount := 0 }

section Requests

variable {Err : Type} (config : CircuitBreakerConfig Err)

def beforeRequest (cb : CircuitBreaker) (now : Int) : CircuitBreaker × Option BreakerError :=
  match cb.state with
  | .stateClosed => (cb, none)
  | .stateOpen =>
    if timeSince now cb.lastFailureTime > config.timeout then (toHalfOpen cb, none)
    else (cb, some .errCircuitOpen)
  | .stateHalfOpen =>
    if cb.halfOpenCount ≥ config.halfOpenMaxRequests then (cb, some .errTooManyRequests)
    else ({ cb with halfOpenCount := cb.halfOpenCount + 1 }, none)

def afterRequest (cb : CircuitBreaker) (err : Option Err) (now : Int) : CircuitBreaker :=
  match cb.state with
  | .stateClosed =>
    if config.isFailure err then
      let counted :=
        { cb with failureCount := cb.failureCount + 1, lastFailureTime := now }
      if counted.failureCount ≥ config.failureThreshold then toOpen counted now else counted
    else { cb with failureCount := 0 }
  | .stateHalfOpen =>
    if config.isFailure err then toOpen cb now
    else
      let counted := { cb with successCount := cb.successCount + 1 }
      if counted.successCount ≥ config.successThreshold then toClosed counted else counted
  | .stateOpen => cb

end Requests

inductive Entry where
  | admitted (call : Nat) (time : Int)
  | refused (call : Nat) (err : BreakerError)
  | reported (call : Nat) (failed : Bool)
  | changed (source target : CircuitState) (time : Int)
  deriving DecidableEq, Repr

def Entry.isChange : Entry → Bool
  | .changed _ _ _ => true
  | _ => false

/-- `inFlight` are the calls between their `beforeRequest` and `afterRequest`. -/
structure Traffic where
  breaker : CircuitBreaker
  now : Int
  calls : Nat
  inFlight : List Nat
  log : List Entry

inductive Action (Err : Type) where
  | elapse (duration : Nat)
  | request
  | result (call : Nat) (err : Option Err)

/-- A transition is logged where the code reports one to `OnStateChange`. -/
def stateChange (cb after : CircuitBreaker) (now : Int) : List Entry :=
  if after.state = cb.state then [] else [.changed cb.state after.state now]

variable {Err : Type} (config : CircuitBreakerConfig Err)

/-- `Execute` up to the protected call, and from its return on. -/
def trafficStep (traffic : Traffic) : Action Err → Option Traffic
  | .elapse duration => some { traffic with now := traffic.now + duration }
  | .request =>
    let (breaker, refusal) := beforeRequest config traffic.breaker traffic.now
    let change := stateChange traffic.breaker breaker traffic.now
    match refusal with
    | none => some { traffic with
        breaker := breaker
        calls := traffic.calls + 1
        inFlight := traffic.calls :: traffic.inFlight
        log := .admitted traffic.calls traffic.now :: change ++ traffic.log }
    | some err => some { traffic with
        breaker := breaker
        calls := traffic.calls + 1
        log := .refused traffic.calls err :: change ++ traffic.log }
  | .result call err =>
    if call ∈ traffic.inFlight then
      let breaker := afterRequest config traffic.breaker err traffic.now
      some { traffic with
        breaker := breaker
        inFlight := traffic.inFlight.erase call
        log := stateChange traffic.breaker breaker traffic.now ++
          .reported call (config.isFailure err) :: traffic.log }
    else none

def Fresh (traffic : Traffic) : Prop :=
  ∃ now, traffic = ⟨newCircuitBreaker, now, 0, [], []⟩

/-- The entries since the last change of state. -/
def periodOf (log : List Entry) : List Entry := period Entry.isChange log

def stateOf (log : List Entry) : CircuitState :=
  match lastChange Entry.isChange log with
  | some (.changed _ target _) => target
  | _ => .stateClosed

section Reading

variable (log : List Entry) (call : Nat) (time : Int)

@[simp] theorem period_of_admitted :
    periodOf (.admitted call time :: log) = .admitted call time :: periodOf log :=
  period_entry rfl log

@[simp] theorem period_of_refused (err : BreakerError) :
    periodOf (.refused call err :: log) = .refused call err :: periodOf log :=
  period_entry rfl log

@[simp] theorem period_of_reported (failed : Bool) :
    periodOf (.reported call failed :: log) = .reported call failed :: periodOf log :=
  period_entry rfl log

@[simp] theorem period_of_changed (source target : CircuitState) :
    periodOf (.changed source target time :: log) = [] :=
  period_change rfl log

@[simp] theorem state_of_admitted : stateOf (.admitted call time :: log) = stateOf log := rfl

@[simp] theorem state_of_refused (err : BreakerError) :
    stateOf (.refused call err :: log) = stateOf log := rfl

@[simp] theorem state_of_reported (failed : Bool) :
    stateOf (.reported call failed :: log) = stateOf log := rfl

@[simp] theorem state_of_changed (source target : CircuitState) :
    stateOf (.changed source target time :: log) = target := rfl

end Reading

/-- The call is admitted by a breaker that becomes `breaker`. -/
def admits (traffic : Traffic) (breaker : CircuitBreaker) (change : List Entry) : Traffic :=
  { traffic with
    breaker := breaker
    calls := traffic.calls + 1
    inFlight := traffic.calls :: traffic.inFlight
    log := .admitted traffic.calls traffic.now :: change ++ traffic.log }

def refuses (traffic : Traffic) (err : BreakerError) : Traffic :=
  { traffic with
    calls := traffic.calls + 1
    log := .refused traffic.calls err :: traffic.log }

def reports (traffic : Traffic) (call : Nat) (failed : Bool) (breaker : CircuitBreaker)
    (change : List Entry) : Traffic :=
  { traffic with
    breaker := breaker
    inFlight := traffic.inFlight.erase call
    log := change ++ .reported call failed :: traffic.log }

inductive TrafficMove (traffic : Traffic) : Action Err → Traffic → Prop where
  | elapses (duration : Nat) :
      TrafficMove traffic (.elapse duration) { traffic with now := traffic.now + duration }
  | passes (closed : traffic.breaker.state = .stateClosed) :
      TrafficMove traffic .request (admits traffic traffic.breaker [])
  | waits (isOpen : traffic.breaker.state = .stateOpen) :
      TrafficMove traffic .request (refuses traffic .errCircuitOpen)
  | probes (isOpen : traffic.breaker.state = .stateOpen)
      (late : traffic.breaker.lastFailureTime + config.timeout < traffic.now) :
      TrafficMove traffic .request (admits traffic (toHalfOpen traffic.breaker)
        [.changed .stateOpen .stateHalfOpen traffic.now])
  | joins (halfOpen : traffic.breaker.state = .stateHalfOpen)
      (room : traffic.breaker.halfOpenCount < config.halfOpenMaxRequests) :
      TrafficMove traffic .request (admits traffic
        { traffic.breaker with halfOpenCount := traffic.breaker.halfOpenCount + 1 } [])
  | crowds (halfOpen : traffic.breaker.state = .stateHalfOpen)
      (full : config.halfOpenMaxRequests ≤ traffic.breaker.halfOpenCount) :
      TrafficMove traffic .request (refuses traffic .errTooManyRequests)
  | counts (call : Nat) (err : Option Err) (closed : traffic.breaker.state = .stateClosed)
      (failed : config.isFailure err = true)
      (below : traffic.breaker.failureCount + 1 < config.failureThreshold) :
      TrafficMove traffic (.result call err) (reports traffic call true
        { traffic.breaker with
          failureCount := traffic.breaker.failureCount + 1, lastFailureTime := traffic.now } [])
  | trips (call : Nat) (err : Option Err) (closed : traffic.breaker.state = .stateClosed)
      (failed : config.isFailure err = true)
      (reached : config.failureThreshold ≤ traffic.breaker.failureCount + 1) :
      TrafficMove traffic (.result call err) (reports traffic call true
        (toOpen { traffic.breaker with failureCount := traffic.breaker.failureCount + 1 }
          traffic.now) [.changed .stateClosed .stateOpen traffic.now])
  | clears (call : Nat) (err : Option Err) (closed : traffic.breaker.state = .stateClosed)
      (succeeded : config.isFailure err = false) :
      TrafficMove traffic (.result call err) (reports traffic call false
        { traffic.breaker with failureCount := 0 } [])
  | reopens (call : Nat) (err : Option Err) (halfOpen : traffic.breaker.state = .stateHalfOpen)
      (failed : config.isFailure err = true) :
      TrafficMove traffic (.result call err) (reports traffic call true
        (toOpen traffic.breaker traffic.now) [.changed .stateHalfOpen .stateOpen traffic.now])
  | recovers (call : Nat) (err : Option Err) (halfOpen : traffic.breaker.state = .stateHalfOpen)
      (succeeded : config.isFailure err = false)
      (below : traffic.breaker.successCount + 1 < config.successThreshold) :
      TrafficMove traffic (.result call err) (reports traffic call false
        { traffic.breaker with successCount := traffic.breaker.successCount + 1 } [])
  | closes (call : Nat) (err : Option Err) (halfOpen : traffic.breaker.state = .stateHalfOpen)
      (succeeded : config.isFailure err = false)
      (reached : config.successThreshold ≤ traffic.breaker.successCount + 1) :
      TrafficMove traffic (.result call err) (reports traffic call false
        (toClosed traffic.breaker) [.changed .stateHalfOpen .stateClosed traffic.now])
  | ignores (call : Nat) (err : Option Err) (isOpen : traffic.breaker.state = .stateOpen) :
      TrafficMove traffic (.result call err)
        (reports traffic call (config.isFailure err) traffic.breaker [])

variable {config} {traffic after : Traffic}

theorem time_since_lt {now earlier timeout : Int} (late : timeSince now earlier > timeout) :
    earlier + timeout < now := by
  have bound : timeSince now earlier ≤ now - earlier := min_le_left _ _
  omega

theorem request_moves (taken : trafficStep config traffic .request = some after) :
    TrafficMove config traffic .request after := by
  obtain ⟨⟨state, _⟩, _⟩ := traffic
  cases state with
    simp only [trafficStep, beforeRequest] at taken
  | stateClosed =>
    cases taken
    exact .passes rfl
  | stateOpen =>
    split_ifs at taken with late
    · cases taken
      exact .probes rfl (time_since_lt late)
    · cases taken
      exact .waits rfl
  | stateHalfOpen =>
    split_ifs at taken with full
    · cases taken
      exact .crowds rfl full
    · cases taken
      exact .joins rfl (not_le.mp full)

theorem result_moves {call : Nat} {err : Option Err}
    (taken : trafficStep config traffic (.result call err) = some after) :
    TrafficMove config traffic (.result call err) after := by
  obtain ⟨⟨state, _⟩, _⟩ := traffic
  simp only [trafficStep] at taken
  split_ifs at taken
  cases state with
  | stateClosed =>
    cases failed : config.isFailure err with
    | true =>
      simp only [afterRequest, failed, if_true] at taken
      split_ifs at taken with reached
      · cases taken
        exact .trips call err rfl failed reached
      · cases taken
        exact .counts call err rfl failed (not_le.mp reached)
    | false =>
      simp only [afterRequest, failed, Bool.false_eq_true, if_false] at taken
      cases taken
      exact .clears call err rfl failed
  | stateOpen =>
    cases taken
    exact .ignores call err rfl
  | stateHalfOpen =>
    cases failed : config.isFailure err with
    | true =>
      simp only [afterRequest, failed, if_true] at taken
      cases taken
      exact .reopens call err rfl failed
    | false =>
      simp only [afterRequest, failed, Bool.false_eq_true, if_false] at taken
      split_ifs at taken with reached
      · cases taken
        exact .closes call err rfl failed reached
      · cases taken
        exact .recovers call err rfl failed (not_le.mp reached)

variable {action : Action Err}

theorem traffic_moves (taken : trafficStep config traffic action = some after) :
    TrafficMove config traffic action after := by
  cases action with
  | elapse duration =>
    cases taken
    exact .elapses duration
  | request => exact request_moves taken
  | result => exact result_moves taken

theorem state_logged (logged : traffic.breaker.state = stateOf traffic.log)
    (move : TrafficMove config traffic action after) :
    after.breaker.state = stateOf after.log := by
  cases move <;> simp_all [admits, refuses, reports, toOpen, toHalfOpen, toClosed]

/-- A single failure opens the breaker; a result is a failure if there is an error. -/
def sampleConfig (successThreshold halfOpenMaxRequests : Int) : CircuitBreakerConfig Unit where
  failureThreshold := 1
  successThreshold := successThreshold
  timeout := 1
  halfOpenMaxRequests := halfOpenMaxRequests
  isFailure := Option.isSome

def sampleTraffic : Traffic := ⟨newCircuitBreaker, 0, 0, [], []⟩

end Dagens.Resilience.CircuitBreaker
