import Dagens.Resilience.CircuitBreaker

/-!
# How many probes a half-open breaker admits

An open breaker refuses until its timeout has passed. The request that finds the
timeout passed moves the breaker to half-open and is admitted, but
`halfOpenCount` starts at zero after it: the counter is one behind the number of
requests admitted, so the bound is exceeded as soon as the counter is allowed to
reach it.
-/

namespace Dagens.Resilience.ProbeLimit

open Lib GuardedRun Chronicle CircuitBreaker List

variable {Err : Type} (config : CircuitBreakerConfig Err)

def isAdmission : Entry → Bool
  | .admitted _ _ => true
  | _ => false

def admissions (log : List Entry) : Int := log.countP isAdmission

/-- A request is admitted only when the timeout has passed since each time the
breaker opened before. -/
def Cooled : List Entry → Prop
  | .admitted _ time :: earlier =>
    ∀ source openedAt, .changed source .stateOpen openedAt ∈ earlier →
      openedAt + config.timeout ≤ time
  | _ => True

/-- A half-open period has not admitted too many requests so far, the one that
began it included. -/
def Probed (moment : List Entry) : Prop :=
  stateOf moment = .stateHalfOpen → admissions (periodOf moment) ≤ config.halfOpenMaxRequests

instance (moment : List Entry) : Decidable (Probed config moment) :=
  inferInstanceAs (Decidable (_ → _))

def Limits (log : List Entry) : Prop :=
  AtEvery (fun moment => Cooled config moment ∧ Probed config moment) log

/-- No request arrives at a half-open breaker whose counter is one below the
bound. -/
def leavesRoom (traffic : Traffic) : Action Err → Bool
  | .request => !(decide (traffic.breaker.state = .stateHalfOpen) &&
      decide (traffic.breaker.halfOpenCount + 1 = config.halfOpenMaxRequests))
  | _ => true

structure Limited (traffic : Traffic) : Prop where
  state : traffic.breaker.state = stateOf traffic.log
  opened : ∀ source openedAt, .changed source .stateOpen openedAt ∈ traffic.log →
    openedAt + config.timeout < traffic.now ∨
      traffic.breaker.state = .stateOpen ∧ openedAt = traffic.breaker.lastFailureTime
  probed : traffic.breaker.state = .stateHalfOpen →
    admissions (periodOf traffic.log) = traffic.breaker.halfOpenCount + 1
  limits : Limits config traffic.log

variable {config} {traffic after : Traffic} {action : Action Err}

@[simp] theorem admissions_nil : admissions [] = 0 := rfl

attribute [local simp] isAdmission Probed admits reports refuses leavesRoom

@[simp] theorem admissions_admitted (call : Nat) (time : Int) (log : List Entry) :
    admissions (.admitted call time :: log) = admissions log + 1 := by
  simp [admissions, countP_cons]

@[simp] theorem admissions_refused (call : Nat) (err : BreakerError) (log : List Entry) :
    admissions (.refused call err :: log) = admissions log := by
  simp [admissions]

@[simp] theorem admissions_reported (call : Nat) (failed : Bool) (log : List Entry) :
    admissions (.reported call failed :: log) = admissions log := by
  simp [admissions]

theorem limited_fresh (fresh : Fresh traffic) : Limited config traffic := by
  obtain ⟨_, rfl⟩ := fresh
  refine ⟨rfl, by simp, by rintro ⟨⟩, ?_⟩
  exact at_every_nil.mpr ⟨trivial, by rintro ⟨⟩⟩

variable {call : Nat} {log : List Entry} {source : CircuitState}

theorem limits_refused {err : BreakerError} (limits : Limits config log) :
    Limits config (.refused call err :: log) := by
  refine at_every_cons.mpr ⟨⟨trivial, ?_⟩, limits⟩
  have now := (limits log (suffix_refl log)).2
  simpa using now

theorem limits_reported {failed : Bool} (limits : Limits config log) :
    Limits config (.reported call failed :: log) := by
  refine at_every_cons.mpr ⟨⟨trivial, ?_⟩, limits⟩
  have now := (limits log (suffix_refl log)).2
  simpa using now

variable {time openedAt : Int}

theorem limits_changed {target : CircuitState} (positive : 0 < config.halfOpenMaxRequests)
    (limits : Limits config log) :
    Limits config (.changed source target time :: log) := by
  refine at_every_cons.mpr ⟨⟨trivial, fun _ => ?_⟩, limits⟩
  simpa [admissions] using positive.le

theorem limits_admitted (limits : Limits config log)
    (cooled : ∀ source openedAt, .changed source .stateOpen openedAt ∈ log → openedAt +
      config.timeout < time)
    (probed : stateOf log = .stateHalfOpen → admissions (periodOf log) + 1 ≤
      config.halfOpenMaxRequests) :
    Limits config (.admitted call time :: log) := by
  refine at_every_cons.mpr ⟨⟨fun source openedAt member => ?_, ?_⟩, limits⟩
  · exact (cooled source openedAt member).le
  · simpa using probed

theorem cooled_down (limited : Limited config traffic)
    (notOpen : traffic.breaker.state ≠ .stateOpen)
    (member : .changed source .stateOpen openedAt ∈ traffic.log) :
    openedAt + config.timeout < traffic.now :=
  (limited.opened source openedAt member).resolve_right fun still => notOpen still.1

theorem opening_logged (move : TrafficMove config traffic action after)
    (member : .changed source .stateOpen openedAt ∈ after.log) :
    .changed source .stateOpen openedAt ∈ traffic.log ∨
      after.breaker.state = .stateOpen ∧ openedAt = after.breaker.lastFailureTime := by
  cases move <;> simp_all [toOpen] <;> tauto

section

variable (limited : Limited config traffic) (move : TrafficMove config traffic action after)

include limited move

theorem opened_step (source : CircuitState) (openedAt : Int)
    (member : .changed source .stateOpen openedAt ∈ after.log) :
    openedAt + config.timeout < after.now ∨
      after.breaker.state = .stateOpen ∧ openedAt = after.breaker.lastFailureTime := by
  rcases opening_logged move member with earlier | opens
  · rcases limited.opened source openedAt earlier with _ | ⟨isOpen, rfl⟩
    · have later : traffic.now ≤ after.now := by
        cases move <;> simp
      exact .inl (by omega)
    · cases move with
      | elapses | waits | ignores => exact .inr ⟨isOpen, rfl⟩
      | probes _ late => exact .inl late
      | _ => simp_all
  · exact .inr opens

theorem probed_step (halfOpen : after.breaker.state = .stateHalfOpen) :
    admissions (periodOf after.log) = after.breaker.halfOpenCount + 1 := by
  have probed := limited.probed
  cases move <;> simp_all [toOpen, toHalfOpen, toClosed]

end

section

variable (positive : 0 < config.halfOpenMaxRequests) (limited : Limited config traffic)
  (room : leavesRoom config traffic action = true)
  (move : TrafficMove config traffic action after)

include positive limited room move

theorem limits_step : Limits config after.log := by
  have limits := limited.limits
  cases move with
  | elapses => exact limits
  | passes closed =>
    refine limits_admitted limits (fun _ _ => cooled_down limited (by simp [closed])) ?_
    simp [← limited.state, closed]
  | waits | crowds => exact limits_refused limits
  | probes _ late =>
    refine limits_admitted (limits_changed positive limits) ?_ ?_
    · intro source openedAt member
      have earlier : .changed source .stateOpen openedAt ∈ traffic.log := by
        simpa using member
      rcases limited.opened source openedAt earlier with passed | ⟨_, rfl⟩
      · exact passed
      · exact late
    · intro _
      simpa using Int.add_one_le_of_lt positive
  | joins halfOpen =>
    refine limits_admitted limits (fun _ _ => cooled_down limited (by simp [halfOpen])) ?_
    intro _
    have counted := limited.probed halfOpen
    have free : traffic.breaker.halfOpenCount + 1 ≠ config.halfOpenMaxRequests := by
      simpa [halfOpen] using room
    have bound : admissions (periodOf traffic.log) + 1 ≤ config.halfOpenMaxRequests := by omega
    exact bound
  | counts | clears | recovers | ignores => exact limits_reported limits
  | trips | reopens | closes =>
    exact limits_changed positive (limits_reported limits)

theorem limited_step : Limited config after :=
  ⟨state_logged limited.state move, opened_step limited move, probed_step limited move,
    limits_step positive limited room move⟩

end

theorem limits_exceeded (limited : Limited config traffic)
    (halfOpen : traffic.breaker.state = .stateHalfOpen)
    (last : traffic.breaker.halfOpenCount + 1 = config.halfOpenMaxRequests)
    (move : TrafficMove config traffic .request after) : ¬ Limits config after.log := by
  intro limits
  have counted := limited.probed halfOpen
  have now := (limits after.log (suffix_refl _)).2
  cases move with
  | joins =>
    have state : stateOf traffic.log = .stateHalfOpen := limited.state.symm.trans halfOpen
    have bound : admissions (periodOf traffic.log) + 1 ≤ config.halfOpenMaxRequests := by
      simpa [state] using now
    omega
  | crowds => omega
  | passes closed => simp [halfOpen] at closed
  | waits isOpen | probes isOpen => simp [halfOpen] at isOpen

/-- After any run of calls in which no request has come to a half-open breaker
with one place left by its counter, the next step keeps the limits exactly if
it is not such a request either. -/
theorem probes_limited_iff (config : CircuitBreakerConfig Err)
    (positive : 0 < config.halfOpenMaxRequests) {traffic after : Traffic} {action : Action Err}
    (reached : Reaches (trafficStep config)
      (fun traffic action => leavesRoom config traffic action = true) Fresh traffic)
    (taken : trafficStep config traffic action = some after) :
    Limits config after.log ↔ leavesRoom config traffic action = true := by
  have limited : Limited config traffic :=
    reaches_invariant (fun _ fresh => limited_fresh fresh)
      (fun _ _ _ limited room taken => limited_step positive limited room (traffic_moves taken))
      reached
  have move := traffic_moves taken
  refine ⟨fun limits => ?_, fun room => limits_step positive limited room move⟩
  cases action with
  | request =>
    by_contra crowded
    have last : traffic.breaker.state = .stateHalfOpen ∧
        traffic.breaker.halfOpenCount + 1 = config.halfOpenMaxRequests := by
      simpa using crowded
    exact limits_exceeded limited last.1 last.2 move limits
  | elapse => rfl
  | result => rfl

/-- Every threshold is one; a result is a failure if there is an error. -/
theorem sample_fresh : Fresh sampleTraffic := ⟨0, rfl⟩

/-- The first call fails, the timeout passes and two more requests arrive. -/
def twoProbes : List (Action Unit) :=
  [.request, .result 0 (some ()), .elapse 2, .request, .request]

theorem second_probe_exceeds_limit :
    ∃ final, run (trafficStep (sampleConfig 1 1)) sampleTraffic twoProbes = some final ∧
      ¬ Limits (sampleConfig 1 1) final.log := by
  refine ⟨_, rfl, fun limits => ?_⟩
  have now := (limits _ (suffix_refl _)).2
  revert now
  decide

theorem two_probes_within_three :
    ∃ before final,
      run (trafficStep (sampleConfig 1 3)) sampleTraffic (twoProbes.take 4) = some before ∧
      trafficStep (sampleConfig 1 3) before .request = some final ∧
      Limits (sampleConfig 1 3) final.log := by
  refine ⟨_, _, rfl, rfl, ?_⟩
  exact (probes_limited_iff (sampleConfig 1 3) (by decide)
    (reaches_of_run (.start sample_fresh) (twoProbes.take 4) (by decide) rfl)
    (rfl : trafficStep (sampleConfig 1 3) _ .request = some _)).mpr (by decide)

end Dagens.Resilience.ProbeLimit
