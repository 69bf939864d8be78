import Dagens.Resilience.ProbeLimit

/-!
# Whose results decide

`afterRequest` books a result on the state that the breaker is in when the call
returns. A call that was admitted in an earlier period can therefore close or
reopen a half-open breaker, or open a closed one. If every result that is counted
comes from a call of the current period, each change of state is the verdict of
the period that it ends.
-/

namespace Dagens.Resilience.ProbeVerdict

open Lib GuardedRun Chronicle CircuitBreaker List ProbeLimit

def isAdmissionOf (call : Nat) : Entry → Bool
  | .admitted other _ => decide (other = call)
  | _ => false

/-- The result of a call that was admitted in the same period. -/
def ownReport (failed : Bool) (period : List Entry) : Entry → Bool
  | .reported call outcome => decide (outcome = failed) && period.any (isAdmissionOf call)
  | _ => false

def isSuccess : Entry → Bool
  | .reported _ false => true
  | _ => false

/-- Successes of the period that came from its own calls. -/
def ownSuccesses (period : List Entry) : Int := period.countP (ownReport false period)

/-- Failures since the last success of the period that came from its own calls. -/
def ownFailures (period : List Entry) : Int :=
  (period.takeWhile fun entry => !isSuccess entry).countP (ownReport true period)

/-- What has to precede a change of state, in the period that it ends. -/
def Verdict {Err : Type} (config : CircuitBreakerConfig Err) : List Entry → Prop
  | .changed .stateHalfOpen .stateClosed _ :: earlier =>
    config.successThreshold ≤ ownSuccesses (periodOf earlier)
  | .changed .stateHalfOpen .stateOpen _ :: earlier =>
    ∃ entry ∈ periodOf earlier, ownReport true (periodOf earlier) entry = true
  | .changed .stateClosed .stateOpen _ :: earlier =>
    config.failureThreshold ≤ ownFailures (periodOf earlier)
  | _ => True

variable {Err : Type} (config : CircuitBreakerConfig Err)

/-- A result that is counted comes from a call admitted since the last change. -/
def ownResult (traffic : Traffic) : Action Err → Bool
  | .result call err =>
    match traffic.breaker.state with
    | .stateClosed => !config.isFailure err || (periodOf traffic.log).any (isAdmissionOf call)
    | .stateHalfOpen => (periodOf traffic.log).any (isAdmissionOf call)
    | .stateOpen => true
  | _ => true

section Counting

variable {period : List Entry} {entry : Entry} {call : Nat}

theorem own_report_mono {failed : Bool} {old : Entry} (own : ownReport failed period old = true) :
    ownReport failed (entry :: period) old = true := by
  cases old with
  | reported =>
    simp only [ownReport, Bool.and_eq_true, decide_eq_true_eq, any_cons, Bool.or_eq_true] at own ⊢
    exact ⟨own.1, .inr own.2⟩
  | _ => cases own

theorem own_reports_kept (failed : Bool) (counted period : List Entry) (entry : Entry) :
    counted.countP (ownReport failed period) ≤
      counted.countP (ownReport failed (entry :: period)) :=
  countP_mono_left fun _ _ own => own_report_mono own

theorem own_report_new (failed : Bool) (own : period.any (isAdmissionOf call) = true) :
    ownReport failed (.reported call failed :: period) (.reported call failed) = true := by
  simp [ownReport, own]

theorem own_successes_kept : ownSuccesses period ≤ ownSuccesses (entry :: period) := by
  have kept := own_reports_kept false period period entry
  simp only [ownSuccesses, countP_cons]
  omega

theorem own_successes_report (own : period.any (isAdmissionOf call) = true) :
    ownSuccesses period + 1 ≤ ownSuccesses (.reported call false :: period) := by
  have kept := own_reports_kept false period period (.reported call false)
  simp only [ownSuccesses, countP_cons, own_report_new false own, if_true]
  omega

theorem own_failures_kept (other : isSuccess entry = false) :
    ownFailures period ≤ ownFailures (entry :: period) := by
  have kept := own_reports_kept true (period.takeWhile fun entry => !isSuccess entry) period entry
  simp only [ownFailures, takeWhile_cons, other, Bool.not_false, if_true, countP_cons]
  omega

theorem own_failures_report (own : period.any (isAdmissionOf call) = true) :
    ownFailures period + 1 ≤ ownFailures (.reported call true :: period) := by
  have kept := own_reports_kept true (period.takeWhile fun entry => !isSuccess entry) period
    (.reported call true)
  have other : isSuccess (.reported call true) = false := rfl
  simp only [ownFailures, takeWhile_cons, other, Bool.not_false, if_true, countP_cons,
    own_report_new true own]
  omega

theorem own_failures_nonneg : 0 ≤ ownFailures period := Int.natCast_nonneg _

theorem own_successes_nonneg : 0 ≤ ownSuccesses period := Int.natCast_nonneg _

end Counting

structure Judged (traffic : Traffic) : Prop where
  state : traffic.breaker.state = stateOf traffic.log
  failures : traffic.breaker.state = .stateClosed →
    traffic.breaker.failureCount ≤ ownFailures (periodOf traffic.log)
  successes : traffic.breaker.state = .stateHalfOpen →
    traffic.breaker.successCount ≤ ownSuccesses (periodOf traffic.log)
  verdicts : AtEvery (Verdict config) traffic.log

variable {config} {traffic after : Traffic} {action : Action Err}

theorem judged_fresh (fresh : Fresh traffic) : Judged config traffic := by
  obtain ⟨_, rfl⟩ := fresh
  exact ⟨rfl, fun _ => own_failures_nonneg, by rintro ⟨⟩, at_every_nil.mpr trivial⟩

attribute [local simp] reports refuses

theorem judged_step (judged : Judged config traffic) (own : ownResult config traffic action = true)
    (move : TrafficMove config traffic action after) : Judged config after := by
  have state := state_logged judged.state move
  have quiet : ∀ entry, Verdict config (entry :: traffic.log) →
      AtEvery (Verdict config) (entry :: traffic.log) := fun entry verdict =>
    at_every_cons.mpr ⟨verdict, judged.verdicts⟩
  unfold ownResult at own
  cases move with
  | elapses => exact ⟨state, judged.failures, judged.successes, judged.verdicts⟩
  | passes closed =>
    refine ⟨state, fun _ => ?_, by simp [admits, closed], quiet _ trivial⟩
    exact (judged.failures closed).trans (own_failures_kept rfl)
  | waits isOpen => exact ⟨state, by simp [isOpen], by simp [isOpen],
      quiet _ trivial⟩
  | probes =>
    exact ⟨state, by rintro ⟨⟩, fun _ => own_successes_nonneg,
      at_every_cons.mpr ⟨trivial, quiet _ trivial⟩⟩
  | joins halfOpen | crowds halfOpen =>
    refine ⟨state, by simp [admits, halfOpen], fun _ => ?_, quiet _ trivial⟩
    exact (judged.successes halfOpen).trans own_successes_kept
  | counts call _ closed failed =>
    simp only [closed, failed, Bool.not_true, Bool.false_or] at own
    refine ⟨state, fun _ => ?_, by simp [closed], quiet _ trivial⟩
    exact (Int.add_le_add_right (judged.failures closed) 1).trans (own_failures_report own)
  | trips call _ closed failed reached =>
    simp only [closed, failed, Bool.not_true, Bool.false_or] at own
    refine ⟨state, by rintro ⟨⟩, by rintro ⟨⟩, at_every_cons.mpr ⟨?_, quiet _ trivial⟩⟩
    exact reached.trans ((Int.add_le_add_right (judged.failures closed) 1).trans
      (own_failures_report own))
  | clears _ _ closed =>
    exact ⟨state, fun _ => own_failures_nonneg, by simp [closed], quiet _ trivial⟩
  | reopens call _ halfOpen =>
    simp only [halfOpen] at own
    refine ⟨state, by rintro ⟨⟩, by rintro ⟨⟩, at_every_cons.mpr ⟨?_, quiet _ trivial⟩⟩
    exact ⟨.reported call true, mem_cons_self, own_report_new true own⟩
  | recovers call _ halfOpen =>
    simp only [halfOpen] at own
    refine ⟨state, by simp [halfOpen], fun _ => ?_, quiet _ trivial⟩
    exact (Int.add_le_add_right (judged.successes halfOpen) 1).trans (own_successes_report own)
  | closes call _ halfOpen _ reached =>
    simp only [halfOpen] at own
    refine ⟨state, fun _ => own_failures_nonneg, by rintro ⟨⟩,
      at_every_cons.mpr ⟨?_, quiet _ trivial⟩⟩
    exact reached.trans ((Int.add_le_add_right (judged.successes halfOpen) 1).trans
      (own_successes_report own))
  | ignores _ _ isOpen => exact ⟨state, by simp [isOpen], by simp [isOpen],
      quiet _ trivial⟩

/-- In every run of calls in which the results that are counted come from calls
of the current period, every change of state is the verdict of the period that
it ends. -/
theorem verdicts_from_own_results (config : CircuitBreakerConfig Err) {traffic : Traffic}
    (reached : Reaches (trafficStep config)
      (fun traffic action => ownResult config traffic action = true) Fresh traffic) :
    AtEvery (Verdict config) traffic.log := by
  have judged : Judged config traffic :=
    reaches_invariant (fun _ fresh => judged_fresh fresh)
      (fun _ _ _ judged own taken => judged_step judged own (traffic_moves taken)) reached
  exact judged.verdicts

/-- Two calls are admitted, the first fails; the timeout passes, a probe starts,
and the second call returns. -/
def lateResult : List (Action Unit) :=
  [.request, .request, .result 0 (some ()), .elapse 2, .request, .result 1 none]

theorem late_result_closes_breaker :
    ∃ final, run (trafficStep (sampleConfig 1 1)) sampleTraffic lateResult =
        some final ∧
      final.breaker.state = .stateClosed ∧
      ¬ AtEvery (Verdict (sampleConfig 1 1)) final.log := by
  refine ⟨_, rfl, rfl, fun verdicts => ?_⟩
  have verdict : (sampleConfig 1 1).successThreshold ≤ ownSuccesses _ :=
    verdicts _ (suffix_refl _)
  revert verdict
  decide

/-- The probe itself returns. -/
def probeResult : List (Action Unit) :=
  [.request, .result 0 (some ()), .elapse 2, .request, .result 1 none]

theorem probe_result_closes_breaker :
    ∃ final, run (trafficStep (sampleConfig 1 1)) sampleTraffic probeResult =
        some final ∧
      final.breaker.state = .stateClosed ∧
      AtEvery (Verdict (sampleConfig 1 1)) final.log := by
  refine ⟨_, rfl, rfl, ?_⟩
  exact verdicts_from_own_results (sampleConfig 1 1)
    (reaches_of_run (.start sample_fresh) probeResult (by decide) rfl)

end Dagens.Resilience.ProbeVerdict
