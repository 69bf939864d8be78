import Mathlib

/-!
# Retries of serializable transactions

`WithSerializableRetry` sleeps before every attempt but the first. The sleep lasts
`BaseBackoff * 2^attempt`, multiplied in 64-bit words before it is capped by `MaxBackoff`.
-/

namespace Dagens.Hitl.RetryBackoff

/-- Durations are `int64` counts of nanoseconds. -/
structure SerializationConfig where
  maxRetries : Int
  (baseBackoff maxBackoff : BitVec 64)

/-- `calculateBackoff` before jitter is added; a Go shift by 64 or more gives zero. -/
def calculateBackoff (attempt : Nat) (config : SerializationConfig) : BitVec 64 :=
  let backoff := config.baseBackoff * (1#64 <<< attempt)
  if config.maxBackoff.slt backoff then config.maxBackoff else backoff

/-- A database error with the `SQLState` of the `PgError` it wraps, if any. -/
structure DbError where
  sqlState : Option String

def isSerializationError (err : DbError) : Bool := err.sqlState == some "40001"

def isDeadlockError (err : DbError) : Bool := err.sqlState == some "40P01"

def isRetryableError (err : DbError) : Bool := isSerializationError err || isDeadlockError err

/-- What one attempt meets: the context cancelled before it or in its sleep, or failing calls. -/
structure Attempt where
  cancelled : Bool := false
  cancelledAsleep : Bool := false
  beginErr : Option DbError := none
  opErr : Option DbError := none
  commitErr : Option DbError := none

inductive RetryResult where
  | success | contextError
  | beginError (err : DbError)
  | opError (err : DbError)
  | commitError (err : DbError)
  | maxRetriesExceeded (lastErr : Option DbError)

/-- The loop of `WithSerializableRetry`, with the arguments of its calls of `calculateBackoff`. -/
def retryLoop (meets : Nat → Attempt) :
    (remaining attempt : Nat) → Option DbError → List Nat × RetryResult
  | 0, _, lastErr => ([], .maxRetriesExceeded lastErr)
  | remaining + 1, attempt, _ =>
    let sleeps := if 0 < attempt then [attempt - 1] else []
    let retry (err : DbError) : List Nat × RetryResult :=
      let rest := retryLoop meets remaining (attempt + 1) (some err)
      (sleeps ++ rest.1, rest.2)
    if (meets attempt).cancelled then ([], .contextError)
    else if 0 < attempt ∧ (meets attempt).cancelledAsleep then (sleeps, .contextError)
    else match (meets attempt).beginErr, (meets attempt).opErr, (meets attempt).commitErr with
      | some err, _, _ => (sleeps, .beginError err)
      | none, some err, _ => if isRetryableError err then retry err else (sleeps, .opError err)
      | none, none, some err =>
        if isRetryableError err then retry err else (sleeps, .commitError err)
      | none, none, none => (sleeps, .success)

def withSerializableRetry (config : SerializationConfig) (meets : Nat → Attempt) :
    List Nat × RetryResult :=
  retryLoop meets (config.maxRetries + 1).toNat 0 none

/-- Some execution asks `calculateBackoff` for this attempt. -/
def Reached (config : SerializationConfig) (attempt : Nat) : Prop :=
  ∃ meets, attempt ∈ (withSerializableRetry config meets).1

theorem sleep_before (meets : Nat → Attempt) (remaining attempt slept : Nat)
    (lastErr : Option DbError) (asked : slept ∈ (retryLoop meets remaining attempt lastErr).1) :
    slept + 1 < attempt + remaining := by
  induction remaining generalizing attempt lastErr with
  | zero => simp [retryLoop] at asked
  | succ remaining ih =>
    -- A sleep belongs to this attempt, or to the loop that a retryable error continues.
    have split : slept + 1 = attempt ∨
        ∃ err, slept ∈ (retryLoop meets remaining (attempt + 1) (some err)).1 := by
      simp only [retryLoop] at asked
      grind
    rcases split with _ | ⟨err, later⟩
    · omega
    · have := ih (attempt + 1) (some err) later
      omega

/-- Every attempt fails with a serialization error. -/
def contended : Nat → Attempt := fun _ => { opErr := some ⟨some "40001"⟩ }

theorem contended_sleeps (remaining attempt slept : Nat) (lastErr : Option DbError)
    (begun : attempt ≤ slept + 1) (before : slept + 1 < attempt + remaining) :
    slept ∈ (retryLoop contended remaining attempt lastErr).1 := by
  induction remaining generalizing attempt lastErr with
  | zero => omega
  | succ remaining ih =>
    have unfolded : (retryLoop contended (remaining + 1) attempt lastErr).1 =
        (if 0 < attempt then [attempt - 1] else []) ++
          (retryLoop contended remaining (attempt + 1) (some ⟨some "40001"⟩)).1 := by
      simp [retryLoop, contended, isRetryableError, isSerializationError]
    rw [unfolded, List.mem_append]
    by_cases own : slept + 1 = attempt
    · left
      rw [if_pos (by omega)]
      simp [← own]
    · exact .inr (ih (attempt + 1) _ (by omega) (by omega))

theorem reached_iff (config : SerializationConfig) (attempt : Nat) :
    Reached config attempt ↔ attempt < config.maxRetries.toNat := by
  constructor
  · rintro ⟨meets, asked⟩
    have := sleep_before meets _ 0 attempt none asked
    omega
  · intro _
    exact ⟨contended, contended_sleeps _ 0 attempt none (by omega) (by omega)⟩

/-- `0 < BaseBackoff <= MaxBackoff`. -/
def SerializationConfig.Ordered (config : SerializationConfig) : Prop :=
  0 < config.baseBackoff.toInt ∧ config.baseBackoff.toInt ≤ config.maxBackoff.toInt

/-- The sleeps are the capped powers, positive and non-decreasing. -/
def BoundedExponential (config : SerializationConfig) : Prop :=
  ∀ attempt, Reached config attempt →
    (calculateBackoff attempt config).toInt =
      min (config.baseBackoff.toInt * 2 ^ attempt) config.maxBackoff.toInt ∧
    0 < (calculateBackoff attempt config).toInt ∧
    ∀ earlier ≤ attempt,
      (calculateBackoff earlier config).toInt ≤ (calculateBackoff attempt config).toInt

section Products

variable {config : SerializationConfig} (ordered : config.Ordered) (attempt : Nat)
include ordered

theorem base_nat : config.baseBackoff.toInt = config.baseBackoff.toNat ∧
    config.baseBackoff.toNat < 2 ^ 63 := by
  have positive := ordered.1
  rw [BitVec.toInt_eq_toNat_cond] at positive ⊢
  split at positive <;> omega

omit ordered in
theorem product_nat : (config.baseBackoff * (1#64 <<< attempt)).toNat =
    config.baseBackoff.toNat * 2 ^ attempt % 2 ^ 64 := by
  rw [← BitVec.twoPow_eq, BitVec.mul_twoPow_eq_shiftLeft, BitVec.toNat_shiftLeft,
    Nat.shiftLeft_eq]

theorem backoff_of_fits (fits : config.baseBackoff.toNat * 2 ^ attempt < 2 ^ 63) :
    (calculateBackoff attempt config).toInt =
      min (config.baseBackoff.toInt * 2 ^ attempt) config.maxBackoff.toInt := by
  have product : (config.baseBackoff * (1#64 <<< attempt)).toInt =
      config.baseBackoff.toInt * 2 ^ attempt := by
    rw [BitVec.toInt_eq_toNat_cond, product_nat, Nat.mod_eq_of_lt (by omega),
      if_pos (by omega), (base_nat ordered).1]
    push_cast
    rfl
  simp only [calculateBackoff, BitVec.slt_eq_decide, decide_eq_true_eq, ← product]
  split <;> omega

/-- The first product to leave the range is negative as an `int64`, and is not capped. -/
theorem backoff_negative (exceeds : 2 ^ 63 ≤ config.baseBackoff.toNat * 2 ^ attempt)
    (single : config.baseBackoff.toNat * 2 ^ attempt < 2 ^ 64) :
    (calculateBackoff attempt config).toInt < 0 := by
  have wrapped : (config.baseBackoff * (1#64 <<< attempt)).toInt < 0 := by
    rw [BitVec.toInt_eq_toNat_cond, product_nat, Nat.mod_eq_of_lt single, if_neg (by omega)]
    omega
  have capped : ¬ config.maxBackoff.toInt < (config.baseBackoff * (1#64 <<< attempt)).toInt := by
    have := ordered.1
    have := ordered.2
    omega
  simp only [calculateBackoff, BitVec.slt_eq_decide, decide_eq_true_eq]
  rw [if_neg capped]
  exact wrapped

end Products

theorem first_overflow (base last : Nat) (small : base < 2 ^ 63) (exceeds : 2 ^ 63 ≤ base * 2 ^ last) :
    ∃ attempt ≤ last, 2 ^ 63 ≤ base * 2 ^ attempt ∧ base * 2 ^ attempt < 2 ^ 64 := by
  induction last with
  | zero => omega
  | succ last ih =>
    have doubled : base * 2 ^ (last + 1) = 2 * (base * 2 ^ last) := by ring
    by_cases earlier : 2 ^ 63 ≤ base * 2 ^ last
    · obtain ⟨attempt, _, bounds⟩ := ih earlier
      exact ⟨attempt, by omega, bounds⟩
    · exact ⟨last + 1, le_refl _, exceeds, by omega⟩

theorem product_mono (base : Nat) {earlier attempt : Nat} (order : earlier ≤ attempt) :
    base * 2 ^ earlier ≤ base * 2 ^ attempt :=
  Nat.mul_le_mul_left base (Nat.pow_le_pow_right (by decide) order)

theorem bounded_exponential_iff (config : SerializationConfig) (ordered : config.Ordered) :
    BoundedExponential config ↔
      config.baseBackoff.toNat * 2 ^ (config.maxRetries.toNat - 1) < 2 ^ 63 := by
  obtain ⟨base, small⟩ := base_nat ordered
  constructor
  · intro bounded
    by_contra exceeds
    obtain ⟨attempt, _, reaches, single⟩ := first_overflow _ _ small (not_lt.mp exceeds)
    have asked : Reached config attempt := by
      rw [reached_iff]
      by_contra none
      have unused : config.maxRetries.toNat - 1 = 0 := by omega
      rw [unused, pow_zero] at exceeds
      omega
    have positive := (bounded attempt asked).2.1
    have negative := backoff_negative ordered attempt reaches single
    omega
  · intro fits attempt asked
    rw [reached_iff] at asked
    have exact_at (earlier : Nat) (order : earlier ≤ attempt) :=
      backoff_of_fits ordered earlier
        (lt_of_le_of_lt (product_mono _ (show earlier ≤ config.maxRetries.toNat - 1 by omega)) fits)
    refine ⟨exact_at attempt le_rfl, ?_, ?_⟩
    · rw [exact_at attempt le_rfl]
      have := ordered.1
      have := ordered.2
      have : 0 < config.baseBackoff.toInt * 2 ^ attempt := by positivity
      omega
    · intro earlier order
      rw [exact_at earlier order, exact_at attempt le_rfl, base]
      have := product_mono config.baseBackoff.toNat order
      exact min_le_min_right _ (by exact_mod_cast this)

/-- A base of one second overflows at the thirty-fifth sleep. -/
def patient : SerializationConfig := ⟨35, 1000000000#64, 60000000000#64⟩

theorem patient_not_bounded : patient.Ordered ∧ Reached patient 34 ∧
    (calculateBackoff 34 patient).toInt < 0 ∧ ¬ BoundedExponential patient := by
  have negative : (calculateBackoff 34 patient).toInt < 0 := by decide
  have asked : Reached patient 34 := (reached_iff patient 34).mpr (by decide)
  refine ⟨by unfold SerializationConfig.Ordered; decide, asked, negative, fun bounded => ?_⟩
  have positive := (bounded 34 asked).2.1
  omega

theorem defaults_bounded : BoundedExponential ⟨3, 10000000#64, 500000000#64⟩ :=
  (bounded_exponential_iff _ (by unfold SerializationConfig.Ordered; decide)).mpr (by decide)

end Dagens.Hitl.RetryBackoff
