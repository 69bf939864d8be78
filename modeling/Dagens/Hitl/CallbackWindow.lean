import Dagens.Hitl.Callback

/-!
# How long a callback link works

A link is fresh for 300 whole seconds after it was built, whatever the timeout
of the node that sent it. So it works during the whole wait exactly when the
wait ends within that window.
-/

namespace Dagens.Hitl.CallbackWindow

open Callback

section Freshness

variable {now : Nat}

theorem unix_seconds_to_int (bounded : now < 2 ^ 64) :
    (unixSeconds now).toInt = (now / 1000000000 : Nat) :=
  Int64.toInt_ofNat_of_lt (by omega)

theorem stale_iff {built : Nat} (ordered : built ≤ now) (bounded : now < 2 ^ 64) :
    stale now (unixSeconds built) = true ↔ built / 1000000000 + 300 < now / 1000000000 := by
  have age : (unixSeconds now - unixSeconds built).toInt =
      (now / 1000000000 : Nat) - (built / 1000000000 : Nat) := by
    rw [Int64.toInt_sub, unix_seconds_to_int bounded,
      unix_seconds_to_int (lt_of_le_of_lt ordered bounded)]
    exact Int.bmod_eq_of_le (by omega) (by omega)
  have window : (300 : Int64).toInt = 300 := rfl
  rw [stale, decide_eq_true_iff, Int64.lt_iff_toInt_lt, age, window]
  omega

end Freshness

attribute [local simp] verifyCallbackSignature handleHumanCallback handleStep Accepted

section Handling

variable {Secret : Type} {signHMAC : Secret → String → String} {secret : Secret} {now : Nat}
  {answers : StoreAnswers}

theorem accepted_iff {call : Callback} (working : WorkingStores answers) :
    Accepted (handleHumanCallback signHMAC secret call now answers) ↔
      verifyCallbackSignature signHMAC secret now call.requestID call.timestamp call.signature =
        true := by
  obtain ⟨processed, read⟩ := working.read
  obtain ⟨wasSet, locked⟩ := working.locked
  have enqueued := working.enqueued
  by_cases signed : call.signature = signHMAC secret (callbackPayload call.requestID call.timestamp)
  · cases age : stale now call.timestamp
    · cases processed <;> cases wasSet <;>
        simp [read, locked, enqueued, signed, age]
    · simp [signed, age]
  · simp [signed]

theorem forged_refused (call : Callback)
    (forged : call.signature ≠ signHMAC secret (callbackPayload call.requestID call.timestamp)) :
    ¬Accepted (handleHumanCallback signHMAC secret call now answers) ∧
      verifyCallbackSignature signHMAC secret now call.requestID call.timestamp call.signature =
        false := by
  constructor
  · simp [forged]
  · simp [forged]

end Handling

section Windows

variable {Secret : Type} (signHMAC : Secret → String → String) (secret : Secret)

def carrying (url : CallbackURL) (response : Option HumanResponse) : Callback :=
  ⟨url.requestID, url.timestamp, url.signature, response⟩

/-- The link of a request that was created at `created` works as long as the
request is open, and works for nothing else. -/
structure LinkWorks (url : CallbackURL) (created : Reading) (timeout : Int64) : Prop where
  handled : ∀ elapsed : Nat, (elapsed : Int) ≤ timeout.toInt → ∀ response answers,
    WorkingStores answers → Accepted
      (handleHumanCallback signHMAC secret (carrying url response) (created + elapsed) answers)
  verified : ∀ elapsed : Nat, (elapsed : Int) ≤ timeout.toInt →
    verifyCallbackSignature signHMAC secret (created + elapsed) url.requestID url.timestamp
      url.signature = true
  refused : ∀ requestID timestamp, (requestID, timestamp) ≠ (url.requestID, url.timestamp) →
    ∀ now response answers,
      ¬Accepted (handleHumanCallback signHMAC secret
        ⟨requestID, timestamp, url.signature, response⟩ now answers) ∧
      verifyCallbackSignature signHMAC secret now requestID timestamp url.signature = false

theorem generated_verified_iff (baseURL requestID : String) {built now : Nat}
    (ordered : built ≤ now) (bounded : now < 2 ^ 64) :
    let url := generateCallbackURL signHMAC secret baseURL requestID built
    verifyCallbackSignature signHMAC secret now url.requestID url.timestamp url.signature =
      true ↔ now / 1000000000 ≤ built / 1000000000 + 300 := by
  have fresh := stale_iff ordered bounded
  cases age : stale now (unixSeconds built) with
  | false =>
    rw [age] at fresh
    simp only [generateCallbackURL, verifyCallbackSignature, age]
    simpa using fresh
  | true =>
    rw [age] at fresh
    simp only [generateCallbackURL, verifyCallbackSignature, age, if_true]
    simpa using fresh

/-- No other request id and time have the signature of the link. -/
def Unforgeable (requestID : String) (built : Nat) : Prop :=
  ∀ otherID timestamp, signHMAC secret (callbackPayload requestID (unixSeconds built)) =
      signHMAC secret (callbackPayload otherID timestamp) →
    callbackPayload requestID (unixSeconds built) = callbackPayload otherID timestamp

variable {signHMAC secret}

theorem generated_works_iff (baseURL requestID : String) {built created : Reading}
    (unforgeable : Unforgeable signHMAC secret requestID built) (ordered : built ≤ created)
    {timeout : Int64} (positive : 0 < timeout) :
    LinkWorks signHMAC secret (generateCallbackURL signHMAC secret baseURL requestID built) created
        timeout ↔
      (created + timeout.toInt.toNat) / 1000000000 ≤ built / 1000000000 + 300 := by
  have lasting : 0 < timeout.toInt := Int64.lt_iff_toInt_lt.mp positive
  have limited := Int64.toInt_lt timeout
  have reading := created.isLt
  have earlier : (built : Nat) ≤ created := ordered
  constructor
  · intro works
    have last := works.verified timeout.toInt.toNat (by omega)
    exact (generated_verified_iff signHMAC secret baseURL requestID (by omega) (by omega)).mp last
  · intro _
    have verified (elapsed : Nat) (during : (elapsed : Int) ≤ timeout.toInt) :=
      (generated_verified_iff signHMAC secret baseURL requestID
        (by omega : (built : Nat) ≤ created + elapsed) (by omega)).mpr (by omega)
    refine ⟨fun elapsed during response answers working => ?_, verified, ?_⟩
    · exact (accepted_iff working).mpr (verified elapsed during)
    · intro requestID' timestamp altered now response answers
      refine forged_refused ⟨requestID', timestamp, _, response⟩ fun forged => altered ?_
      obtain ⟨ids, times⟩ := callback_payload_injective (unforgeable _ _ forged)
      exact Prod.ext ids.symm times.symm

/-- The links of a node and of the security manager work during the whole wait
if and only if the wait ends within the window. -/
theorem link_works_iff (configured baseURL requestID : String) {built created : Reading}
    (unforgeable : Unforgeable signHMAC secret requestID built) (ordered : built ≤ created)
    {timeout : Int64} (positive : 0 < timeout) :
    LinkWorks signHMAC secret (buildCallbackURL signHMAC secret configured requestID built) created
        timeout ∧
      LinkWorks signHMAC secret (generateCallbackURL signHMAC secret baseURL requestID built)
        created timeout ↔
    (created + timeout.toInt.toNat) / 1000000000 ≤ built / 1000000000 + 300 := by
  have node := generated_works_iff (getBaseURL configured) requestID unforgeable ordered positive
  have manager := generated_works_iff baseURL requestID unforgeable ordered positive
  constructor
  · rintro ⟨works, -⟩
    exact node.mp works
  · intro window
    exact ⟨node.mpr window, manager.mpr window⟩

end Windows

/-- A wait of four minutes. -/
theorem short_wait_link_works :
    LinkWorks (fun _ payload => payload) () (buildCallbackURL (fun _ payload => payload) () ""
        "hitl-1" (5 : Reading).val) 7 240000000000 ∧
      LinkWorks (fun _ payload => payload) () (generateCallbackURL (fun _ payload => payload) ()
        "http://localhost:8080" "hitl-1" (5 : Reading).val) 7 240000000000 :=
  (link_works_iff "" "http://localhost:8080" "hitl-1" (fun _ _ same => same) (by decide)
    (by decide)).mpr (by decide)

/-- A node that waits for ten minutes sends a link that is refused after five,
also by the security manager. -/
theorem long_wait_link_refused :
    let url := buildCallbackURL (fun _ payload => payload) () "" "hitl-1" 0
    (301000000000 : Int) ≤ (600000000000 : Int64).toInt ∧
      handleHumanCallback (fun _ payload => payload) () (carrying url none) 301000000000
        ⟨.ok false, .ok true, none⟩ = .answered ⟨403, "callback timestamp too old"⟩ ∧
      verifyCallbackSignature (fun _ payload => payload) () 301000000000 url.requestID
        url.timestamp url.signature = false := by
  decide +kernel

end Dagens.Hitl.CallbackWindow
