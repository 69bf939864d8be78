import Dagens.Scheduler.GoSupport

/-!
# Callback links and their handler

The signed link that a `HumanNode` or the `SecurityManager` puts into a request,
and the handler that a callback to it reaches. Clock readings are nanoseconds
since 1970, as `UnixNano` gives them; the link carries whole seconds.

The handler asks its stores one question at a time, so it is a step function on
the point it has reached. Its stores belong to the environment.
-/

namespace Dagens.Hitl.Callback

open Scheduler.GoSupport List

set_option linter.dupNamespace false

abbrev Reading := Fin (2 ^ 63)

/-- `time.Now().Unix()`. -/
def unixSeconds (now : Nat) : Int64 := Int64.ofNat (now / 1000000000)

/-- The text that is signed, `"%s:%d"`. -/
def callbackPayload (requestID : String) (timestamp : Int64) : String :=
  requestID ++ ":" ++ toString timestamp

structure CallbackURL where
  baseURL : String
  requestID : String
  timestamp : Int64
  signature : String
  deriving DecidableEq, Repr

def CallbackURL.print (url : CallbackURL) : String :=
  url.baseURL ++ "/api/human-callback?req=" ++ url.requestID ++ "&ts=" ++
    toString url.timestamp ++ "&sig=" ++ url.signature

def getBaseURL (configured : String) : String :=
  if configured = "" then "http://localhost:8080" else configured

section Signing

variable {Secret : Type} (signHMAC : Secret → String → String)

def generateCallbackURL (secret : Secret) (baseURL requestID : String) (now : Nat) : CallbackURL :=
  let timestamp := unixSeconds now
  ⟨baseURL, requestID, timestamp, signHMAC secret (callbackPayload requestID timestamp)⟩

/-- The link of a `HumanNode`; `configured` is `BASE_CALLBACK_URL`. -/
def buildCallbackURL (secret : Secret) (configured requestID : String) (now : Nat) : CallbackURL :=
  generateCallbackURL signHMAC secret (getBaseURL configured) requestID now

/-- `time.Now().Unix()-timestamp > 300`. -/
def stale (now : Nat) (timestamp : Int64) : Bool := decide (300 < unixSeconds now - timestamp)

def verifyCallbackSignature (secret : Secret) (now : Nat) (requestID : String)
    (timestamp : Int64) (signature : String) : Bool :=
  if stale now timestamp then false
  else decide (signature = signHMAC secret (callbackPayload requestID timestamp))

end Signing

structure HumanResponse where
  selectedOption : String
  freeformText : String
  timestamp : Nat
  deriving DecidableEq, Repr

structure Callback where
  requestID : String
  timestamp : Int64
  signature : String
  response : Option HumanResponse
  deriving DecidableEq, Repr

inductive EnqueueError where
  | serviceOverloaded
  | failed (err : GoError)
  deriving DecidableEq, Repr

structure HTTPAnswer where
  status : Nat
  body : String
  deriving DecidableEq, Repr

inductive Stage where
  | verify
  | checkDone
  | lock
  | enqueue
  | unlock (err : EnqueueError)
  | answered (answer : HTTPAnswer)
  deriving DecidableEq, Repr

/-- What the stores answer: `Exists` of the done key, `SetNX` of the processing
key, and `Enqueue`. -/
structure StoreAnswers where
  processed : Except GoError Bool
  wasSet : Except GoError Bool
  enqueued : Option EnqueueError

def enqueueFailure : EnqueueError → HTTPAnswer
  | .serviceOverloaded => ⟨503, "service overloaded: queue full"⟩
  | .failed _ => ⟨500, "internal server error: failed to enqueue job"⟩

section Handling

variable {Secret : Type} (signHMAC : Secret → String → String)

def handleStep (secret : Secret) (call : Callback) (now : Nat) (answers : StoreAnswers) :
    Stage → Stage
  | .verify =>
    if call.signature ≠ signHMAC secret (callbackPayload call.requestID call.timestamp) then
      .answered ⟨403, "invalid signature"⟩
    else if stale now call.timestamp then .answered ⟨403, "callback timestamp too old"⟩
    else .checkDone
  | .checkDone =>
    -- an error of the store counts as "not processed"
    match answers.processed with
    | .ok true => .answered ⟨200, ""⟩
    | _ => .lock
  | .lock =>
    match answers.wasSet with
    | .error _ => .answered ⟨500, "internal server error during idempotency check"⟩
    | .ok false => .answered ⟨202, ""⟩
    | .ok true => .enqueue
  | .enqueue =>
    match answers.enqueued with
    | some err => .unlock err
    | none => .answered ⟨202, ""⟩
  | .unlock err => .answered (enqueueFailure err)
  | .answered answer => .answered answer

/-- A whole call, all of whose steps read the clock at `now`. -/
def handleHumanCallback (secret : Secret) (call : Callback) (now : Nat)
    (answers : StoreAnswers) : Stage :=
  (handleStep signHMAC secret call now answers)^[5] .verify

end Handling

structure WorkingStores (answers : StoreAnswers) : Prop where
  read : ∃ processed, answers.processed = .ok processed
  locked : ∃ wasSet, answers.wasSet = .ok wasSet
  enqueued : answers.enqueued = none

/-- The handler's answer reports no failure. -/
def Accepted (stage : Stage) : Prop :=
  ∃ answer, stage = .answered answer ∧ answer.status < 300

theorem split_at_last {α : Type} {separator : α} {front front' back back' : List α}
    (free : separator ∉ back) (free' : separator ∉ back')
    (joined : front ++ separator :: back = front' ++ separator :: back') :
    front = front' ∧ back = back' := by
  rcases append_eq_append_iff.mp joined with ⟨between, reach, rest⟩ | ⟨between, reach, rest⟩
  · cases between with
    | nil => exact ⟨by simpa using reach.symm, (List.cons.inj rest).2⟩
    | cons =>
      obtain ⟨-, inside⟩ := List.cons.inj rest
      exact absurd (inside ▸ by simp) free
  · cases between with
    | nil => exact ⟨by simpa using reach, (List.cons.inj rest).2.symm⟩
    | cons =>
      obtain ⟨-, inside⟩ := List.cons.inj rest
      exact absurd (inside ▸ by simp) free'

theorem colon_not_printed (number : Int) : ':' ∉ (toString number).toList := by
  have digits (value : Nat) : ':' ∉ value.repr.toList := by
    rw [Nat.repr_eq_ofList_toDigits, String.toList_ofList]
    intro member
    have digit := Nat.isDigit_of_mem_toDigits (by decide) (by decide) member
    exact absurd digit (by decide)
  rw [Int.toString_eq_repr, Int.repr_eq_if]
  split_ifs
  · exact digits _
  · rw [String.toList_append, mem_append]
    rintro (sign | digit)
    · exact absurd sign (by decide)
    · exact digits _ digit

theorem callback_payload_injective {requestID requestID' : String} {timestamp timestamp' : Int64}
    (same : callbackPayload requestID timestamp = callbackPayload requestID' timestamp') :
    requestID = requestID' ∧ timestamp = timestamp' := by
  have lists := congrArg String.toList same
  simp only [callbackPayload, String.toList_append, append_assoc] at lists
  obtain ⟨ids, numbers⟩ := split_at_last (colon_not_printed timestamp.toInt)
    (colon_not_printed timestamp'.toInt) lists
  refine ⟨String.toList_inj.mp ids, Int64.toInt_inj.mp ?_⟩
  have printed := String.toList_inj.mp numbers
  rw [Int.toString_eq_repr, Int.toString_eq_repr] at printed
  exact Int.repr_inj.mp printed

end Dagens.Hitl.Callback
