import Mathlib

/-!
# Go runtime services used by the scheduler

Errors, the text predicates of `scheduler.go`, and the parts of the standard
library whose result depends on data this development does not carry: JSON
coding of agent inputs and the Unicode table of printable runes. The latter
are operations of `GoRuntime`, so every statement holds for all of them.
-/

namespace Dagens.Scheduler.GoSupport

/-- JSON coding of `agent.AgentInput` (`none` is a coding error), the zero
input, one assignment to its context map, and `unicode.IsPrint`. -/
class GoRuntime (Input : Type) where
  Value : Type
  marshal : Input → Option String
  unmarshal : String → Option Input
  zeroInput : Input
  setContext : Input → String → Value → Input
  isPrint : Char → Bool

/-- `unicode.IsSpace`. -/
def isSpace (rune : Char) : Bool :=
  let code := rune.toNat
  (9 ≤ code && code ≤ 13) || code = 32 || code = 0x85 || code = 0xA0 || code = 0x1680 ||
    (0x2000 ≤ code && code ≤ 0x200A) || code = 0x2028 || code = 0x2029 || code = 0x202F ||
    code = 0x205F || code = 0x3000

/-- `strings.TrimSpace(text) == ""`. -/
def isBlank (text : String) : Bool := text.toList.all isSpace

/-- `unicode.ToLower`, as far as it reaches ASCII letters: besides the ASCII
capitals only U+0130 and U+212A have an ASCII lower case. -/
def toLowerRune (rune : Char) : Char :=
  if rune.toNat = 0x130 then 'i' else if rune.toNat = 0x212A then 'k' else rune.toLower

/-- `strings.Contains(strings.ToLower(text), needle)` for an ASCII needle. -/
def lowerContains (text needle : String) : Bool :=
  decide (needle.toList <:+: text.toList.map toLowerRune)

theorem lower_contains_append (front text needle : String)
    (found : lowerContains text needle = true) :
    lowerContains (front ++ text) needle = true := by
  simp only [lowerContains, decide_eq_true_eq] at found ⊢
  rw [String.toList_append, List.map_append]
  exact found.trans (List.suffix_append _ _).isInfix

/-- A Go error: its text, and what `errors.As` and `errors.Is` find in its
chain. Wrapping with `%w` changes the text only. -/
structure GoError where
  message : String
  isPolicyViolation : Bool
  isDispatchClaimRejected : Bool
  deriving DecidableEq, Repr

namespace GoError

def plain (message : String) : GoError := ⟨message, false, false⟩

def wrap (front : String) (err : GoError) : GoError :=
  { err with message := front ++ err.message }

end GoError

def errNoWorkerCapacity : GoError := .plain "all healthy workers are at capacity"

def errDispatchClaimRejected : GoError :=
  ⟨"dispatch claim rejected by transition store fencing", false, true⟩

def isHumanPauseError (err : GoError) : Bool :=
  lowerContains err.message "human interaction pending" ||
    lowerContains err.message "execution paused"

def isDispatchCapacityConflict (err : GoError) : Bool :=
  lowerContains err.message "at capacity" || lowerContains err.message "capacity"

theorem capacity_conflict_wrap (front : String) (err : GoError)
    (conflict : isDispatchCapacityConflict err = true) :
    isDispatchCapacityConflict (err.wrap front) = true := by
  simp only [isDispatchCapacityConflict, Bool.or_eq_true] at conflict ⊢
  rcases conflict with atCapacity | capacity
  · exact .inl (lower_contains_append front err.message _ atCapacity)
  · exact .inr (lower_contains_append front err.message _ capacity)

def maxTransitionErrorSummaryRunes : Nat := 1024

/-- `strings.Join(strings.Fields(text), " ")` on runes. -/
def joinFields (runes : List Char) : List Char :=
  [' '].intercalate ((runes.splitOnP isSpace).filter (· ≠ []))

/-- Control characters become blanks, whitespace collapses, and the result is
cut at `maxTransitionErrorSummaryRunes`. -/
def normalizeTransitionErrorSummary (Input : Type) [GoRuntime Input]
    (summary : String) : String :=
  let printable := summary.toList.map fun rune =>
    if GoRuntime.isPrint Input rune || rune = '\n' || rune = '\r' || rune = '\t' then rune
    else ' '
  String.ofList ((joinFields printable).take maxTransitionErrorSummaryRunes)

/-- `marshalAgentInput`: a missing input and a coding error both store "". -/
def marshalAgentInput {Input : Type} [GoRuntime Input] : Option Input → String
  | none => ""
  | some input => (GoRuntime.marshal input).getD ""

def unmarshalRecoveredAgentInput {Input : Type} [GoRuntime Input] (raw : String) :
    Option Input :=
  if isBlank raw then none else GoRuntime.unmarshal raw

/-- Two concrete inputs: the zero `AgentInput`, and the one whose context holds
the entry `decision`, with the JSON texts that `json.Marshal` yields for them. -/
inductive SampleInput where
  | blank
  | approved
  deriving DecidableEq, Repr

def SampleInput.json : SampleInput → String
  | .blank => "\x7b\"TaskID\":\"\",\"Instruction\":\"\",\"Context\":null,\"Tools\":null," ++
      "\"Model\":\"\",\"MaxRetries\":0,\"Timeout\":0\x7d"
  | .approved => "\x7b\"TaskID\":\"\",\"Instruction\":\"\",\"Context\":\x7b\"decision\":true\x7d," ++
      "\"Tools\":null,\"Model\":\"\",\"MaxRetries\":0,\"Timeout\":0\x7d"

instance : GoRuntime SampleInput where
  Value := Unit
  marshal input := some input.json
  unmarshal raw := [SampleInput.blank, .approved].find? fun input => decide (input.json = raw)
  zeroInput := .blank
  setContext _ _ _ := .approved
  isPrint rune := decide (32 ≤ rune.toNat) && decide (rune.toNat < 127)

end Dagens.Scheduler.GoSupport
