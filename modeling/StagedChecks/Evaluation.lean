import StagedChecks.Evaluation.Sink
import StagedChecks.Rule
import StagedChecks.Value.Truth

/-!
# Evaluating rules

A rule whose condition is not yet known is passed over in silence, as it will be evaluated again
when more is known. Every other outcome is reported; a rule that fails stops none of the rules
after it. Reports of finding references, building the scope and evaluating the condition come
first and never change the verdict.

## Main definitions

* `Verdict` — the classes of conditions.
* `judge` — the verdict on a value, with the summary and detail of its report.
* `Rule.announce` — the message about errors that were reported before the verdict.
* `Rule.evaluate` — the outcome of one rule.
* `Rule.evaluateAll` — the outcomes of the rules of a set, in order.
* `Request` — the inputs of one evaluation of a set.

## Main statements

* `Rule.evaluate_filled` — a set and its rules fill in the same defaults.
-/

namespace StagedChecks

/-- The classes of conditions. -/
inductive Verdict where
  /-- To be evaluated again in a later pass. -/
  | unknown
  | passed
  | failed
  /-- Null, or neither true nor false. -/
  | invalid
  deriving DecidableEq, Repr

def Verdict.name : Verdict → String
  | .unknown => "unknown"
  | .passed => "true"
  | .failed => "false"
  | .invalid => "invalid"

/-- The summary of the report of a condition that is neither true nor false. -/
def invalidSummary : String :=
  "Invalid condition result"

/-- The verdict on a value, and the summary and detail of its report if it has one. -/
def judge (kind : Rule.Kind) (errorMessage : String) (v : Value) :
    Verdict × Option (String × String) :=
  match v.toBool with
  | .error .unknown => (.unknown, none)
  | .error .null =>
    (.invalid, some (invalidSummary,
      "Condition expression must return either true or false, not null."))
  | .error reason =>
    (.invalid, some (invalidSummary,
      "Invalid validation condition result value: " ++ reason.message ++ "."))
  | .ok true => (.passed, none)
  | .ok false => (.failed, some (kind.failureSummary, errorMessage))

/-- The verdict on a rule, and all reports in order. -/
structure Outcome where
  verdict : Verdict
  diagnostics : Diagnostics

namespace Rule

def verdictDiagnostic (rule : Rule) (settings : Settings) (visible : Variables)
    (report : String × String) : Diagnostic where
  severity := .error
  summary := report.1
  detail := report.2
  subject := rule.subject?
  condition := some rule.condition
  snapshot := if settings.snapshotContext then some visible else none

/-- The outcome for the value of the condition, after the reports made before. -/
def outcome (rule : Rule) (kind : Kind) (settings : Settings) (visible : Variables)
    (before : Diagnostics) (v : Value) : Outcome :=
  let (verdict, report) := judge kind rule.errorMessage v
  { verdict
    diagnostics := before ++ (report.map (rule.verdictDiagnostic settings visible)).toList }

/-- The message about the errors among some reports. -/
def traceMessage? (kind : Kind) (ds : Diagnostics) : Except Fault (Option String) :=
  ds.err?.map fun report? => report?.map fun report =>
    "evaluate_check_rules: " ++ kind.failureSummary ++ ": " ++ report.message

/-- Sends the message about the errors among some reports, if there is one. -/
def announce (kind : Kind) (sink : Sink) (ds : Diagnostics) : Run Unit := do
  match ← Run.ofResult (traceMessage? kind ds) with
  | some text => sink.send text
  | none => pure ()

/-- The outcome of one rule. -/
def evaluate (kind : Kind) (rule : Rule) (context : Context) (selfRef : Option String)
    (repetition : Option Repetition) (sink : Option Sink) (settings : Option Settings) :
    Run Outcome := do
  let settings := settings.getD {}
  let sink := Sink.orDefault sink settings
  let (references, first) ← Run.ofResult rule.condition.references
  Run.emit .scopeRequested
  let scope ← Run.ofResult (context.scope selfRef repetition)
  let (visible, second) ← Run.ofResult (scope references)
  let (v, third) ← Run.ofResult (rule.condition.evaluate (some visible))
  let before := first ++ second ++ third
  announce kind sink before
  return rule.outcome kind settings visible before v

/-- The outcomes of some rules, in order, by the evaluation of each. -/
def evaluateEach (evaluation : Rule → Run Outcome) : List Rule → Run (List Outcome)
  | [] => pure []
  | rule :: rest => do
    let outcome ← evaluation rule
    let outcomes ← evaluateEach evaluation rest
    return outcome :: outcomes

/-- The outcomes of the rules of a set, in order. Nothing is asked of an empty set. -/
def evaluateAll (kind : Kind) (rules : List Rule) (context : Context) (selfRef : Option String)
    (repetition : Option Repetition) (sink : Option Sink) (settings : Option Settings) :
    Run (List Outcome) :=
  if rules.isEmpty then pure []
  else
    let settings := settings.getD {}
    let sink := Sink.orDefault sink settings
    evaluateEach (evaluate kind · context selfRef repetition (some sink) (some settings)) rules

/-- The defaults that a set fills in are those that each of its rules fills in. -/
theorem evaluate_filled (kind : Kind) (rule : Rule) (context : Context) (selfRef : Option String)
    (repetition : Option Repetition) (sink : Option Sink) (settings : Option Settings) :
    evaluate kind rule context selfRef repetition
        (some (Sink.orDefault sink (settings.getD {}))) (some (settings.getD {})) =
      evaluate kind rule context selfRef repetition sink settings := by
  simp [evaluate]

theorem evaluateAll_eq_evaluateEach (kind : Kind) (rules : List Rule) (context : Context)
    (selfRef : Option String) (repetition : Option Repetition) (sink : Option Sink)
    (settings : Option Settings) :
    evaluateAll kind rules context selfRef repetition sink settings =
      evaluateEach (evaluate kind · context selfRef repetition sink settings) rules := by
  cases rules with
  | nil => rfl
  | cons rule rest => simp [evaluateAll, evaluate_filled]

@[simp] theorem evaluateAll_nil (kind : Kind) (context : Context) (selfRef : Option String)
    (repetition : Option Repetition) (sink : Option Sink) (settings : Option Settings) :
    evaluateAll kind [] context selfRef repetition sink settings = pure [] := rfl

/-- A set is evaluated rule by rule. -/
theorem evaluateAll_cons (kind : Kind) (rule : Rule) (rest : List Rule) (context : Context)
    (selfRef : Option String) (repetition : Option Repetition) (sink : Option Sink)
    (settings : Option Settings) :
    evaluateAll kind (rule :: rest) context selfRef repetition sink settings = (do
      let outcome ← evaluate kind rule context selfRef repetition sink settings
      let outcomes ← evaluateAll kind rest context selfRef repetition sink settings
      return outcome :: outcomes) := by
  simp only [evaluateAll_eq_evaluateEach, evaluateEach]

end Rule

/-- All reports of some outcomes, in order. -/
def Outcome.collect (outcomes : List Outcome) : Diagnostics :=
  outcomes.flatMap (·.diagnostics)

/-- The inputs of one evaluation of a set of rules. -/
structure Request where
  kind : Rule.Kind
  rules : List Rule
  context : Context
  selfRef : Option String := none
  repetition : Option Repetition := none

def Request.evaluate (r : Request) (sink : Option Sink) (settings : Option Settings) :
    Run (List Outcome) :=
  Rule.evaluateAll r.kind r.rules r.context r.selfRef r.repetition sink settings

end StagedChecks
