import StagedChecks.Data
import StagedChecks.Source

/-!
# Diagnostics and the expressions they are about

A diagnostic reports one thing found while rules are evaluated; the verdict on a condition is
reported together with the condition and the values that were visible to it. Evaluating an
expression can report diagnostics of its own, so the two types are declared together.

## Main definitions

* `Diagnostic` — a report.
* `Expression` — a condition: a constant, a reference, a function of references, or an expression
  that the caller supplies.
* `Diagnostic.describe` — the text of a report, where it can be shown.

## Main statements

* `Diagnostic.describe_eq` — a report is shown as it is written unless it has a place of too many
  digits.
-/

namespace StagedChecks

/-- How serious a report is. -/
inductive Severity where
  | error
  | warning
  deriving DecidableEq, Repr, Inhabited

def Severity.name : Severity → String
  | .error => "error"
  | .warning => "warning"

/-- The values visible to one expression, by traversal. -/
abbrev Variables := Table Value

mutual

/-- A report. The verdict on a condition names the condition and may keep a snapshot of the values
that were visible to it. -/
structure Diagnostic where
  severity : Severity
  summary : String
  detail : String := ""
  subject : Option Source.Range := none
  condition : Option Expression := none
  snapshot : Option Variables := none

/-- A condition. The function of a call sees plain data and answers data, or fails. -/
inductive Expression where
  | constant (data : Data) (range : Source.Range)
  | reference (traversal : String) (range : Source.Range)
  | call (function : List Data → Except Failure Data) (arguments : List String) (name : String)
      (range : Source.Range)
  | custom (traversals : Except Fault (List String))
      (evaluate : Option Variables → Except Fault (Value × List Diagnostic))
      (range : Option Source.Range)

end

namespace Diagnostic

def error (summary : String) (detail : String := "") (subject : Option Source.Range := none) :
    Diagnostic :=
  { severity := .error, summary, detail, subject }

def warning (summary : String) (detail : String := "") (subject : Option Source.Range := none) :
    Diagnostic :=
  { severity := .warning, summary, detail, subject }

def isError (d : Diagnostic) : Bool :=
  d.severity == .error

/-- Whether a report is of an error that was found before there was a verdict: reports of verdicts
name their condition. -/
def isFinding (d : Diagnostic) : Bool :=
  d.isError && d.condition.isNone

/-- Whether a report is a finding that names no place. -/
def isPlaceless (d : Diagnostic) : Bool :=
  d.isFinding && d.subject.isNone

@[simp] theorem isFinding_error (summary detail : String) (subject : Option Source.Range) :
    (error summary detail subject).isFinding = true := rfl

@[simp] theorem isPlaceless_error (summary detail : String) :
    (error summary detail).isPlaceless = true := rfl

theorem isFinding_of_isPlaceless {d : Diagnostic} (placeless : d.isPlaceless = true) :
    d.isFinding = true :=
  (Bool.and_eq_true_iff.1 placeless).1

/-- The summary, and the detail if there is one. -/
def headline (d : Diagnostic) : String :=
  if d.detail = "" then d.summary else d.summary ++ ": " ++ d.detail

/-- The text of a report, after its place if it has one. -/
def describe (d : Diagnostic) : Except Fault String :=
  match d.subject with
  | some range => return (← range.render) ++ ": " ++ d.headline
  | none => .ok d.headline

/-- Whether a report has no place whose lines and columns cannot be shown. -/
def isShort (d : Diagnostic) : Bool :=
  d.subject.all (·.isShort)

/-- The text of a report as it is written, be its numbers short or not. -/
def text (d : Diagnostic) : String :=
  match d.subject with
  | some range => range.text ++ ": " ++ d.headline
  | none => d.headline

theorem isShort_of_isPlaceless {d : Diagnostic} (placeless : d.isPlaceless = true) :
    d.isShort = true := by
  have nowhere := (Bool.and_eq_true_iff.1 placeless).2
  simp [isShort, Option.isNone_iff_eq_none.1 nowhere]

theorem describe_eq (d : Diagnostic) :
    d.describe = if d.isShort then .ok d.text else .error .oversizedInteger := by
  cases place : d.subject with
  | none => simp [describe, isShort, text, place]
  | some range =>
    cases short : range.isShort <;>
      simp [describe, isShort, text, place, Source.Range.render_eq, short, bind, Except.bind, pure,
        Except.pure]

end Diagnostic

end StagedChecks
