import StagedChecks.Diagnostic

/-!
# Collections of diagnostics

Reports are collected in order and never removed.

## Main definitions

* `Diagnostics.errors`, `Diagnostics.warnings` — the reports of one severity.
* `Diagnostics.maxSeverity?` — the most serious severity among them.
* `ErrorReport`, `Diagnostics.err?` — the errors presented as one.
* `Diagnostics.Addition` — the ways in which a collection grows.
-/

namespace StagedChecks

/-- Reports in the order in which they were made. -/
abbrev Diagnostics := List Diagnostic

/-- Several reports presented as a single error. -/
structure ErrorReport where
  diagnostics : Diagnostics
  message : String

/-- The message about some reports: the first of them, and how many others there are. -/
def ErrorReport.messageOf : Diagnostics → Except Fault String
  | [] => .ok "no errors"
  | [d] => d.describe
  | d :: others =>
    return (← d.describe) ++ ", and " ++ Text.integer others.length ++ " other diagnostic(s)"

def ErrorReport.ofDiagnostics (ds : Diagnostics) : Except Fault ErrorReport :=
  return { diagnostics := ds, message := ← messageOf ds }

namespace Diagnostics

def errors (ds : Diagnostics) : Diagnostics :=
  ds.filter fun d => d.severity == .error

def warnings (ds : Diagnostics) : Diagnostics :=
  ds.filter fun d => d.severity == .warning

def hasErrors (ds : Diagnostics) : Bool :=
  ds.any fun d => d.severity == .error

/-- The most serious severity among the reports. -/
def maxSeverity? (ds : Diagnostics) : Option Severity :=
  if ds.isEmpty then none else if hasErrors ds then some .error else some .warning

/-- The errors presented as one, if there are any. -/
def err? (ds : Diagnostics) : Except Fault (Option ErrorReport) :=
  if (errors ds).isEmpty then .ok none else (ErrorReport.ofDiagnostics (errors ds)).map some

/-- A way in which a collection grows. -/
inductive Addition where
  | report (d : Diagnostic)
  | reports (ds : Diagnostics)
  | nothing
  /-- All reports follow once more. -/
  | itself
  /-- The reports that `err?` presents follow once more. -/
  | itsErrors

/-- What an addition appends to a collection. -/
def Addition.items (a : Addition) (ds : Diagnostics) : Except Fault Diagnostics :=
  match a with
  | .report d => .ok [d]
  | .reports more => .ok more
  | .nothing => .ok []
  | .itself => .ok ds
  | .itsErrors => return ((← err? ds).map (·.diagnostics)).getD []

def add (ds : Diagnostics) (a : Addition) : Except Fault Diagnostics :=
  return ds ++ (← a.items ds)

theorem hasErrors_eq (ds : Diagnostics) : hasErrors ds = !(errors ds).isEmpty := by
  induction ds with
  | nil => rfl
  | cons d ds ih =>
    simp only [hasErrors, errors] at ih
    cases h : d.severity == Severity.error <;> simp [hasErrors, errors, h, ih]

@[simp] theorem errors_append (ds es : Diagnostics) :
    errors (ds ++ es) = errors ds ++ errors es :=
  List.filter_append ..

end Diagnostics

end StagedChecks
