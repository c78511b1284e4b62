import Mathlib.Data.List.Forall2
import StagedChecks.Proofs.Evaluation
import StagedChecks.Proofs.Growth

/-!
# How serious the reports of a set of rules are

The reports of a rule are those that were made before its verdict and then that of the verdict, if
it has one. The latter is an error, so the reports of a set are as serious as its rules make them:
the most serious severity can be read off the verdicts and off what was reported before them. Errors
that were reported before a verdict have been announced, so the first of them can be shown; the
report of a verdict stands at a place that may have too many digits for that.

## Main definitions

* `Rule.Reports` — what is reported before the verdict.
* `Rule.Accounts` — the reports of a rule, those made before the verdict and that of the verdict.

## Main statements

* `Rule.exists_accounts` — the reports of a rule that returns.
* `Rule.Accounts.exists_error_iff` — when there is an error among them.
* `Rule.Accounts.exists_long_iff` — when the first error among them cannot be shown.
* `Rule.maxSeverity?_of_evaluateAll` — how serious the reports of a set are.
-/

namespace StagedChecks

/-- Lists that count for one or for nothing count for as many as there are of the former. -/
theorem countP_flatMap_eq {α β : Type} {f : α → List β} {p : α → Bool} {q : β → Bool} {xs : List α}
    (each : ∀ x ∈ xs, (f x).countP q = if p x then 1 else 0) :
    (xs.flatMap f).countP q = xs.countP p := by
  induction xs with
  | nil => rfl
  | cons x xs ih =>
    obtain ⟨here, each⟩ := List.forall_mem_cons.1 each
    rw [List.flatMap_cons, List.countP_append, here, ih each, List.countP_cons, Nat.add_comm]

theorem length_flatMap_eq {α β : Type} {f : α → List β} {p : α → Bool} {xs : List α}
    (each : ∀ x ∈ xs, (f x).length = if p x then 1 else 0) :
    (xs.flatMap f).length = xs.countP p := by
  simp only [← List.countP_true] at each ⊢
  exact countP_flatMap_eq each

/-- Whether a verdict has a report. -/
def Verdict.isReported : Verdict → Bool
  | .failed | .invalid => true
  | .unknown | .passed => false

theorem Verdict.isReported_iff {verdict : Verdict} :
    verdict.isReported = true ↔ verdict = .failed ∨ verdict = .invalid := by
  cases verdict <;> simp [isReported]

theorem Verdict.isReported_eq_false_iff {verdict : Verdict} :
    verdict.isReported = false ↔ verdict = .passed ∨ verdict = .unknown := by
  cases verdict <;> simp [isReported]

namespace Rule

/-- What is reported about a rule before its verdict: while its references are looked for, while its
scope is built, and while its condition is evaluated there. -/
inductive Reports (rule : Rule) (context : Context) (selfRef : Option String)
    (repetition : Option Repetition) (d : Diagnostic) : Prop where
  | references {references : List Reference} {first : Diagnostics}
      (analysed : rule.condition.references = .ok (references, first)) (reported : d ∈ first)
  | scope {references : List Reference} {scope : Scope} {visible : Variables}
      {first second : Diagnostics}
      (analysed : rule.condition.references = .ok (references, first))
      (supplied : context.scope selfRef repetition = .ok scope)
      (seen : scope references = .ok (visible, second)) (reported : d ∈ second)
  | condition {references : List Reference} {scope : Scope} {visible : Variables}
      {first second third : Diagnostics} {v : Value}
      (analysed : rule.condition.references = .ok (references, first))
      (supplied : context.scope selfRef repetition = .ok scope)
      (seen : scope references = .ok (visible, second))
      (done : rule.condition.evaluate (some visible) = .ok (v, third)) (reported : d ∈ third)

/-- The reports of a rule with some outcome: those that were found before the verdict, and the one
that the verdict adds if it is reported. -/
structure Accounts (rule : Rule) (kind : Kind) (context : Context) (selfRef : Option String)
    (repetition : Option Repetition) (o : Outcome) (found added : Diagnostics) : Prop where
  diagnostics : o.diagnostics = found ++ added
  mem_found : ∀ d, d ∈ found ↔ rule.Reports context selfRef repetition d
  /-- The first error found could be announced. -/
  shown : ∀ d, (Diagnostics.errors found).head? = some d → ¬ d.IsLong
  added : (o.verdict.isReported = true ∧ ∃ d, added = [d] ∧ rule.IsReportOf kind o.verdict d) ∨
    (o.verdict.isReported = false ∧ added = [])

variable {kind : Kind} {rule : Rule} {rules : List Rule} {context : Context}
  {selfRef : Option String} {repetition : Option Repetition} {sink : Option Sink}
  {settings : Option Settings} {target : Sink} {o : Outcome} {outcomes : List Outcome}
  {found added : Diagnostics} {fault : Fault}

/-- Errors that have been announced have a first one that can be shown. -/
theorem not_isLong_of_announced {d : Diagnostic}
    (announced : (announce kind target found).result = .ok ())
    (first : (Diagnostics.errors found).head? = some d) : ¬ d.IsLong := by
  intro long
  have failed : found.err? = .error .oversizedInteger :=
    Diagnostics.err?_eq_error_iff.2 ⟨rfl, d, first, long⟩
  rw [result_announce, failed] at announced
  cases announced

/-- The reports of a rule that returns fall into those made before its verdict and that of the
verdict. -/
theorem exists_accounts
    (done : (rule.evaluate kind context selfRef repetition sink settings).result = .ok o) :
    ∃ found added, rule.Accounts kind context selfRef repetition o found added := by
  obtain ⟨references, first, scope, visible, second, v, third, analysed, supplied, seen, value,
    announced, same⟩ := evaluate_eq_ok_iff.1 done
  have before (d : Diagnostic) : d ∈ first ++ second ++ third ↔
      rule.Reports context selfRef repetition d := by
    simp only [List.mem_append, or_assoc]
    constructor
    · rintro (reported | reported | reported)
      · exact .references analysed reported
      · exact .scope analysed supplied seen reported
      · exact .condition analysed supplied seen value reported
    · rintro (⟨analysed', reported⟩ | ⟨analysed', supplied', seen', reported⟩ |
        ⟨analysed', supplied', seen', value', reported⟩)
      · cases analysed.symm.trans analysed'
        exact .inl reported
      · cases analysed.symm.trans analysed'
        cases supplied.symm.trans supplied'
        cases seen.symm.trans seen'
        exact .inr (.inl reported)
      · cases analysed.symm.trans analysed'
        cases supplied.symm.trans supplied'
        cases seen.symm.trans seen'
        cases value.symm.trans value'
        exact .inr (.inr reported)
  have shown (d : Diagnostic) := @not_isLong_of_announced _ _ _ d announced
  rcases rule.outcome_cases kind (settings.getD {}) visible (first ++ second ++ third) v with
    ⟨-, outcome⟩ | ⟨-, outcome | ⟨verdict, d, decided, report, -, outcome⟩⟩ <;>
    obtain rfl := outcome.symm.trans same
  · exact ⟨_, [], (List.append_nil _).symm, before, shown, .inr ⟨rfl, rfl⟩⟩
  · exact ⟨_, [], (List.append_nil _).symm, before, shown, .inr ⟨rfl, rfl⟩⟩
  · refine ⟨_, [d], rfl, before, shown, .inl ⟨?_, d, rfl, report⟩⟩
    rcases decided with rfl | rfl <;> rfl

namespace Accounts

theorem length_added (accounts : rule.Accounts kind context selfRef repetition o found added) :
    added.length = if o.verdict.isReported then 1 else 0 := by
  rcases accounts.added with ⟨reported, d, rfl, -⟩ | ⟨silent, rfl⟩
  · simp [reported]
  · simp [silent]

theorem isReportOf_of_mem (accounts : rule.Accounts kind context selfRef repetition o found added)
    {d : Diagnostic} (member : d ∈ added) : rule.IsReportOf kind o.verdict d := by
  rcases accounts.added with ⟨-, d', rfl, report⟩ | ⟨-, rfl⟩
  · rwa [List.mem_singleton.1 member]
  · cases member

/-- There is an error among the reports of a rule if its verdict is reported or an error was found
before. -/
theorem exists_error_iff (accounts : rule.Accounts kind context selfRef repetition o found added) :
    (∃ d ∈ o.diagnostics, d.severity = .error) ↔ o.verdict.isReported = true ∨
      ∃ d, rule.Reports context selfRef repetition d ∧ d.severity = .error := by
  simp only [accounts.diagnostics, List.mem_append, accounts.mem_found]
  rcases accounts.added with ⟨reported, d, rfl, report⟩ | ⟨silent, rfl⟩
  · have severity : d.severity = .error := by simpa [Diagnostic.isError] using report.1
    simp only [reported, true_or, iff_true]
    exact ⟨d, .inr (List.mem_singleton_self d), severity⟩
  · simp [silent]

/-- The first error among the reports of a rule cannot be shown if it is the report of the verdict
and stands at a place of too many digits. -/
theorem exists_long_iff (accounts : rule.Accounts kind context selfRef repetition o found added) :
    (∃ d, (Diagnostics.errors o.diagnostics).head? = some d ∧ d.IsLong) ↔
      o.verdict.isReported = true ∧
        (¬ ∃ d, rule.Reports context selfRef repetition d ∧ d.severity = .error) ∧
        ∃ range, rule.condition.range?.or rule.declaration = some range ∧ range.IsLong := by
  have reported_iff : (∃ d, rule.Reports context selfRef repetition d ∧ d.severity = .error) ↔
      Diagnostics.errors found ≠ [] := by
    simp [Diagnostics.errors, List.filter_eq_nil_iff, ← accounts.mem_found]
  rw [accounts.diagnostics, Diagnostics.errors_append, reported_iff, not_not]
  cases before : Diagnostics.errors found with
  | cons e rest =>
    have short := accounts.shown e (by rw [before]; rfl)
    simp [short]
  | nil =>
    rcases accounts.added with ⟨reported, d, rfl, error, place, -⟩ | ⟨silent, rfl⟩
    · have kept : Diagnostics.errors [d] = [d] := List.filter_cons_of_pos error
      simp [kept, reported, Diagnostic.IsLong, place, subject?]
    · simp [silent, Diagnostics.errors]

/-- There is a warning among the reports of a rule if one was found before its verdict. -/
theorem exists_warning_iff
    (accounts : rule.Accounts kind context selfRef repetition o found added) :
    (∃ d ∈ o.diagnostics, d.severity = .warning) ↔
      ∃ d, rule.Reports context selfRef repetition d ∧ d.severity = .warning := by
  simp only [accounts.diagnostics, List.mem_append, accounts.mem_found]
  rcases accounts.added with ⟨-, d, rfl, report⟩ | ⟨-, rfl⟩
  · have severity : d.severity = .error := by simpa [Diagnostic.isError] using report.1
    constructor
    · rintro ⟨d', reported | member, warning⟩
      · exact ⟨d', reported, warning⟩
      · rw [List.mem_singleton.1 member, severity] at warning
        cases warning
    · rintro ⟨d', reported, warning⟩
      exact ⟨d', .inl reported, warning⟩
  · simp

theorem diagnostics_eq_nil_iff
    (accounts : rule.Accounts kind context selfRef repetition o found added) :
    o.diagnostics = [] ↔ o.verdict.isReported = false ∧
      ∀ d, ¬ rule.Reports context selfRef repetition d := by
  simp only [accounts.diagnostics, List.append_eq_nil_iff, ← accounts.mem_found,
    ← List.eq_nil_iff_forall_not_mem]
  rcases accounts.added with ⟨reported, d, rfl, -⟩ | ⟨silent, rfl⟩
  · simp [reported]
  · simp [silent]

/-- Where nothing reported before names a condition, what does so is the report of the verdict. -/
theorem countP_condition (accounts : rule.Accounts kind context selfRef repetition o found added)
    (unnamed : ∀ d, rule.Reports context selfRef repetition d → d.condition = none) :
    o.diagnostics.countP (fun d => d.condition.isSome) =
      if o.verdict.isReported then 1 else 0 := by
  have silent : found.countP (fun d => d.condition.isSome) = 0 :=
    List.countP_eq_zero.2 fun d member => by simp [unnamed d ((accounts.mem_found d).1 member)]
  have named : added.countP (fun d => d.condition.isSome) = added.length := by
    rcases accounts.added with ⟨-, d, rfl, report⟩ | ⟨-, rfl⟩
    · simp [report.2.2.1]
    · rfl
  rw [accounts.diagnostics, List.countP_append, silent, named, accounts.length_added, Nat.zero_add]

end Accounts

section Sets

variable {outcome : Rule → Outcome} {found added : Rule → Diagnostics}

/-- Some report of a set is of some kind if some report of one of its rules is. -/
theorem exists_mem_collect_iff (outcome : Rule → Outcome) (p : Diagnostic → Prop) :
    (∃ d ∈ Outcome.collect (rules.map outcome), p d) ↔
      ∃ rule ∈ rules, ∃ d ∈ (outcome rule).diagnostics, p d := by
  simp only [Outcome.collect, List.flatMap_map, List.mem_flatMap]
  grind

/-- There is an error among the reports of a set if there is one among those of a rule. -/
theorem exists_error_collect_iff
    (accounts : ∀ rule ∈ rules,
      rule.Accounts kind context selfRef repetition (outcome rule) (found rule) (added rule)) :
    (∃ d ∈ Outcome.collect (rules.map outcome), d.severity = .error) ↔
      ∃ rule ∈ rules, (outcome rule).verdict.isReported = true ∨
        ∃ d, rule.Reports context selfRef repetition d ∧ d.severity = .error :=
  (exists_mem_collect_iff outcome _).trans (exists_congr fun rule => and_congr_right fun member =>
    (accounts rule member).exists_error_iff)

theorem exists_warning_collect_iff
    (accounts : ∀ rule ∈ rules,
      rule.Accounts kind context selfRef repetition (outcome rule) (found rule) (added rule)) :
    (∃ d ∈ Outcome.collect (rules.map outcome), d.severity = .warning) ↔
      ∃ rule ∈ rules, ∃ d, rule.Reports context selfRef repetition d ∧ d.severity = .warning :=
  (exists_mem_collect_iff outcome _).trans (exists_congr fun rule => and_congr_right fun member =>
    (accounts rule member).exists_warning_iff)

theorem collect_eq_nil_iff
    (accounts : ∀ rule ∈ rules,
      rule.Accounts kind context selfRef repetition (outcome rule) (found rule) (added rule)) :
    Outcome.collect (rules.map outcome) = [] ↔
      ∀ rule ∈ rules, (outcome rule).verdict.isReported = false ∧
        ∀ d, ¬ rule.Reports context selfRef repetition d := by
  rw [Outcome.collect, List.flatMap_map, List.flatMap_eq_nil_iff]
  exact forall₂_congr fun rule member => (accounts rule member).diagnostics_eq_nil_iff

/-- The errors of a set cannot be presented as one if the first rule that has an error has the
report of its verdict as the first, and this stands at a place of too many digits. -/
theorem err?_collect_eq_error_iff
    (accounts : ∀ rule ∈ rules,
      rule.Accounts kind context selfRef repetition (outcome rule) (found rule) (added rule)) :
    Diagnostics.err? (Outcome.collect (rules.map outcome)) = .error fault ↔
      fault = .oversizedInteger ∧ ∃ before rule after, rules = before ++ rule :: after ∧
        (∀ earlier ∈ before, ¬ ((outcome earlier).verdict.isReported = true ∨
          ∃ d, earlier.Reports context selfRef repetition d ∧ d.severity = .error)) ∧
        (outcome rule).verdict.isReported = true ∧
        (¬ ∃ d, rule.Reports context selfRef repetition d ∧ d.severity = .error) ∧
        ∃ range, rule.condition.range?.or rule.declaration = some range ∧ range.IsLong := by
  have collected : Diagnostics.errors (Outcome.collect (rules.map outcome)) =
      rules.flatMap fun rule => Diagnostics.errors (outcome rule).diagnostics := by
    rw [Diagnostics.errors, Outcome.collect, List.flatMap_map, List.filter_flatMap]
    rfl
  have silent (rule : Rule) (member : rule ∈ rules) :
      (Diagnostics.errors (outcome rule).diagnostics).head? = none ↔
        ¬ ((outcome rule).verdict.isReported = true ∨
          ∃ d, rule.Reports context selfRef repetition d ∧ d.severity = .error) := by
    rw [← (accounts rule member).exists_error_iff, List.head?_eq_none_iff]
    simp [Diagnostics.errors, List.filter_eq_nil_iff]
  rw [Diagnostics.err?_eq_error_iff, collected, List.head?_flatMap]
  refine and_congr_right fun _ => ?_
  constructor
  · rintro ⟨d, first, long⟩
    obtain ⟨before, rule, after, rfl, here, none⟩ := List.findSome?_eq_some_iff.1 first
    refine ⟨before, rule, after, rfl, fun earlier member => ?_,
      (accounts rule (by simp)).exists_long_iff.1 ⟨d, here, long⟩⟩
    exact (silent earlier (by simp [member])).1 (none earlier member)
  · rintro ⟨before, rule, after, rfl, none, long⟩
    obtain ⟨d, here, long⟩ := (accounts rule (by simp)).exists_long_iff.2 long
    refine ⟨d, List.findSome?_eq_some_iff.2 ⟨before, rule, after, rfl, here, ?_⟩, long⟩
    exact fun earlier member => (silent earlier (by simp [member])).2 (none earlier member)

/-- There are as many reports of verdicts as there are rules with such a report. -/
theorem length_added_collect
    (accounts : ∀ rule ∈ rules,
      rule.Accounts kind context selfRef repetition (outcome rule) (found rule) (added rule)) :
    (rules.flatMap added).length =
      (rules.map outcome).countP fun o => o.verdict = .failed ∨ o.verdict = .invalid := by
  rw [length_flatMap_eq fun rule member => (accounts rule member).length_added, List.countP_map]
  exact List.countP_congr fun rule _ => by simp [Verdict.isReported_iff]

theorem countP_condition_collect
    (accounts : ∀ rule ∈ rules,
      rule.Accounts kind context selfRef repetition (outcome rule) (found rule) (added rule))
    (unnamed : ∀ rule ∈ rules, ∀ d, rule.Reports context selfRef repetition d →
      d.condition = none) :
    (Outcome.collect (rules.map outcome)).countP (fun d => d.condition.isSome) =
      (rules.map outcome).countP fun o => o.verdict = .failed ∨ o.verdict = .invalid := by
  rw [← length_added_collect accounts, Outcome.collect, List.flatMap_map,
    length_flatMap_eq fun rule member => (accounts rule member).length_added]
  exact countP_flatMap_eq fun rule member =>
    (accounts rule member).countP_condition (unnamed rule member)

end Sets

end Rule

end StagedChecks
