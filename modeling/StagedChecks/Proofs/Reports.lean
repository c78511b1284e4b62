import StagedChecks.Proofs.BuiltIn
import StagedChecks.Proofs.Evaluation

/-!
# What is reported about a rule

A built-in condition that is known was found in silence, so the report of its verdict stands alone;
a condition that is not known has findings at most. Where nothing is unknown to begin with, it has
findings at least, so that a set of rules is passed in silence only if every rule passes.

## Main statements

* `Rule.evaluate_cases` — what an evaluation over bindings has found before its verdict.
* `Rule.findings_or_verdict` — findings and the report of a verdict exclude each other.
* `Rule.silent_iff_all_passed` — silence about a set whose rules are all to be decided.
-/

namespace StagedChecks.Rule

variable {kind : Kind} {rule : Rule} {rules : List Rule} {b : Bindings} {selfRef : Option String}
  {repetition : Option Repetition} {sink : Option Sink}
  {settings : Option Settings} {o : Outcome} {outcomes : List Outcome}

/-- Only findings come before the verdict, and nothing comes before the verdict on a known value,
for which all that is visible is known. -/
theorem evaluate_cases (builtIn : rule.condition.isBuiltIn = true)
    (done : (rule.evaluate kind b.toContext selfRef repetition sink settings).result = .ok o) :
    ∃ ts visible before v, rule.condition.traversals = .ok ts ∧
      rule.outcome kind (settings.getD {}) visible before v = o ∧
      (∀ d ∈ before, d.isFinding = true) ∧
      (v.isKnown = true → before = [] ∧ Table.keys visible = ts.eraseDups ∧
        ∀ e ∈ visible, e.2.isKnown = true) := by
  obtain ⟨ts, visible, second, v, third, named, seen, value, -, same⟩ :=
    evaluate_toContext_eq_ok_iff.1 done
  refine ⟨ts, visible, _, v, named, same, ?_, ?_⟩
  · intro d member
    rw [List.mem_append, List.mem_append] at member
    rcases member with (member | member) | member
    · exact Diagnostic.isFinding_of_isPlaceless (Reference.isPlaceless_of_analyse d member)
    · obtain ⟨t, -, r, w, found, -, resolved, member⟩ :=
        (Bindings.mem_reports_of_scope seen).1 member
      exact Diagnostic.isFinding_of_isPlaceless (Bindings.isPlaceless_of_resolve resolved d member)
    · exact Expression.isFinding_of_evaluate builtIn value d member
  · intro known
    obtain ⟨quiet, allKnown⟩ := Expression.silent_of_isKnown builtIn named value known
    obtain ⟨first, second, keys, each⟩ := Bindings.silent_of_visible seen allKnown
    exact ⟨by simp [first, second, quiet], keys, each⟩

/-- A condition that is not decided where nothing is unknown to begin with was reported. -/
theorem reported_of_undecided (settled : rule.condition.NeverPending)
    (bindings : b.everywhere (!·.isPending) = true)
    (repeated : (repetition.getD {}).everywhere (!·.isPending) = true)
    (done : (rule.evaluate kind b.toContext selfRef repetition sink settings).result = .ok o)
    (undecided : o.verdict = .unknown) : o.diagnostics ≠ [] := by
  obtain ⟨ts, visible, second, v, third, named, seen, value, -, same⟩ :=
    evaluate_toContext_eq_ok_iff.1 done
  rcases rule.outcome_cases kind (settings.getD {}) visible
      ((Reference.analyse ts).2 ++ second ++ third) v with
    ⟨pending, outcome⟩ | ⟨-, outcome | ⟨verdict, d, decided, -, -, outcome⟩⟩ <;>
    obtain rfl := outcome.symm.trans same
  · rcases Expression.reported_of_not_isKnown settled named value pending with
      reported | ⟨t, used, w, here, unknown⟩
    · simp [reported]
    · -- An unknown value that is visible was reported when its reference was resolved.
      obtain ⟨-, r, found, read, resolved⟩ := (Bindings.get?_of_scope seen).1 here
      obtain ⟨d, member⟩ := List.exists_mem_of_ne_nil _
        (Bindings.reported_of_resolve bindings repeated resolved unknown)
      have reported : second ≠ [] := List.ne_nil_of_mem
        ((Bindings.mem_reports_of_scope seen).2 ⟨t, used, r, w, found, read, resolved, member⟩)
      simp [reported]
  · cases undecided
  · rcases decided with rfl | rfl <;> cases undecided

/-- Where nothing is unknown to begin with, a rule passes in silence or an error is reported. -/
theorem passed_or_hasErrors (settled : rule.condition.NeverPending)
    (bindings : b.everywhere (!·.isPending) = true)
    (repeated : (repetition.getD {}).everywhere (!·.isPending) = true)
    (done :
      (rule.evaluate kind b.toContext selfRef repetition sink settings).result = .ok o) :
    (o.verdict = .passed ∧ o.diagnostics = []) ∨
      (o.verdict ≠ .passed ∧ Diagnostics.hasErrors o.diagnostics = true) := by
  have error {d : Diagnostic} (report : d.isError = true) (member : d ∈ o.diagnostics) :
      Diagnostics.hasErrors o.diagnostics = true :=
    List.any_eq_true.2 ⟨d, member, report⟩
  obtain ⟨ts, visible, before, v, -, same, findings, silent⟩ :=
    evaluate_cases settled.isBuiltIn done
  rcases rule.outcome_cases kind (settings.getD {}) visible before v with
    ⟨-, outcome⟩ | ⟨known, outcome | ⟨verdict, d, decided, report, -, outcome⟩⟩ <;>
    obtain rfl := outcome.symm.trans same
  · have reported := reported_of_undecided settled bindings repeated done rfl
    obtain ⟨d, member⟩ := List.exists_mem_of_ne_nil _ reported
    have finding := findings d member
    simp only [Diagnostic.isFinding, Bool.and_eq_true] at finding
    exact .inr ⟨by simp, error finding.1 member⟩
  · exact .inl ⟨rfl, (silent known).1⟩
  · refine .inr ⟨?_, error report.1 (by simp)⟩
    rcases decided with rfl | rfl <;> simp

/-- Findings and the report of a verdict exclude each other. A verdict is reported together with
the traversals of the condition, each known, if snapshots are kept. -/
theorem findings_or_verdict (builtIn : rule.condition.isBuiltIn = true)
    (done : (rule.evaluate kind b.toContext selfRef repetition sink settings).result = .ok o) :
    (o.verdict = .unknown ∧ ∀ d ∈ o.diagnostics, d.isFinding = true) ∨
      (o.verdict = .passed ∧ o.diagnostics = []) ∨
      ((o.verdict = .failed ∨ o.verdict = .invalid) ∧
        ∃ d, o.diagnostics = [d] ∧ rule.IsReportOf kind o.verdict d ∧
          ((settings.getD {}).snapshotContext = true → ∃ ts visible,
            rule.condition.traversals = .ok ts ∧ d.snapshot = some visible ∧
            Table.keys visible = ts.eraseDups ∧ ∀ e ∈ visible, e.2.isKnown = true)) := by
  obtain ⟨ts, visible, before, v, named, same, findings, silent⟩ := evaluate_cases builtIn done
  rcases rule.outcome_cases kind (settings.getD {}) visible before v with
    ⟨-, outcome⟩ | ⟨known, outcome | ⟨verdict, d, decided, report, snapshot, outcome⟩⟩ <;>
    obtain rfl := outcome.symm.trans same
  · exact .inl ⟨rfl, findings⟩
  · exact .inr (.inl ⟨rfl, (silent known).1⟩)
  · obtain ⟨rfl, keys, each⟩ := silent known
    refine .inr (.inr ⟨decided, d, rfl, report, fun kept => ⟨ts, visible, named, ?_, keys, each⟩⟩)
    rw [snapshot, if_pos kept]

/-- A false value is visible, so the report of the verdict stands alone. -/
theorem findings_or_verdict_false :
    ∃ o, (evaluate .outputPrecondition ⟨.reference "var.ok" {}, "off", none⟩
        (Bindings.toContext ⟨[("var.ok", .wrap (.bool false))], []⟩) none none none none).result =
          .ok o ∧
      ∃ d visible, o.diagnostics = [d] ∧ d.snapshot = some visible ∧
        Table.keys visible = ["var.ok"] := by
  refine ⟨_, rfl, ?_⟩
  rcases @findings_or_verdict .outputPrecondition ⟨.reference "var.ok" {}, "off", none⟩
      ⟨[("var.ok", .wrap (.bool false))], []⟩ none none none none _ rfl rfl with
    ⟨undecided, -⟩ | ⟨passed, -⟩ | ⟨-, d, only, -, kept⟩
  · cases undecided
  · cases passed
  · obtain ⟨ts, visible, named, snapshot, keys, -⟩ := kept rfl
    cases named
    exact ⟨d, visible, only, snapshot, keys⟩

/-- If nothing is unknown to begin with, nothing is reported about a set of rules just when every
rule passes, and every other rule brings in an error. -/
theorem silent_iff_all_passed (bindings : b.everywhere (!·.isPending) = true)
    (repeated : (repetition.getD {}).everywhere (!·.isPending) = true)
    (settled : ∀ rule ∈ rules, rule.condition.NeverPending)
    (done : (evaluateAll kind rules b.toContext selfRef repetition sink settings).result =
      .ok outcomes) :
    (Outcome.collect outcomes = [] ↔ ∀ rule ∈ rules, ∃ o,
        (rule.evaluate kind b.toContext selfRef repetition sink settings).result = .ok o ∧
          o.verdict = .passed) ∧
      ∀ rule ∈ rules, ∃ o,
        (rule.evaluate kind b.toContext selfRef repetition sink settings).result = .ok o ∧
          o.diagnostics <:+: Outcome.collect outcomes ∧
          (o.verdict ≠ .passed → Diagnostics.hasErrors o.diagnostics = true) := by
  obtain ⟨outcome, each, rfl⟩ := evaluateAll_eq_ok_iff.1 done
  have decided (rule : Rule) (member : rule ∈ rules) :=
    passed_or_hasErrors (settled rule member) bindings repeated (each rule member)
  constructor
  · simp only [Outcome.collect, List.flatMap_map, List.flatMap_eq_nil_iff]
    refine forall₂_congr fun rule member => ?_
    rw [each rule member]
    rcases decided rule member with ⟨passed, silent⟩ | ⟨other, reported⟩
    · simp [passed, silent]
    · have : (outcome rule).diagnostics ≠ [] := by
        rintro silent
        simp [silent, Diagnostics.hasErrors] at reported
      simp [other, this]
  · intro rule member
    refine ⟨outcome rule, each rule member, ?_, fun other => ?_⟩
    · obtain ⟨before, after, rfl⟩ := List.append_of_mem member
      exact ⟨Outcome.collect (before.map outcome), Outcome.collect (after.map outcome),
        by simp [Outcome.collect]⟩
    · rcases decided rule member with ⟨passed, -⟩ | ⟨-, reported⟩
      · exact absurd passed other
      · exact reported

/-- A rule about a name without a value brings in an error, the one after it does not. -/
theorem silent_iff_all_passed_undeclared :
    ∃ outcomes, (evaluateAll .resourcePrecondition
        [⟨.reference "var.missing" {}, "off", none⟩, ⟨.constant (.bool true) {}, "off", none⟩]
        (Bindings.toContext ⟨[("var.ok", .wrap (.bool true))], []⟩) none none none none).result =
          .ok outcomes ∧
      Outcome.collect outcomes ≠ [] := by
  refine ⟨_, rfl, fun silent => ?_⟩
  have settled : ∀ rule ∈ [(⟨.reference "var.missing" {}, "off", none⟩ : Rule),
      ⟨.constant (.bool true) {}, "off", none⟩], rule.condition.NeverPending := by
    simp [Expression.NeverPending, Data.isPending]
  have whole := (@silent_iff_all_passed .resourcePrecondition _
    ⟨[("var.ok", .wrap (.bool true))], []⟩ none none none none _ rfl rfl settled rfl).1
  obtain ⟨o, found, passed⟩ := whole.1 silent _ (List.mem_cons_self ..)
  cases found
  cases passed

end StagedChecks.Rule
