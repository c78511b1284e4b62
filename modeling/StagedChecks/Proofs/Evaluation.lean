import Mathlib.Tactic.Choose
import StagedChecks.Bindings.Resolve
import StagedChecks.Evaluation
import StagedChecks.Proofs.Growth
import StagedChecks.Proofs.Sequencing

/-!
# Evaluations that return

The evaluation of a rule returns when the condition tells its traversals, the context gives a scope,
the scope gives values, the condition has one and the errors reported so far could be announced;
then the outcome follows from these. A set of rules is evaluated rule by rule.

## Main definitions

* `Rule.IsReportOf` — the reports of verdicts.

## Main statements

* `Rule.result_announce` — when errors can be announced.
* `Rule.evaluate_eq_ok_iff` — what one evaluation comes to.
* `Rule.evaluateAll_eq_ok_iff` — what the evaluation of a set comes to.
* `Rule.outcome_cases` — when a verdict is reported.
-/

namespace StagedChecks

instance : Inhabited Outcome :=
  ⟨⟨.unknown, []⟩⟩

namespace Rule

/-- Whether a diagnostic is the report of a verdict on a rule: an error at the place of the rule
that names its condition, under the headline of the verdict. -/
def IsReportOf (rule : Rule) (kind : Kind) (verdict : Verdict) (d : Diagnostic) : Prop :=
  d.isError = true ∧ d.subject = rule.subject? ∧ d.condition = some rule.condition ∧
    match verdict with
    | .failed => d.summary = kind.failureSummary ∧ d.detail = rule.errorMessage
    | .invalid => d.summary = invalidSummary
    | .unknown | .passed => False

variable {kind : Kind} {rule : Rule} {rules : List Rule} {context : Context} {b b' : Bindings}
  {selfRef : Option String} {repetition : Option Repetition} {sink : Option Sink}
  {settings : Option Settings} {outcome : Outcome} {outcomes : List Outcome} {ds : Diagnostics}

/-- The message about some errors. -/
def message (kind : Kind) (report : ErrorReport) : String :=
  "evaluate_check_rules: " ++ kind.failureSummary ++ ": " ++ report.message

theorem announce_of_err? {target : Sink} {report? : Option ErrorReport}
    (made : ds.err? = .ok report?) :
    announce kind target ds =
      report?.elim (pure ()) fun report => target.send (message kind report) := by
  simp only [announce, traceMessage?, made, Except.map, Run.ofResult_ok_bind]
  cases report? <;> rfl

/-- Errors are announced as they are presented, if they can be, and as the sink takes it. -/
theorem result_announce (kind : Kind) (target : Sink) (ds : Diagnostics) :
    (announce kind target ds).result = (do
      match ← ds.err? with
      | some report => target.answer (message kind report)
      | none => .ok ()) := by
  cases made : ds.err? with
  | error fault =>
    simp only [announce, traceMessage?, made, Except.map, Run.result_bind, Run.result_ofResult]
    rfl
  | ok report? =>
    rw [announce_of_err? made]
    cases report? <;> simp [bind, Except.bind]

/-- Nothing is announced where no error was reported. -/
theorem announce_of_silent {target : Sink} (silent : ds.errors = []) :
    announce kind target ds = pure () :=
  announce_of_err? (Diagnostics.err?_of_errors_eq_nil silent)

/-- The evaluation of a rule returns when all that it consults does. -/
theorem evaluate_eq_ok_iff :
    (rule.evaluate kind context selfRef repetition sink settings).result = .ok outcome ↔
      ∃ references first scope visible second v third,
        rule.condition.references = .ok (references, first) ∧
        context.scope selfRef repetition = .ok scope ∧
        scope references = .ok (visible, second) ∧
        rule.condition.evaluate (some visible) = .ok (v, third) ∧
        (announce kind (Sink.orDefault sink (settings.getD {}))
          (first ++ second ++ third)).result = .ok () ∧
        rule.outcome kind (settings.getD {}) visible (first ++ second ++ third) v = outcome := by
  simp only [evaluate, Run.result_bind, Run.result_ofResult, Run.result_emit, Run.result_pure,
    bind_eq_ok_iff, Except.ok.injEq]
  constructor
  · rintro ⟨⟨references, first⟩, named, -, -, scope, supplied, ⟨visible, second⟩, seen, ⟨v, third⟩,
      done, ⟨⟩, announced, same⟩
    exact ⟨references, first, scope, visible, second, v, third, named, supplied, seen, done,
      announced, same⟩
  · rintro ⟨references, first, scope, visible, second, v, third, named, supplied, seen, done,
      announced, same⟩
    exact ⟨(references, first), named, (), trivial, scope, supplied, (visible, second), seen,
      (v, third), done, (), announced, same⟩

theorem evaluate_toContext_eq_ok_iff :
    (rule.evaluate kind b.toContext selfRef repetition sink settings).result = .ok outcome ↔
      ∃ ts visible second v third, rule.condition.traversals = .ok ts ∧
        b.scope selfRef (repetition.getD {}) (Reference.analyse ts).1 = .ok (visible, second) ∧
        rule.condition.evaluate (some visible) = .ok (v, third) ∧
        (announce kind (Sink.orDefault sink (settings.getD {}))
          ((Reference.analyse ts).2 ++ second ++ third)).result = .ok () ∧
        rule.outcome kind (settings.getD {}) visible
          ((Reference.analyse ts).2 ++ second ++ third) v = outcome := by
  rw [evaluate_eq_ok_iff]
  constructor
  · rintro ⟨references, first, scope, visible, second, v, third, analysed, supplied, seen, done,
      announced, same⟩
    obtain ⟨ts, named, found⟩ := map_eq_ok_iff.1 analysed
    cases found
    cases supplied
    exact ⟨ts, visible, second, v, third, named, seen, done, announced, same⟩
  · rintro ⟨ts, visible, second, v, third, named, seen, done, announced, same⟩
    exact ⟨_, _, _, visible, second, v, third, map_eq_ok_iff.2 ⟨ts, named, rfl⟩, rfl, seen, done,
      announced, same⟩

/-- An evaluation depends on nothing of the bindings and the block but the scope of the
references. -/
theorem evaluate_congr {selfRef' : Option String} {repetition' : Option Repetition}
    (same : ∀ ts, rule.condition.traversals = .ok ts →
      b'.scope selfRef' (repetition'.getD {}) (Reference.analyse ts).1 =
        b.scope selfRef (repetition.getD {}) (Reference.analyse ts).1) :
    rule.evaluate kind b'.toContext selfRef' repetition' sink settings =
      rule.evaluate kind b.toContext selfRef repetition sink settings := by
  unfold evaluate Expression.references
  cases named : rule.condition.traversals with
  | error fault => rfl
  | ok ts =>
    simp only [Except.map, Bindings.toContext, Run.ofResult_ok_bind, same ts named]

theorem result_evaluateAll :
    (evaluateAll kind rules context selfRef repetition sink settings).result =
      rules.mapM fun rule =>
        (rule.evaluate kind context selfRef repetition sink settings).result := by
  induction rules with
  | nil => rfl
  | cons rule rules ih =>
    rw [List.mapM_cons, ← ih, evaluateAll_cons]
    simp only [Run.result_bind, Run.result_pure]
    rfl

theorem evaluateAll_eq_ok_iff :
    (evaluateAll kind rules context selfRef repetition sink settings).result = .ok outcomes ↔
      ∃ outcome : Rule → Outcome,
        (∀ rule ∈ rules,
          (rule.evaluate kind context selfRef repetition sink settings).result =
            .ok (outcome rule)) ∧
        outcomes = rules.map outcome := by
  rw [result_evaluateAll]
  exact mapM_eq_ok_iff

/-- A set of rules is evaluated in the same way over two contexts if each of its rules is. -/
theorem evaluateAll_congr {context' : Context} {selfRef' : Option String}
    {repetition' : Option Repetition}
    (same : ∀ rule ∈ rules,
      rule.evaluate kind context' selfRef' repetition' sink settings =
        rule.evaluate kind context selfRef repetition sink settings) :
    evaluateAll kind rules context' selfRef' repetition' sink settings =
      evaluateAll kind rules context selfRef repetition sink settings := by
  induction rules with
  | nil => rfl
  | cons rule rules ih =>
    rw [evaluateAll_cons, evaluateAll_cons, same rule (List.mem_cons_self ..),
      ih fun rule' member => same rule' (List.mem_cons_of_mem _ member)]

/-- A set of rules returns when every rule does. -/
theorem exists_evaluateAll_iff :
    (∃ outcomes, (evaluateAll kind rules context selfRef repetition sink settings).result =
        .ok outcomes) ↔
      ∀ rule ∈ rules, ∃ o,
        (rule.evaluate kind context selfRef repetition sink settings).result = .ok o := by
  constructor
  · rintro ⟨outcomes, done⟩
    obtain ⟨outcome, each, -⟩ := evaluateAll_eq_ok_iff.1 done
    exact fun rule member => ⟨outcome rule, each rule member⟩
  · intro each
    choose! outcome each using each
    exact ⟨_, evaluateAll_eq_ok_iff.2 ⟨outcome, each, rfl⟩⟩

/-- An unknown or true condition adds no report; a false or invalid one adds the report of the
verdict. -/
theorem outcome_cases (rule : Rule) (kind : Kind) (settings : Settings) (visible : Variables)
    (before : Diagnostics) (v : Value) :
    (v.isKnown = false ∧ rule.outcome kind settings visible before v = ⟨.unknown, before⟩) ∨
      (v.isKnown = true ∧
        (rule.outcome kind settings visible before v = ⟨.passed, before⟩ ∨
          ∃ verdict d, (verdict = .failed ∨ verdict = .invalid) ∧
            rule.IsReportOf kind verdict d ∧
            d.snapshot = (if settings.snapshotContext then some visible else none) ∧
            rule.outcome kind settings visible before v = ⟨verdict, before ++ [d]⟩)) := by
  unfold outcome judge
  have reported (verdict : Verdict) (report : String × String)
      (headed : match verdict with
        | .failed => report = (kind.failureSummary, rule.errorMessage)
        | .invalid => report.1 = invalidSummary
        | .unknown | .passed => False) :
      rule.IsReportOf kind verdict (rule.verdictDiagnostic settings visible report) := by
    refine ⟨rfl, rfl, rfl, ?_⟩
    cases verdict <;> simp_all [verdictDiagnostic]
  have known (determined : v.toBool ≠ .error .unknown) : v.isKnown = true := by
    simpa using mt Value.toBool_eq_unknown_iff.2 determined
  cases truth : v.toBool with
  | ok b =>
    refine .inr ⟨known (by simp [truth]), ?_⟩
    cases b with
    | true => exact .inl (by simp)
    | false => exact .inr ⟨.failed, _, .inl rfl, reported .failed _ rfl, rfl, rfl⟩
  | error reason =>
    cases reason with
    | unknown => exact .inl ⟨Value.toBool_eq_unknown_iff.1 truth, by simp⟩
    | null | otherText | otherType =>
      refine .inr ⟨known (by simp [truth]), .inr ?_⟩
      exact ⟨.invalid, _, .inr rfl, reported .invalid _ rfl, rfl, rfl⟩

theorem isKnown_of_decided {settings : Settings} {visible : Variables} {before : Diagnostics}
    {v : Value}
    (decided : (rule.outcome kind settings visible before v).verdict ≠ .unknown) :
    v.isKnown = true := by
  rcases rule.outcome_cases kind settings visible before v with ⟨-, outcome⟩ | ⟨known, -⟩
  · rw [outcome] at decided
    exact absurd rfl decided
  · exact known

end Rule

end StagedChecks
