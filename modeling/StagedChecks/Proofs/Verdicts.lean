import StagedChecks.Proofs.Observation

/-!
# The verdict on a value

What a rule comes to once everything has been consulted: the reports made so far stay in front, and
the value alone decides the verdict and whether it is reported. What was reported before decides
only whether a message is sent, and the rule ends with a fault just where this cannot be done.

## Main definitions

* `Value.Spells` — the values that stand for a truth value.
* `Rule.DecidedBy` — what a value decides about a rule.

## Main statements

* `Value.toBool_eq_ok_iff` — what can be read as a truth value.
* `judge_cases` — the five verdicts on a value.
* `Rule.announce_of_first` — the message about the errors among some reports.
* `Rule.evaluate_of_value` — the exact outcome of a rule.
-/

namespace StagedChecks

namespace Value

/-- The texts that stand for a truth value. -/
def spellings : Bool → List String
  | true => ["true", "1"]
  | false => ["false", "0"]

/-- Whether a known value stands for a truth value: it is one or spells it. -/
def Spells (v : Value) (b : Bool) : Prop :=
  v.state = .known ∧ (v.raw = .bool b ∨ ∃ s ∈ spellings b, v.raw = .str s)

theorem truthOfText?_eq_some_iff {s : String} {b : Bool} :
    truthOfText? s = some b ↔ s ∈ spellings b := by
  unfold truthOfText?
  by_cases yes : s = "true" ∨ s = "1"
  · have no : s ∉ spellings false := by rcases yes with rfl | rfl <;> decide
    cases b with
    | true => simp [yes, spellings]
    | false => simp [yes, no]
  · by_cases no : s = "false" ∨ s = "0" <;> cases b <;> simp [yes, no, spellings]

theorem toBool_eq_ok_iff {v : Value} {b : Bool} : v.toBool = .ok b ↔ v.Spells b := by
  unfold toBool Spells
  cases v.state with
  | unknown | null => simp
  | known =>
    cases v.raw with
    | bool b' => simp
    | str s =>
      simp only [true_and, reduceCtorEq, false_or, Data.str.injEq, exists_eq_right',
        ← truthOfText?_eq_some_iff]
      cases truthOfText? s <;> simp
    | _ => simp

/-- A known value that stands for no truth value is refused, and not for being unknown or null. -/
theorem toBool_of_not_spells {v : Value} (known : v.state = .known) (other : ∀ b, ¬ v.Spells b) :
    ∃ reason, v.toBool = .error reason ∧
      reason = match v.raw with
        | .str _ => .otherText
        | _ => .otherType v.typeName := by
  cases truth : v.toBool with
  | ok b => exact absurd (toBool_eq_ok_iff.1 truth) (other b)
  | error reason =>
    refine ⟨reason, rfl, ?_⟩
    unfold toBool at truth
    cases raw : v.raw with
    | str s => cases spelled : truthOfText? s <;> simp_all
    | _ => simp_all

end Value

/-- The five verdicts on a value, one for each way to read it. -/
theorem judge_cases (kind : Rule.Kind) (message : String) (v : Value) :
    (v.state = .unknown → judge kind message v = (.unknown, none)) ∧
    (v.state = .null → judge kind message v = (.invalid, some (invalidSummary,
      "Condition expression must return either true or false, not null."))) ∧
    (v.Spells true → judge kind message v = (.passed, none)) ∧
    (v.Spells false → judge kind message v = (.failed, some (kind.failureSummary, message))) ∧
    (v.state = .known → (∀ b, ¬ v.Spells b) → ∃ reason, v.toBool = .error reason ∧
      reason.message = (match v.raw with
        | .str _ => "a bool is required"
        | _ => "bool required, but have " ++ v.typeName) ∧
      judge kind message v = (.invalid, some (invalidSummary,
        "Invalid validation condition result value: " ++ reason.message ++ "."))) := by
  unfold judge
  refine ⟨fun unknown => ?_, fun null => ?_, fun passed => ?_, fun failed => ?_,
    fun known other => ?_⟩
  · simp [Value.toBool, unknown]
  · simp [Value.toBool, null]
  · rw [Value.toBool_eq_ok_iff.2 passed]
  · rw [Value.toBool_eq_ok_iff.2 failed]
  · obtain ⟨reason, refused, rfl⟩ := Value.toBool_of_not_spells known other
    refine ⟨_, refused, ?_, ?_⟩
    · cases v.raw <;> rfl
    · rw [refused]
      cases v.raw <;> rfl

namespace Rule

/-- How the value `v` of a condition decides about a rule to which `visible` was visible: the
verdict, and what is reported about it. -/
structure DecidedBy (rule : Rule) (kind : Kind) (settings : Option Settings) (visible : Variables)
    (v : Value) (verdict : Verdict) (added : Diagnostics) : Prop where
  length_le : added.length ≤ 1
  unknown : v.state = .unknown → verdict = .unknown ∧ added = []
  null : v.state = .null → verdict = .invalid ∧ ∃ d, added = [d] ∧
    d.summary = "Invalid condition result" ∧
    d.detail = "Condition expression must return either true or false, not null."
  passed : v.Spells true → verdict = .passed ∧ added = []
  failed : v.Spells false → verdict = .failed ∧ ∃ d, added = [d] ∧
    d.summary = kind.failureSummary ∧ d.detail = rule.errorMessage
  refused : v.state = .known → (∀ b, ¬ v.Spells b) → verdict = .invalid ∧
    ∃ reason d, v.toBool = .error reason ∧
      reason.message = (match v.raw with
        | .str _ => "a bool is required"
        | _ => "bool required, but have " ++ v.typeName) ∧
      added = [d] ∧ d.summary = "Invalid condition result" ∧
      d.detail = "Invalid validation condition result value: " ++ reason.message ++ "."
  /-- What is reported stands at the place of the condition or else of the declaration, with the
  condition, and with the visible values unless the settings say that no snapshot is kept. -/
  report : ∀ d ∈ added, d.severity = .error ∧
    d.subject = rule.condition.range?.or rule.declaration ∧
    d.condition = some rule.condition ∧
    d.snapshot = if settings.all (·.snapshotContext) then some visible else none

/-- The outcome of a rule is what was reported before and what the value decides. -/
theorem exists_decidedBy (rule : Rule) (kind : Kind) (settings : Option Settings)
    (visible : Variables) (before : Diagnostics) (v : Value) :
    ∃ verdict added, rule.DecidedBy kind settings visible v verdict added ∧
      rule.outcome kind (settings.getD {}) visible before v = ⟨verdict, before ++ added⟩ := by
  obtain ⟨unknown, null, passed, failed, refused⟩ := judge_cases kind rule.errorMessage v
  refine ⟨(judge kind rule.errorMessage v).1,
    ((judge kind rule.errorMessage v).2.map
      (rule.verdictDiagnostic (settings.getD {}) visible)).toList, ?_, rfl⟩
  constructor
  case length_le => exact Option.length_toList_le
  case unknown =>
    intro state
    simp [unknown state]
  case null =>
    intro state
    simp [null state, verdictDiagnostic, invalidSummary]
  case passed =>
    intro spelled
    simp [passed spelled]
  case failed =>
    intro spelled
    simp [failed spelled, verdictDiagnostic]
  case refused =>
    intro state unspelled
    obtain ⟨reason, refused, worded, judged⟩ := refused state unspelled
    refine ⟨by rw [judged], reason, _, refused, worded, by rw [judged]; rfl, rfl, rfl⟩
  case report =>
    intro d member
    obtain ⟨report, -, rfl⟩ := Option.map_eq_some_iff.1 (Option.mem_toList.1 member)
    exact ⟨rfl, rfl, rfl, by rw [← Settings.snapshotContext_getD]; rfl⟩

variable {kind : Kind} {rule : Rule} {context : Context} {selfRef : Option String}
  {repetition : Option Repetition} {sink : Option Sink} {settings : Option Settings}
  {references : List Reference} {scope : Scope} {visible : Variables}
  {first second third ds others : Diagnostics} {v : Value} {target : Sink} {e : Diagnostic}
  {found : Findings} {text : String} {fault : Fault}

/-- The message names the kind of the rules, the first error and the number of the others. -/
theorem announce_of_first (listed : Diagnostics.errors ds = e :: others)
    (described : e.describe = .ok text) :
    announce kind target ds = target.send
      ("evaluate_check_rules: " ++ kind.failureSummary ++ ": " ++ text ++
        if others.length = 0 then "" else
          ", and " ++ toString others.length ++ " other diagnostic(s)") := by
  have made := Diagnostics.err?_of_errors listed
  rw [described] at made
  rw [announce_of_err? made]
  exact congrArg target.send (String.append_assoc ..).symm

theorem announce_of_long (listed : Diagnostics.errors ds = e :: others) (long : e.IsLong) :
    (announce kind target ds).result = .error .oversizedInteger := by
  have failed : ds.err? = .error .oversizedInteger :=
    Diagnostics.err?_eq_error_iff.2 ⟨rfl, e, by rw [listed]; rfl, long⟩
  rw [result_announce, failed]
  rfl

/-- A rule that consults with success and announces with success has its outcome, and has told what
was announced. -/
theorem evaluate_of_announced {texts : List String}
    (consulted : (rule.consult context selfRef repetition).result = .ok found)
    (announced : (announce kind (Sink.orDefault sink (settings.getD {})) found.reports).result =
      .ok ())
    (told : (announce kind (Sink.orDefault sink (settings.getD {})) found.reports).Tells target
      texts) :
    let run := rule.evaluate kind context selfRef repetition sink settings
    run.result = .ok (rule.outcome kind (settings.getD {}) found.visible found.reports
      found.value) ∧ run.Tells target texts := by
  intro run
  constructor
  · simp only [run, evaluate_of_consult consulted, announced]
    rfl
  · have silent : (rule.consult context selfRef repetition).Tells target [] :=
      Run.tells_nil_iff.2 (isSilent_consult rule context selfRef repetition)
    simp only [run, evaluate_eq_consult]
    exact .append consulted silent (told.map _)

/-- If the errors cannot be announced, the rule ends with the fault of that and nothing was told. -/
theorem evaluate_of_unannounced
    (consulted : (rule.consult context selfRef repetition).result = .ok found)
    (failed : (announce kind (Sink.orDefault sink (settings.getD {})) found.reports).result =
      .error fault) :
    let run := rule.evaluate kind context selfRef repetition sink settings
    run.result = .error fault ∧ run.IsSilent := by
  intro run
  have ended : run.result = .error fault := by
    simp only [run, evaluate_of_consult consulted, failed]
    rfl
  exact ⟨ended, isSilent_of_error ended⟩

end Rule

end StagedChecks
