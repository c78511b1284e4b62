import Mathlib.Data.List.Forall2
import StagedChecks.Proofs.Relaying
import StagedChecks.Proofs.RuleSets

/-!
# Who observes an evaluation

The kind of a set of rules, the sink and the settings belong to the observer of an evaluation. They
decide how it is told and to whom, and not what comes of it: a fault is the same for every observer,
and so are the verdicts and all that is found. Two observers are told about a verdict under
different headlines at most if the condition is false, and with or without the values that were
visible. The one observer who can change what comes of a run is a listener who refuses a message,
and all that he can do is to end it there.

## Main definitions

* `Rule.Observer` — what an evaluation is told by.
* `Rule.Observer.Takes` — observers who take some messages.
* `Rule.Retells` — reports of one verdict to two observers.
* `Rule.AlikeOutcomes` — outcomes of one rule for two observers.

## Main statements

* `Rule.alike_of_ok` — a rule that returns for two observers comes to alike outcomes.
* `Rule.evaluateAll_of_taken` — a run whose messages are taken.
* `Rule.evaluateAll_of_refused` — a run of which a message is refused.
* `Rule.evaluateAll_of_listener`, `Rule.evaluateAll_of_none` — what is heard and logged with a
  listener and without.
* `Rule.evaluateAll_for_observers` — observation never alters results.
-/

namespace StagedChecks

/-- Two reports that agree in all but the headline and the snapshot. -/
structure Diagnostic.SameFinding (d d' : Diagnostic) : Prop where
  severity : d.severity = d'.severity
  detail : d.detail = d'.detail
  subject : d.subject = d'.subject
  condition : d.condition = d'.condition

theorem Diagnostic.SameFinding.refl (d : Diagnostic) : d.SameFinding d :=
  ⟨rfl, rfl, rfl, rfl⟩

namespace Rule

/-- What an evaluation is told by: the kind of its rules, and the sink and the settings, which may
be left to the defaults. -/
structure Observer where
  kind : Kind
  sink : Option Sink
  settings : Option Settings

/-- The settings that are used. -/
def Observer.filled (w : Observer) : Settings :=
  w.settings.getD {}

/-- The sink that is used. -/
def Observer.target (w : Observer) : Sink :=
  Sink.orDefault w.sink w.filled

/-- Whether some texts are taken by the listener, if one was passed that counts as true. -/
def Observer.Takes (w : Observer) (texts : List String) : Prop :=
  ∀ l, w.sink = some (.listener l) → l.truthy = true → ∀ text ∈ texts, l.receive text = .ok ()

/-- Two reports of one verdict on a rule to which `visible` was visible, each made for its own
observer: the headline is that of the kind if the condition is false, and the snapshot is kept if
the settings say so. -/
structure Retells (rule : Rule) (verdict : Verdict) (visible : Variables) (w w' : Observer)
    (d d' : Diagnostic) : Prop where
  report : rule.IsReportOf w.kind verdict d
  report' : rule.IsReportOf w'.kind verdict d'
  detail : d.detail = d'.detail
  snapshot : d.snapshot = if w.settings.all (·.snapshotContext) then some visible else none
  snapshot' : d'.snapshot = if w'.settings.all (·.snapshotContext) then some visible else none

/-- Two outcomes of a rule to which `visible` was visible, each for its own observer: the verdict
is the same and so are all reports but that of the verdict itself, if there is one. -/
structure AlikeOutcomes (rule : Rule) (visible : Variables) (w w' : Observer) (o o' : Outcome) :
    Prop where
  verdict : o.verdict = o'.verdict
  diagnostics :
    ((o.verdict = .unknown ∨ o.verdict = .passed) ∧ o.diagnostics = o'.diagnostics) ∨
      ∃ before d d', o.diagnostics = before ++ [d] ∧ o'.diagnostics = before ++ [d'] ∧
        rule.Retells o.verdict visible w w' d d'

variable {rule : Rule} {rules : List Rule} {context : Context} {selfRef : Option String}
  {repetition : Option Repetition} {visible : Variables} {w w' : Observer} {o o' : Outcome}

theorem Retells.sameFinding {verdict : Verdict} {d d' : Diagnostic}
    (retells : rule.Retells verdict visible w w' d d') : d.SameFinding d' := by
  obtain ⟨⟨error, subject, condition, -⟩, ⟨error', subject', condition', -⟩, detail, -, -⟩ :=
    retells
  simp only [Diagnostic.isError, beq_iff_eq] at error error'
  exact ⟨error.trans error'.symm, detail, subject.trans subject'.symm,
    condition.trans condition'.symm⟩

theorem AlikeOutcomes.forall₂_sameFinding (alike : rule.AlikeOutcomes visible w w' o o') :
    List.Forall₂ Diagnostic.SameFinding o.diagnostics o'.diagnostics := by
  have same (ds : Diagnostics) : List.Forall₂ Diagnostic.SameFinding ds ds :=
    List.forall₂_same.2 fun d _ => .refl d
  rcases alike.diagnostics with ⟨-, equal⟩ | ⟨before, d, d', first, second, retells⟩
  · rw [equal]
    exact same _
  · rw [first, second]
    exact List.rel_append (same before) (.cons retells.sameFinding .nil)

/-- The verdict on a value and its report are told alike to two observers. -/
theorem outcome_alike (rule : Rule) (visible : Variables) (before : Diagnostics) (v : Value)
    (w w' : Observer) :
    rule.AlikeOutcomes visible w w' (rule.outcome w.kind w.filled visible before v)
      (rule.outcome w'.kind w'.filled visible before v) := by
  have kept (w : Observer) : (if w.filled.snapshotContext then some visible else none) =
      if w.settings.all (·.snapshotContext) then some visible else none := by
    rw [Observer.filled, Settings.snapshotContext_getD]
  unfold outcome judge
  cases truth : v.toBool with
  | ok b =>
    cases b with
    | true => exact ⟨rfl, .inl ⟨.inr rfl, rfl⟩⟩
    | false =>
      exact ⟨rfl, .inr ⟨before, _, _, rfl, rfl, ⟨rfl, rfl, rfl, rfl, rfl⟩,
        ⟨rfl, rfl, rfl, rfl, rfl⟩, rfl, kept w, kept w'⟩⟩
  | error reason =>
    cases reason with
    | unknown => exact ⟨rfl, .inl ⟨.inl rfl, rfl⟩⟩
    | null | otherText | otherType =>
      exact ⟨rfl, .inr ⟨before, _, _, rfl, rfl, ⟨rfl, rfl, rfl, rfl⟩, ⟨rfl, rfl, rfl, rfl⟩, rfl,
        kept w, kept w'⟩⟩

/-- A rule that returns for two observers has found the same for both and comes to alike outcomes.
-/
theorem alike_of_ok
    (done : (rule.evaluate w.kind context selfRef repetition w.sink w.settings).result = .ok o)
    (done' : (rule.evaluate w'.kind context selfRef repetition w'.sink w'.settings).result =
      .ok o') :
    ∃ found, (rule.consult context selfRef repetition).result = .ok found ∧
      rule.AlikeOutcomes found.visible w w' o o' := by
  rw [evaluate_eq_consult, Run.result_bind] at done done'
  obtain ⟨found, consulted, done⟩ := bind_eq_ok_iff.1 done
  obtain ⟨found', consulted', done'⟩ := bind_eq_ok_iff.1 done'
  cases consulted.symm.trans consulted'
  rw [Run.bind_pure_eq] at done done'
  obtain ⟨-, -, rfl⟩ := map_eq_ok_iff.1 done
  obtain ⟨-, -, rfl⟩ := map_eq_ok_iff.1 done'
  exact ⟨found, consulted, outcome_alike ..⟩

/-- A set that returns for two observers comes to alike outcomes rule by rule. -/
theorem evaluateAll_alike_of_ok {outcomes outcomes' : List Outcome}
    (done : (evaluateAll w.kind rules context selfRef repetition w.sink w.settings).result =
      .ok outcomes)
    (done' : (evaluateAll w'.kind rules context selfRef repetition w'.sink w'.settings).result =
      .ok outcomes') :
    (∃ outcome outcome' : Rule → Outcome,
        outcomes = rules.map outcome ∧ outcomes' = rules.map outcome' ∧
          ∀ rule ∈ rules, ∃ found, (rule.consult context selfRef repetition).result = .ok found ∧
            rule.AlikeOutcomes found.visible w w' (outcome rule) (outcome' rule)) ∧
      List.Forall₂ Diagnostic.SameFinding
        (Outcome.collect outcomes) (Outcome.collect outcomes') := by
  obtain ⟨outcome, each, rfl⟩ := evaluateAll_eq_ok_iff.1 done
  obtain ⟨outcome', each', rfl⟩ := evaluateAll_eq_ok_iff.1 done'
  have alike : ∀ rule ∈ rules, ∃ found,
      (rule.consult context selfRef repetition).result = .ok found ∧
      rule.AlikeOutcomes found.visible w w' (outcome rule) (outcome' rule) :=
    fun rule member => alike_of_ok (each rule member) (each' rule member)
  have told : ∀ rule ∈ rules, List.Forall₂ Diagnostic.SameFinding (outcome rule).diagnostics
      (outcome' rule).diagnostics := by
    intro rule member
    obtain ⟨found, -, alike⟩ := alike rule member
    exact alike.forall₂_sameFinding
  refine ⟨⟨outcome, outcome', rfl, rfl, alike⟩, ?_⟩
  simp only [Outcome.collect, List.flatMap_map]
  exact List.rel_flatMap (List.forall₂_same.2 told) fun _ _ related => related

/-- What is found does not depend on the kind. -/
theorem result_informAll_of_kind (kind kind' : Kind) (rules : List Rule) (context : Context)
    (selfRef : Option String) (repetition : Option Repetition) :
    (informAll kind rules (.listener {}) context selfRef repetition).result =
      (informAll kind' rules (.listener {}) context selfRef repetition).result := by
  have announced (ds : Diagnostics) :
      (announce kind (.listener {}) ds).result = (announce kind' (.listener {}) ds).result := by
    rw [result_announce, result_announce]
    rfl
  have each (rule : Rule) : (rule.inform kind (.listener {}) context selfRef repetition).result =
      (rule.inform kind' (.listener {}) context selfRef repetition).result := by
    simp only [inform, Run.result_bind, announced]
  simp only [informAll, Run.result_mapM, each]

/-- All messages go to the sink that is used. -/
theorem Observer.exists_tells (w : Observer) (rules : List Rule) (context : Context)
    (selfRef : Option String) (repetition : Option Repetition) :
    ∃ texts, (evaluateAll w.kind rules context selfRef repetition w.sink w.settings).Tells
      w.target texts :=
  exists_tells_evaluateAll rules

/-- What is said about a set of rules of one kind: what a listener hears who takes everything. -/
def said (kind : Kind) (rules : List Rule) (context : Context) (selfRef : Option String)
    (repetition : Option Repetition) : List String :=
  (evaluateAll kind rules context selfRef repetition (some (.listener {})) none).heard

theorem heard_informAll (kind : Kind) (rules : List Rule) (context : Context)
    (selfRef : Option String) (repetition : Option Repetition) :
    let run := informAll kind rules (.listener {}) context selfRef repetition
    run.heard = said kind rules context selfRef repetition ∧ run.logRecords = [] := by
  intro run
  have same : (evaluateAll kind rules context selfRef repetition (some (.listener {}))
      none).events = run.events := by
    rw [evaluateAll_eq_inform, Run.bind_pure_eq]
    rfl
  obtain ⟨texts, -, logged⟩ := Observer.exists_tells ⟨kind, some (.listener {}), none⟩ rules context
    selfRef repetition
  constructor
  · rw [said, Run.heard, Run.heard, same]
  · rw [Run.logRecords, ← same]
    exact logged

/-- Every observer is told again what is said, as far as the sink takes it. -/
theorem Observer.evaluateAll_eq_relay (w : Observer) (rules : List Rule) (context : Context)
    (selfRef : Option String) (repetition : Option Repetition) :
    evaluateAll w.kind rules context selfRef repetition w.sink w.settings = (do
      let findings ← w.target.relay
        (informAll w.kind rules (.listener {}) context selfRef repetition)
      return List.zipWith (fun rule found =>
        rule.outcome w.kind w.filled found.visible found.reports found.value) rules findings) := by
  rw [evaluateAll_eq_inform, informAll_eq_relay]
  rfl

/-- If all that is said is taken, the run comes to what is found, and the sink is told all of it. -/
theorem evaluateAll_of_taken (w : Observer)
    (taken : ∀ text ∈ said w.kind rules context selfRef repetition,
      w.target.answer text = .ok ()) :
    let run := evaluateAll w.kind rules context selfRef repetition w.sink w.settings
    (∀ fault, run.result = .error fault ↔
      (informAll w.kind rules (.listener {}) context selfRef repetition).result = .error fault) ∧
    run.Tells w.target (said w.kind rules context selfRef repetition) := by
  intro run
  obtain ⟨heard, unlogged⟩ := heard_informAll w.kind rules context selfRef repetition
  rw [← heard] at taken ⊢
  obtain ⟨same, told⟩ := Sink.relay_of_taken unlogged taken
  simp only [run, Observer.evaluateAll_eq_relay]
  refine ⟨fun fault => ?_, told.map _⟩
  rw [Run.bind_pure_eq, ← same]
  exact map_eq_error_iff

/-- If a message is refused, the run ends with the fault of that, and the sink was told the messages
before. -/
theorem evaluateAll_of_refused (w : Observer) {earlier later : List String} {text : String}
    {fault : Fault}
    (split : said w.kind rules context selfRef repetition = earlier ++ text :: later)
    (taken : ∀ text ∈ earlier, w.target.answer text = .ok ())
    (refused : w.target.answer text = .error fault) :
    let run := evaluateAll w.kind rules context selfRef repetition w.sink w.settings
    run.result = .error fault ∧ run.Tells w.target earlier := by
  intro run
  obtain ⟨heard, unlogged⟩ := heard_informAll w.kind rules context selfRef repetition
  obtain ⟨ended, told⟩ := Sink.relay_of_refused unlogged (heard.trans split) taken refused
  simp only [run, Observer.evaluateAll_eq_relay]
  refine ⟨?_, told.map _⟩
  rw [Run.bind_pure_eq]
  exact map_eq_error_iff.2 ended

theorem target_of_listener {kind : Kind} {l : Listener} {settings : Option Settings}
    (truthy : l.truthy = true) :
    Observer.target ⟨kind, some (.listener l), settings⟩ = .listener l :=
  if_pos truthy

theorem target_of_not_truthy {kind : Kind} {l : Listener} {settings : Option Settings}
    (falsy : l.truthy = false) :
    Observer.target ⟨kind, some (.listener l), settings⟩ = Observer.target ⟨kind, none, settings⟩ :=
  if_neg (by simp [Sink.isTruthy, falsy])

/-- Only a listener who was passed and counts as true can refuse a message. -/
theorem Observer.answer_of_takes {texts : List String} (takes : w.Takes texts) :
    ∀ text ∈ texts, w.target.answer text = .ok () := by
  intro text member
  obtain ⟨kind, sink, settings⟩ := w
  have quiet (settings : Settings) : (Sink.default settings).answer text = .ok () := by
    unfold Sink.default
    split <;> rfl
  cases sink with
  | none => exact quiet _
  | some sink =>
    cases sink with
    | log | discard => rfl
    | listener l =>
      cases truthy : l.truthy with
      | true =>
        rw [target_of_listener truthy]
        exact takes l rfl truthy text member
      | false =>
        rw [target_of_not_truthy truthy]
        exact quiet _

/-- A listener who counts as false is not used. -/
theorem evaluateAll_of_not_truthy {kind : Kind} {l : Listener} {settings : Option Settings}
    (falsy : l.truthy = false) :
    evaluateAll kind rules context selfRef repetition (some (.listener l)) settings =
      evaluateAll kind rules context selfRef repetition none settings := by
  have same : Sink.orDefault (some (.listener l)) (settings.getD {}) =
      Sink.orDefault none (settings.getD {}) :=
    @target_of_not_truthy kind l settings falsy
  rw [evaluateAll_eq_inform, evaluateAll_eq_inform, same]

/-- What a listener hears does not depend on the settings, also if he refuses something. -/
theorem events_of_listener {kind : Kind} {l : Listener} (truthy : l.truthy = true)
    (settings settings' : Option Settings) :
    (evaluateAll kind rules context selfRef repetition (some (.listener l)) settings).events =
      (evaluateAll kind rules context selfRef repetition (some (.listener l))
        settings').events := by
  have used (settings : Option Settings) :
      Sink.orDefault (some (.listener l)) (settings.getD {}) = .listener l := if_pos truthy
  rw [evaluateAll_eq_inform, evaluateAll_eq_inform, Run.bind_pure_eq, Run.bind_pure_eq, used, used]

/-- What a listener hears does not depend on the settings, and nothing is logged beside. He hears
all that is said if he takes it, and what comes before the first message that he refuses. -/
theorem evaluateAll_of_listener {kind : Kind} {l : Listener} (truthy : l.truthy = true)
    (settings : Option Settings) :
    let run (settings : Option Settings) :=
      evaluateAll kind rules context selfRef repetition (some (.listener l)) settings
    let said := said kind rules context selfRef repetition
    (∀ settings', (run settings).heard = (run settings').heard) ∧
      (run settings).logRecords = [] ∧
      ((∀ text ∈ said, l.receive text = .ok ()) → (run settings).heard = said) ∧
      ∀ earlier text later fault, said = earlier ++ text :: later →
        (∀ text ∈ earlier, l.receive text = .ok ()) → l.receive text = .error fault →
          (run settings).result = .error fault ∧ (run settings).heard = earlier := by
  intro run said
  let w : Observer := ⟨kind, some (.listener l), settings⟩
  have used : w.target = .listener l := target_of_listener truthy
  refine ⟨fun settings' => ?alike, ?logged, fun taken => ?taken,
    fun earlier text later fault split taken refused => ?refused⟩
  case alike => exact congrArg (List.filterMap _) (events_of_listener truthy settings settings')
  case logged =>
    obtain ⟨texts, -, logged⟩ := w.exists_tells rules context selfRef repetition
    rwa [used] at logged
  case taken =>
    obtain ⟨-, heard, -⟩ := evaluateAll_of_taken w (by rw [used]; exact taken)
    rwa [used] at heard
  case refused =>
    obtain ⟨ended, heard, -⟩ :=
      evaluateAll_of_refused w split (by rw [used]; exact taken) (by rw [used]; exact refused)
    rw [used] at heard
    exact ⟨ended, heard⟩

/-- Without a listener all that is said is logged at the level for debugging, or nothing if the
settings say so. -/
theorem evaluateAll_of_none (kind : Kind) (settings : Option Settings) :
    let run := evaluateAll kind rules context selfRef repetition none settings
    run.heard = [] ∧ run.logRecords =
      if settings.all (·.traceEnabled) then
        (said kind rules context selfRef repetition).map fun text => { level := .debug, text }
      else [] := by
  intro run
  let w : Observer := ⟨kind, none, settings⟩
  obtain ⟨-, heard, logged⟩ := evaluateAll_of_taken w (Observer.answer_of_takes nofun)
  have used : w.target = if settings.all (·.traceEnabled) then .log .debug else .discard := by
    rw [← Settings.traceEnabled_getD]
    rfl
  rw [used] at heard logged
  cases enabled : settings.all (·.traceEnabled) with
  | true =>
    rw [enabled] at heard logged
    exact ⟨heard, logged⟩
  | false =>
    rw [enabled] at heard logged
    exact ⟨heard, logged⟩

/-- The faults are the same for all observers who take what is said about their kinds. -/
theorem evaluateAll_eq_error_iff_of_takes
    (takes : w.Takes (said w.kind rules context selfRef repetition))
    (takes' : w'.Takes (said w'.kind rules context selfRef repetition)) (fault : Fault) :
    (evaluateAll w.kind rules context selfRef repetition w.sink w.settings).result = .error fault ↔
      (evaluateAll w'.kind rules context selfRef repetition w'.sink w'.settings).result =
        .error fault := by
  obtain ⟨ends, -⟩ := evaluateAll_of_taken w (Observer.answer_of_takes takes)
  obtain ⟨ends', -⟩ := evaluateAll_of_taken w' (Observer.answer_of_takes takes')
  rw [ends, ends', result_informAll_of_kind w.kind w'.kind]

end Rule

end StagedChecks
