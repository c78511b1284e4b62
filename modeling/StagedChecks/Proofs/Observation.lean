import StagedChecks.Proofs.Evaluation

/-!
# What is observed of an evaluation

Runs compose: of two runs one after the other is observed what is observed of each, unless the first
ends with a fault. The evaluation of a rule first consults its condition, the context and the scope,
in silence; then it sends one message at most, and nothing after it can fail. So an evaluation that
ends with a fault has told nobody anything.

## Main definitions

* `Run.IsSilent`, `Run.Tells` — what the listener and the log received.
* `Sink.Serves` — the sink that is used where one may have been passed.
* `Rule.Findings`, `Rule.consult` — what an evaluation needs from outside.

## Main statements

* `Run.heard_bind`, `Run.logRecords_bind`, `Run.scopeRequests_bind` — what is observed of two runs
  in sequence.
* `Sink.serves_iff` — the sink that is used is the one with the defaults filled in.
* `Rule.evaluate_eq_consult` — a rule consults, announces and then has its outcome.
* `Rule.evaluate_of_consult` — the evaluation of a rule when all that it consults returns.
* `Rule.isSilent_of_error` — the evaluation of a rule when it ends with a fault.
* `Rule.scopeRequests_evaluate` — the scopes that it asks for.
-/

namespace StagedChecks

namespace Run

variable {α β : Type} {r : Run α} {a : α} {fault : Fault}

instance : LawfulMonad Run := LawfulMonad.mk' Run
  (by
    intro α r
    cases done : r.result with
    | ok a => simp [Functor.map, andThen_ok done, ofResult, ← done]
    | error fault => simp [Functor.map, andThen_error done, ← done])
  (fun _ _ => rfl)
  (by
    intro α β γ r f g
    cases done : r.result with
    | error fault => simp [bind_def, andThen, done]
    | ok a => cases done' : (f a).result <;> simp [bind_def, andThen, done, done'])

theorem bind_of_ok (done : r.result = .ok a) (next : α → Run β) :
    r >>= next = ⟨r.events ++ (next a).events, (next a).result⟩ :=
  andThen_ok done next

theorem bind_of_error (failed : r.result = .error fault) (next : α → Run β) :
    r >>= next = ⟨r.events, .error fault⟩ :=
  andThen_error failed next

theorem bind_pure_eq (r : Run α) (f : α → β) :
    (r >>= fun a => pure (f a)) = ⟨r.events, r.result.map f⟩ := by
  cases done : r.result with
  | ok a => simp [bind_of_ok done, pure, ofResult, Except.map]
  | error fault => simp [bind_of_error done, Except.map]

theorem heard_bind (done : r.result = .ok a) (next : α → Run β) :
    (r >>= next).heard = r.heard ++ (next a).heard := by
  rw [bind_of_ok done]
  exact List.filterMap_append ..

theorem logRecords_bind (done : r.result = .ok a) (next : α → Run β) :
    (r >>= next).logRecords = r.logRecords ++ (next a).logRecords := by
  rw [bind_of_ok done]
  exact List.filterMap_append ..

theorem scopeRequests_bind (done : r.result = .ok a) (next : α → Run β) :
    (r >>= next).scopeRequests = r.scopeRequests + (next a).scopeRequests := by
  rw [bind_of_ok done]
  exact List.countP_append ..

theorem result_mapM (run : α → Run β) (xs : List α) :
    (xs.mapM run).result = xs.mapM fun x => (run x).result := by
  induction xs with
  | nil => rfl
  | cons x xs ih =>
    simp only [List.mapM_cons, result_bind, ih]
    rfl

/-- Whether neither a listener nor the log received anything. -/
def IsSilent (r : Run α) : Prop :=
  r.heard = [] ∧ r.logRecords = []

/-- Whether some texts, and nothing else, were received where the sink sends them. -/
def Tells (r : Run α) (target : Sink) (texts : List String) : Prop :=
  r.heard = (match target with
    | .listener _ => texts
    | _ => []) ∧
  r.logRecords = match target with
    | .log level => texts.map fun text => { level, text }
    | _ => []

@[simp] theorem tells_nil_iff {target : Sink} : r.Tells target [] ↔ r.IsSilent := by
  cases target <;> rfl

theorem isSilent_ofResult (result : Except Fault α) : (ofResult result).IsSilent :=
  ⟨rfl, rfl⟩

/-- Texts told by one run and by what follows it are told one after the other. -/
theorem Tells.append {target : Sink} {texts more : List String} {next : α → Run β}
    (done : r.result = .ok a) (told : r.Tells target texts) (follows : (next a).Tells target more) :
    (r >>= next).Tells target (texts ++ more) := by
  refine ⟨?_, ?_⟩
  · rw [heard_bind done, told.1, follows.1]
    cases target <;> rfl
  · rw [logRecords_bind done, told.2, follows.2]
    cases target <;> simp

theorem Tells.map {target : Sink} {texts : List String} (told : r.Tells target texts) (f : α → β) :
    (r >>= fun a => pure (f a)).Tells target texts := by
  rw [bind_pure_eq]
  exact told

theorem IsSilent.bind {next : α → Run β} (silent : r.IsSilent)
    (others : ∀ a, (next a).IsSilent) : (r >>= next).IsSilent := by
  cases done : r.result with
  | ok a =>
    exact ⟨by rw [heard_bind done, silent.1, (others a).1, List.append_nil],
      by rw [logRecords_bind done, silent.2, (others a).2, List.append_nil]⟩
  | error fault => rwa [bind_of_error done]

end Run

namespace Sink

/-- Which sink serves an evaluation: the one that was passed, unless it is a listener who counts as
false; else the log at the level for debugging, or nothing if the settings say so. -/
inductive Serves (sink : Option Sink) (settings : Option Settings) : Sink → Prop where
  | passed {s : Sink} (given : sink = some s) (counts : ∀ l, s = .listener l → l.truthy = true) :
      Serves sink settings s
  | logged (missing : ∀ s, sink = some s → ∃ l, s = .listener l ∧ l.truthy = false)
      (traced : ∀ s, settings = some s → s.traceEnabled = true) :
      Serves sink settings (.log .debug)
  | dropped (missing : ∀ s, sink = some s → ∃ l, s = .listener l ∧ l.truthy = false)
      (untraced : ∃ s, settings = some s ∧ s.traceEnabled = false) :
      Serves sink settings .discard

variable {sink : Option Sink} {settings : Option Settings} {target : Sink} {text : String}
  {fault : Fault}

theorem orDefault_of_missing
    (missing : ∀ s, sink = some s → ∃ l, s = .listener l ∧ l.truthy = false) (filled : Settings) :
    orDefault sink filled = default filled := by
  cases sink with
  | none => rfl
  | some s =>
    obtain ⟨l, rfl, falsy⟩ := missing s rfl
    simp [orDefault, isTruthy, falsy]

theorem serves_default (missing : ∀ s, sink = some s → ∃ l, s = .listener l ∧ l.truthy = false) :
    Serves sink settings (default (settings.getD {})) := by
  cases settings with
  | none => exact .logged missing (by simp)
  | some s =>
    cases enabled : s.traceEnabled with
    | true => simpa [default, enabled] using Serves.logged missing (by simp [enabled])
    | false => simpa [default, enabled] using Serves.dropped missing ⟨s, rfl, enabled⟩

theorem serves_orDefault (sink : Option Sink) (settings : Option Settings) :
    Serves sink settings (orDefault sink (settings.getD {})) := by
  cases sink with
  | none => exact serves_default (by simp)
  | some s =>
    cases s with
    | listener l =>
      cases truthy : l.truthy with
      | true =>
        have kept : orDefault (some (.listener l)) (settings.getD {}) = .listener l := by
          simp [orDefault, isTruthy, truthy]
        rw [kept]
        exact .passed rfl fun l' same => Sink.listener.inj same ▸ truthy
      | false =>
        have missing : ∀ s, some (Sink.listener l) = some s →
            ∃ l, s = .listener l ∧ l.truthy = false := by
          simp [truthy]
        rw [orDefault_of_missing missing]
        exact serves_default missing
    | log | discard => exact .passed rfl (by rintro l ⟨⟩)

/-- There is always one sink that serves: the one with the defaults filled in. -/
theorem serves_iff : Serves sink settings target ↔ target = orDefault sink (settings.getD {}) := by
  constructor
  · rintro (⟨rfl, counts⟩ | ⟨missing, traced⟩ | ⟨missing, s, rfl, untraced⟩)
    · cases target with
      | listener l => simp [orDefault, isTruthy, counts l rfl]
      | log | discard => rfl
    · rw [orDefault_of_missing missing]
      cases settings with
      | none => rfl
      | some s => simp [default, traced s rfl]
    · rw [orDefault_of_missing missing]
      simp [default, untraced]
  · rintro rfl
    exact serves_orDefault sink settings

/-- A message that is taken is told and nothing else. -/
theorem tells_send (taken : target.answer text = .ok ()) :
    (target.send text).Tells target [text] := by
  cases target with
  | listener l =>
    change l.receive text = .ok () at taken
    rw [send, taken]
    exact ⟨rfl, rfl⟩
  | log | discard => exact ⟨rfl, rfl⟩

/-- Of a message that is refused there is no trace. -/
theorem send_of_refused (refused : target.answer text = .error fault) :
    target.send text = ⟨[], .error fault⟩ := by
  cases target with
  | listener l =>
    change l.receive text = .error fault at refused
    rw [send, refused]
    rfl
  | log | discard => cases refused

@[simp] theorem scopeRequests_send (target : Sink) (text : String) :
    (target.send text).scopeRequests = 0 := by
  cases target with
  | listener l => cases taken : l.receive text <;> simp only [send, taken] <;> rfl
  | log | discard => rfl

end Sink

namespace Rule

variable {kind : Kind} {rule : Rule} {context : Context} {selfRef : Option String}
  {repetition : Option Repetition} {sink : Option Sink} {settings : Option Settings} {target : Sink}
  {references : List Reference} {scope : Scope} {visible : Variables}
  {first second third ds : Diagnostics} {v : Value} {found : Findings} {fault : Fault}

theorem announce_of_error (failed : (announce kind target ds).result = .error fault) :
    announce kind target ds = ⟨[], .error fault⟩ := by
  cases made : ds.err? with
  | error fault' =>
    have ends : announce kind target ds = ⟨[], .error fault'⟩ := by
      simp only [announce, traceMessage?, made, Except.map]
      rfl
    rw [ends] at failed ⊢
    cases failed
    rfl
  | ok report? =>
    rw [announce_of_err? made] at failed ⊢
    cases report? with
    | none => cases failed
    | some report => exact Sink.send_of_refused ((Sink.result_send ..).symm.trans failed)

@[simp] theorem scopeRequests_announce (kind : Kind) (target : Sink) (ds : Diagnostics) :
    (announce kind target ds).scopeRequests = 0 := by
  cases announced : (announce kind target ds).result with
  | error fault =>
    rw [announce_of_error announced]
    rfl
  | ok _ =>
    rw [result_announce] at announced
    obtain ⟨report?, made, -⟩ := bind_eq_ok_iff.1 announced
    rw [announce_of_err? made]
    cases report? with
    | none => rfl
    | some report => exact Sink.scopeRequests_send ..

/-- What a rule has found before its verdict: the visible values, all that was reported, and the
value of its condition. -/
structure Findings where
  visible : Variables
  reports : Diagnostics
  value : Value

/-- What a rule consults: its condition, the context, the scope and the condition again. -/
def consult (rule : Rule) (context : Context) (selfRef : Option String)
    (repetition : Option Repetition) : Run Findings := do
  let (references, first) ← Run.ofResult rule.condition.references
  Run.emit .scopeRequested
  let scope ← Run.ofResult (context.scope selfRef repetition)
  let (visible, second) ← Run.ofResult (scope references)
  let (v, third) ← Run.ofResult (rule.condition.evaluate (some visible))
  return { visible, reports := first ++ second ++ third, value := v }

/-- A rule consults, announces the errors among the reports, and has its outcome. -/
theorem evaluate_eq_consult (kind : Kind) (rule : Rule) (context : Context)
    (selfRef : Option String) (repetition : Option Repetition) (sink : Option Sink)
    (settings : Option Settings) :
    rule.evaluate kind context selfRef repetition sink settings = (do
      let found ← rule.consult context selfRef repetition
      announce kind (Sink.orDefault sink (settings.getD {})) found.reports
      return rule.outcome kind (settings.getD {}) found.visible found.reports found.value) := by
  simp only [evaluate, consult, bind_assoc, pure_bind]

theorem consult_of_returned (analysed : rule.condition.references = .ok (references, first))
    (supplied : context.scope selfRef repetition = .ok scope)
    (seen : scope references = .ok (visible, second))
    (done : rule.condition.evaluate (some visible) = .ok (v, third)) :
    (rule.consult context selfRef repetition).result =
      .ok ⟨visible, first ++ second ++ third, v⟩ := by
  simp only [consult, analysed, supplied, Run.ofResult_ok_bind, seen, done, Run.result_bind,
    Run.result_emit]
  rfl

theorem isSilent_consult (rule : Rule) (context : Context) (selfRef : Option String)
    (repetition : Option Repetition) : (rule.consult context selfRef repetition).IsSilent := by
  refine (Run.isSilent_ofResult _).bind fun _ => Run.IsSilent.bind ⟨rfl, rfl⟩ fun _ => ?_
  refine (Run.isSilent_ofResult _).bind fun _ => (Run.isSilent_ofResult _).bind fun _ => ?_
  exact (Run.isSilent_ofResult _).bind fun _ => Run.isSilent_ofResult _

/-- A rule asks for a scope just when its condition could tell what it needs. -/
theorem scopeRequests_consult (rule : Rule) (context : Context) (selfRef : Option String)
    (repetition : Option Repetition) :
    (rule.consult context selfRef repetition).scopeRequests =
      if rule.condition.traversals.isOk then 1 else 0 := by
  unfold consult Expression.references
  cases rule.condition.traversals with
  | error fault => rfl
  | ok ts =>
    simp only [Except.map, Run.ofResult_ok_bind]
    rw [Run.scopeRequests_bind rfl]
    cases context.scope selfRef repetition with
    | error fault => rfl
    | ok scope =>
      simp only [Run.ofResult_ok_bind]
      cases scope (Reference.analyse ts).1 with
      | error fault => rfl
      | ok shown =>
        simp only [Run.ofResult_ok_bind]
        cases rule.condition.evaluate (some shown.1) <;> rfl

/-- If all that it consults returns, a rule has its outcome unless the errors cannot be announced.
-/
theorem evaluate_of_consult
    (done : (rule.consult context selfRef repetition).result = .ok found) :
    rule.evaluate kind context selfRef repetition sink settings =
      let filled := settings.getD {}
      let announced := announce kind (Sink.orDefault sink filled) found.reports
      ⟨(rule.consult context selfRef repetition).events ++ announced.events,
        announced.result.map fun _ =>
          rule.outcome kind filled found.visible found.reports found.value⟩ := by
  rw [evaluate_eq_consult, Run.bind_of_ok done, Run.bind_pure_eq]

/-- A rule ends with a fault if something that it consults does. -/
theorem evaluate_of_consult_error
    (failed : (rule.consult context selfRef repetition).result = .error fault) :
    rule.evaluate kind context selfRef repetition sink settings =
      ⟨(rule.consult context selfRef repetition).events, .error fault⟩ := by
  rw [evaluate_eq_consult, Run.bind_of_error failed]

/-- When a rule ends with a fault, it has consulted and nothing else was observed. -/
theorem evaluate_of_error
    (failed : (rule.evaluate kind context selfRef repetition sink settings).result =
      .error fault) :
    rule.evaluate kind context selfRef repetition sink settings =
      ⟨(rule.consult context selfRef repetition).events, .error fault⟩ := by
  cases consulted : (rule.consult context selfRef repetition).result with
  | error fault' =>
    rw [evaluate_of_consult_error consulted] at failed ⊢
    cases failed
    rfl
  | ok found =>
    rw [evaluate_of_consult consulted] at failed ⊢
    have refused := map_eq_error_iff.1 failed
    simp [announce_of_error refused, Except.map]

/-- A rule that ends with a fault has told nobody anything. -/
theorem isSilent_of_error
    (failed : (rule.evaluate kind context selfRef repetition sink settings).result =
      .error fault) :
    (rule.evaluate kind context selfRef repetition sink settings).IsSilent := by
  rw [evaluate_of_error failed]
  exact isSilent_consult rule context selfRef repetition

theorem scopeRequests_evaluate :
    (rule.evaluate kind context selfRef repetition sink settings).scopeRequests =
      if rule.condition.traversals.isOk then 1 else 0 := by
  rw [← scopeRequests_consult rule context selfRef repetition]
  cases consulted : (rule.consult context selfRef repetition).result with
  | error fault =>
    rw [evaluate_of_consult_error consulted]
    rfl
  | ok found =>
    rw [evaluate_of_consult consulted, Run.scopeRequests, List.countP_append]
    exact congrArg _ (scopeRequests_announce ..)

end Rule

end StagedChecks
