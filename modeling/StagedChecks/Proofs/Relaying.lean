import StagedChecks.Proofs.Observation

/-!
# Runs told again to another sink

A run that was heard by a listener who takes everything can be told again to another sink: what the
listener heard is sent on, and the run is cut at the first message that is refused. Telling again
goes along with sequencing, so the evaluation of rules with any sink is the evaluation with such a
listener told again. All that a sink can do to a run is therefore to end it early.

## Main definitions

* `Sink.relay` — a run told again.
* `Rule.inform`, `Rule.informAll` — what rules do before their verdicts.

## Main statements

* `Sink.relay_bind` — sequences are told again step by step.
* `Sink.relay_of_taken`, `Sink.relay_of_refused` — what comes of a run that is told again.
* `Rule.evaluateAll_eq_inform` — the settings only shape the outcomes.
* `Rule.informAll_eq_relay` — every sink is told what a listener hears.
-/

namespace StagedChecks

namespace Sink

variable {α β : Type} {sink : Sink} {r : Run α} {text : String} {earlier later : List String}
  {fault : Fault}

/-- Tells one step of a run: what a listener heard is sent, and all else is repeated. -/
def pass (sink : Sink) : Event → Run Unit
  | .message .listener text => sink.send text
  | event => Run.emit event

/-- A run told again to a sink. -/
def relay (sink : Sink) (r : Run α) : Run α := do
  r.events.forM sink.pass
  Run.ofResult r.result

theorem relay_cons (sink : Sink) (event : Event) (events : List Event) (result : Except Fault α) :
    sink.relay ⟨event :: events, result⟩ =
      sink.pass event >>= fun _ => sink.relay ⟨events, result⟩ := by
  simp [relay, List.forM_cons, bind_assoc]

theorem relay_bind (sink : Sink) (r : Run α) (next : α → Run β) :
    sink.relay (r >>= next) = sink.relay r >>= fun a => sink.relay (next a) := by
  cases done : r.result with
  | ok a =>
    simp [Run.bind_of_ok done, relay, done, List.forM_append, bind_assoc, Run.ofResult_ok_bind]
  | error fault =>
    simp only [Run.bind_of_error done, relay, done, bind_assoc]
    rfl

/-- A silent run is the same for every sink. -/
theorem relay_of_silent (silent : r.IsSilent) : sink.relay r = r := by
  obtain ⟨events, result⟩ := r
  induction events with
  | nil => rfl
  | cons event events ih =>
    cases event with
    | scopeRequested =>
      rw [relay_cons, ih silent]
      rfl
    | message channel text =>
      cases channel with
      | listener => exact absurd silent.1 (by simp [Run.heard])
      | log level => exact absurd silent.2 (by simp [Run.logRecords])

theorem relay_send (sink : Sink) (text : String) :
    sink.relay ((listener {}).send text) = sink.send text := by
  change sink.relay ⟨[.message .listener text], .ok ()⟩ = sink.send text
  rw [relay_cons]
  exact bind_pure (sink.send text)

theorem relay_mapM (sink : Sink) (run : α → Run β) (xs : List α) :
    sink.relay (xs.mapM run) = xs.mapM fun x => sink.relay (run x) := by
  induction xs with
  | nil => rfl
  | cons x xs ih =>
    simp only [List.mapM_cons, relay_bind, ih]
    rfl

/-- If a sink takes all messages, the run comes to the same, and they are told to that sink. -/
theorem relay_of_taken (unlogged : r.logRecords = [])
    (taken : ∀ text ∈ r.heard, sink.answer text = .ok ()) :
    (sink.relay r).result = r.result ∧ (sink.relay r).Tells sink r.heard := by
  obtain ⟨events, result⟩ := r
  induction events with
  | nil => exact ⟨rfl, Run.tells_nil_iff.2 (Run.isSilent_ofResult result)⟩
  | cons event events ih =>
    cases event with
    | scopeRequested =>
      obtain ⟨same, told⟩ := ih unlogged taken
      rw [relay_cons, Run.result_bind]
      refine ⟨same, ?_⟩
      exact .append (r := Run.emit _) rfl (Run.tells_nil_iff.2 ⟨rfl, rfl⟩) told
    | message channel text =>
      cases channel with
      | listener =>
        obtain ⟨here, rest⟩ := List.forall_mem_cons.1 taken
        obtain ⟨same, told⟩ := ih unlogged rest
        have sent : (sink.send text).result = .ok () := (result_send ..).trans here
        rw [relay_cons, pass, Run.result_bind, sent]
        exact ⟨same, .append sent (tells_send here) told⟩
      | log level => exact absurd unlogged (by simp [Run.logRecords])

/-- If a sink refuses a message, the run ends with the fault of that, and only the messages before
were told. -/
theorem relay_of_refused (unlogged : r.logRecords = []) (said : r.heard = earlier ++ text :: later)
    (taken : ∀ text ∈ earlier, sink.answer text = .ok ())
    (refused : sink.answer text = .error fault) :
    (sink.relay r).result = .error fault ∧ (sink.relay r).Tells sink earlier := by
  obtain ⟨events, result⟩ := r
  induction events generalizing earlier with
  | nil => cases earlier <;> cases said
  | cons event events ih =>
    cases event with
    | scopeRequested =>
      obtain ⟨ended, told⟩ := ih taken unlogged said
      rw [relay_cons, Run.result_bind]
      refine ⟨ended, ?_⟩
      exact .append (r := Run.emit _) rfl (Run.tells_nil_iff.2 ⟨rfl, rfl⟩) told
    | message channel other =>
      cases channel with
      | listener =>
        rw [relay_cons, pass]
        cases earlier with
        | nil =>
          cases (List.cons.inj said).1
          rw [send_of_refused refused]
          exact ⟨rfl, Run.tells_nil_iff.2 ⟨rfl, rfl⟩⟩
        | cons first earlier =>
          obtain ⟨same, others⟩ := List.cons.inj said
          cases same
          obtain ⟨here, rest⟩ := List.forall_mem_cons.1 taken
          obtain ⟨ended, told⟩ := ih rest unlogged others
          have sent : (sink.send other).result = .ok () := (result_send ..).trans here
          rw [Run.result_bind, sent]
          exact ⟨ended, .append sent (tells_send here) told⟩
      | log level => exact absurd unlogged (by simp [Run.logRecords])

end Sink

namespace Rule

variable {kind : Kind} {rule : Rule} {rules : List Rule} {context : Context}
  {selfRef : Option String} {repetition : Option Repetition} {sink : Option Sink}
  {settings : Option Settings}

/-- What a rule does before its verdict: it consults, and announces the errors that it found. -/
def inform (rule : Rule) (kind : Kind) (target : Sink) (context : Context)
    (selfRef : Option String) (repetition : Option Repetition) : Run Findings := do
  let found ← rule.consult context selfRef repetition
  announce kind target found.reports
  return found

def informAll (kind : Kind) (rules : List Rule) (target : Sink) (context : Context)
    (selfRef : Option String) (repetition : Option Repetition) : Run (List Findings) :=
  rules.mapM fun rule => rule.inform kind target context selfRef repetition

/-- The settings decide which sink is used if none is passed, and shape the outcome. -/
theorem evaluate_eq_inform (kind : Kind) (rule : Rule) (context : Context)
    (selfRef : Option String) (repetition : Option Repetition) (sink : Option Sink)
    (settings : Option Settings) :
    rule.evaluate kind context selfRef repetition sink settings = (do
      let found ← rule.inform kind (Sink.orDefault sink (settings.getD {})) context selfRef
        repetition
      return rule.outcome kind (settings.getD {}) found.visible found.reports found.value) := by
  simp only [evaluate_eq_consult, inform, bind_assoc, pure_bind]

theorem evaluateAll_eq_inform (kind : Kind) (rules : List Rule) (context : Context)
    (selfRef : Option String) (repetition : Option Repetition) (sink : Option Sink)
    (settings : Option Settings) :
    evaluateAll kind rules context selfRef repetition sink settings = (do
      let findings ← informAll kind rules (Sink.orDefault sink (settings.getD {})) context selfRef
        repetition
      return List.zipWith (fun rule found =>
        rule.outcome kind (settings.getD {}) found.visible found.reports found.value)
        rules findings) := by
  induction rules with
  | nil => rfl
  | cons rule rest ih =>
    simp only [evaluateAll_cons, evaluate_eq_inform, ih, informAll, List.mapM_cons, bind_assoc,
      pure_bind, List.zipWith_cons_cons]

theorem relay_announce (kind : Kind) (target : Sink) (ds : Diagnostics) :
    target.relay (announce kind (.listener {}) ds) = announce kind target ds := by
  cases made : ds.err? with
  | error fault =>
    simp only [announce, traceMessage?, made, Except.map]
    rfl
  | ok report? =>
    rw [announce_of_err? made, announce_of_err? made]
    cases report? with
    | none => rfl
    | some report => exact Sink.relay_send ..

theorem inform_eq_relay (rule : Rule) (kind : Kind) (target : Sink) (context : Context)
    (selfRef : Option String) (repetition : Option Repetition) :
    rule.inform kind target context selfRef repetition =
      target.relay (rule.inform kind (.listener {}) context selfRef repetition) := by
  simp only [inform, Sink.relay_bind, Sink.relay_of_silent (isSilent_consult ..), relay_announce]
  rfl

/-- Every sink is told what a listener hears who takes everything. -/
theorem informAll_eq_relay (kind : Kind) (rules : List Rule) (target : Sink) (context : Context)
    (selfRef : Option String) (repetition : Option Repetition) :
    informAll kind rules target context selfRef repetition =
      target.relay (informAll kind rules (.listener {}) context selfRef repetition) := by
  rw [informAll, informAll, Sink.relay_mapM]
  simp only [← inform_eq_relay]

end Rule

end StagedChecks
