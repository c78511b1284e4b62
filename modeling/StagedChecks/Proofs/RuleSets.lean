import StagedChecks.Proofs.Observation

/-!
# Sets of rules

A set is evaluated rule by rule: what it reports and what is observed of it are those of its rules,
in order, each evaluated with the same sink and the same settings, given or not. If a rule ends with
a fault, so does the set, at the first such rule; what was observed before stays observed, and
nothing follows.

## Main statements

* `Rule.evaluateAll_append` — the run of two sets together.
* `Rule.events_evaluateAll` — what is observed of rules that all return.
* `Rule.evaluateAll_of_error` — the run of a set up to its first fault.
* `Rule.exists_first_of_error` — a set with a rule that ends with a fault has a first one.
* `Rule.exists_tells_evaluateAll` — all messages go to the sink that is used.
* `Rule.evaluateAll_in_order` — a set is the sequence of its rules.
-/

namespace StagedChecks

namespace Run

variable {α β : Type} {r : Run α} {target : Sink} {texts : List String}

theorem exists_tells_bind {next : α → Run β} (told : ∃ texts, r.Tells target texts)
    (others : ∀ a, ∃ texts, (next a).Tells target texts) :
    ∃ texts, (r >>= next).Tells target texts := by
  obtain ⟨texts, told⟩ := told
  cases done : r.result with
  | error fault =>
    rw [bind_of_error done]
    exact ⟨texts, told⟩
  | ok a =>
    obtain ⟨more, told'⟩ := others a
    exact ⟨texts ++ more, .append done told told'⟩

theorem IsSilent.tells (silent : r.IsSilent) : ∃ texts, r.Tells target texts :=
  ⟨[], tells_nil_iff.2 silent⟩

end Run

namespace Rule

variable {kind : Kind} {rule : Rule} {rules before : List Rule} {context : Context}
  {selfRef : Option String} {repetition : Option Repetition} {sink : Option Sink}
  {settings : Option Settings} {outcomes : List Outcome} {fault : Fault}

/-- The run of two sets together is the run of one and then of the other. -/
theorem evaluateAll_append (earlier later : List Rule) :
    evaluateAll kind (earlier ++ later) context selfRef repetition sink settings = (do
      let first ← evaluateAll kind earlier context selfRef repetition sink settings
      let rest ← evaluateAll kind later context selfRef repetition sink settings
      return first ++ rest) := by
  induction earlier with
  | nil => simp
  | cons rule earlier ih => simp [evaluateAll_cons, ih]

theorem evaluateAll_singleton (rule : Rule) :
    evaluateAll kind [rule] context selfRef repetition sink settings =
      ⟨(rule.evaluate kind context selfRef repetition sink settings).events,
        (rule.evaluate kind context selfRef repetition sink settings).result.map ([·])⟩ := by
  rw [evaluateAll_cons, evaluateAll_nil]
  exact Run.bind_pure_eq ..

/-- Two sets that return are observed one after the other, and so are their outcomes. -/
theorem evaluateAll_append_of_ok {outcomes' : List Outcome} {rules' : List Rule}
    (done : (evaluateAll kind rules context selfRef repetition sink settings).result =
      .ok outcomes)
    (done' : (evaluateAll kind rules' context selfRef repetition sink settings).result =
      .ok outcomes') :
    evaluateAll kind (rules ++ rules') context selfRef repetition sink settings =
      ⟨(evaluateAll kind rules context selfRef repetition sink settings).events ++
        (evaluateAll kind rules' context selfRef repetition sink settings).events,
        .ok (outcomes ++ outcomes')⟩ := by
  rw [evaluateAll_append, Run.bind_of_ok done, Run.bind_pure_eq, done']
  rfl

/-- Of rules that all return is observed what is observed of each. -/
theorem events_evaluateAll
    (each : ∀ rule ∈ rules, ∃ outcome,
      (rule.evaluate kind context selfRef repetition sink settings).result = .ok outcome) :
    (evaluateAll kind rules context selfRef repetition sink settings).events =
      rules.flatMap fun rule =>
        (rule.evaluate kind context selfRef repetition sink settings).events := by
  induction rules with
  | nil => rfl
  | cons rule rest ih =>
    obtain ⟨outcome, done⟩ := each rule (List.mem_cons_self ..)
    have others := ih fun rule' member => each rule' (List.mem_cons_of_mem _ member)
    rw [evaluateAll_cons, Run.bind_of_ok done, Run.bind_pure_eq, others, List.flatMap_cons]

theorem heard_evaluateAll
    (each : ∀ rule ∈ rules, ∃ outcome,
      (rule.evaluate kind context selfRef repetition sink settings).result = .ok outcome) :
    (evaluateAll kind rules context selfRef repetition sink settings).heard =
      rules.flatMap fun rule =>
        (rule.evaluate kind context selfRef repetition sink settings).heard := by
  rw [Run.heard, events_evaluateAll each, List.filterMap_flatMap]
  rfl

theorem logRecords_evaluateAll
    (each : ∀ rule ∈ rules, ∃ outcome,
      (rule.evaluate kind context selfRef repetition sink settings).result = .ok outcome) :
    (evaluateAll kind rules context selfRef repetition sink settings).logRecords =
      rules.flatMap fun rule =>
        (rule.evaluate kind context selfRef repetition sink settings).logRecords := by
  rw [Run.logRecords, events_evaluateAll each, List.filterMap_flatMap]
  rfl

/-- A rule that returns asked for one scope. -/
theorem scopeRequests_of_ok {o : Outcome}
    (done : (rule.evaluate kind context selfRef repetition sink settings).result = .ok o) :
    (rule.evaluate kind context selfRef repetition sink settings).scopeRequests = 1 := by
  obtain ⟨references, first, -, -, -, -, -, analysed, -⟩ := evaluate_eq_ok_iff.1 done
  obtain ⟨ts, named, -⟩ := map_eq_ok_iff.1 analysed
  rw [scopeRequests_evaluate, named]
  rfl

theorem scopeRequests_evaluateAll
    (each : ∀ rule ∈ rules, ∃ outcome,
      (rule.evaluate kind context selfRef repetition sink settings).result = .ok outcome) :
    (evaluateAll kind rules context selfRef repetition sink settings).scopeRequests =
      rules.length := by
  have once : ∀ rule ∈ rules,
      (rule.evaluate kind context selfRef repetition sink settings).scopeRequests = 1 := by
    intro rule member
    obtain ⟨outcome, done⟩ := each rule member
    exact scopeRequests_of_ok done
  calc (evaluateAll kind rules context selfRef repetition sink settings).scopeRequests
      = (rules.map fun rule =>
          (rule.evaluate kind context selfRef repetition sink settings).scopeRequests).sum := by
        rw [Run.scopeRequests, events_evaluateAll each, List.countP_flatMap]
        rfl
    _ = (rules.map fun _ => 1).sum := by rw [List.map_congr_left once]
    _ = rules.length := by simp [List.map_const']

/-- A set goes on to its first fault, and ends there whatever rules follow. -/
theorem evaluateAll_of_error
    (each : ∀ earlier ∈ before, ∃ outcome,
      (earlier.evaluate kind context selfRef repetition sink settings).result = .ok outcome)
    (failed : (rule.evaluate kind context selfRef repetition sink settings).result =
      .error fault) (after : List Rule) :
    evaluateAll kind (before ++ rule :: after) context selfRef repetition sink settings =
      ⟨(evaluateAll kind before context selfRef repetition sink settings).events ++
        (rule.evaluate kind context selfRef repetition sink settings).events, .error fault⟩ := by
  obtain ⟨outcomes, ran⟩ := exists_evaluateAll_iff.2 each
  rw [evaluateAll_append, Run.bind_of_ok ran, evaluateAll_cons, Run.bind_of_error failed]
  rfl

theorem told_of_error
    (each : ∀ earlier ∈ before, ∃ outcome,
      (earlier.evaluate kind context selfRef repetition sink settings).result = .ok outcome)
    (failed : (rule.evaluate kind context selfRef repetition sink settings).result =
      .error fault) (after : List Rule) :
    let all (rules : List Rule) := evaluateAll kind rules context selfRef repetition sink settings
    (all (before ++ rule :: after)).heard = (all before).heard ∧
      (all (before ++ rule :: after)).logRecords = (all before).logRecords := by
  intro all
  obtain ⟨heard, logged⟩ := isSilent_of_error failed
  have run : all (before ++ rule :: after) = _ := evaluateAll_of_error each failed after
  constructor
  · rw [run, ← List.append_nil (all before).heard, ← heard]
    exact List.filterMap_append ..
  · rw [run, ← List.append_nil (all before).logRecords, ← logged]
    exact List.filterMap_append ..

theorem scopeRequests_evaluateAll_of_error
    (each : ∀ earlier ∈ before, ∃ outcome,
      (earlier.evaluate kind context selfRef repetition sink settings).result = .ok outcome)
    (failed : (rule.evaluate kind context selfRef repetition sink settings).result =
      .error fault) (after : List Rule) :
    (evaluateAll kind (before ++ rule :: after) context selfRef repetition sink
        settings).scopeRequests =
      before.length + if rule.condition.traversals.isOk then 1 else 0 := by
  rw [evaluateAll_of_error each failed, ← scopeRequests_evaluateAll each,
    ← @scopeRequests_evaluate kind rule context selfRef repetition sink settings]
  exact List.countP_append ..

/-- Among rules of which one ends with a fault, there is a first one that does. -/
theorem exists_first_of_error
    (failed : ∃ rule ∈ rules, ∃ fault,
      (rule.evaluate kind context selfRef repetition sink settings).result = .error fault) :
    ∃ before rule after fault, rules = before ++ rule :: after ∧
      (∀ earlier ∈ before, ∃ outcome,
        (earlier.evaluate kind context selfRef repetition sink settings).result =
          .ok outcome) ∧
      (rule.evaluate kind context selfRef repetition sink settings).result = .error fault := by
  induction rules with
  | nil => simp at failed
  | cons rule rest ih =>
    cases done : (rule.evaluate kind context selfRef repetition sink settings).result with
    | error fault => exact ⟨[], rule, rest, fault, rfl, by simp, done⟩
    | ok outcome =>
      obtain ⟨before, first, after, fault, rfl, each, failed⟩ := ih (by simpa [done] using failed)
      refine ⟨rule :: before, first, after, fault, rfl, ?_, failed⟩
      exact List.forall_mem_cons.2 ⟨⟨outcome, done⟩, each⟩

theorem exists_tells_announce (kind : Kind) (target : Sink) (ds : Diagnostics) :
    ∃ texts, (announce kind target ds).Tells target texts := by
  cases announced : (announce kind target ds).result with
  | error fault =>
    rw [announce_of_error announced]
    exact Run.IsSilent.tells ⟨rfl, rfl⟩
  | ok _ =>
    rw [result_announce] at announced
    obtain ⟨report?, made, answered⟩ := bind_eq_ok_iff.1 announced
    rw [announce_of_err? made]
    cases report? with
    | none => exact Run.IsSilent.tells ⟨rfl, rfl⟩
    | some report => exact ⟨_, Sink.tells_send answered⟩

theorem exists_tells_evaluate (rule : Rule) :
    ∃ texts, (rule.evaluate kind context selfRef repetition sink settings).Tells
      (Sink.orDefault sink (settings.getD {})) texts := by
  rw [evaluate_eq_consult]
  refine Run.exists_tells_bind (isSilent_consult ..).tells fun found => ?_
  exact Run.exists_tells_bind (exists_tells_announce ..) fun _ => (Run.isSilent_ofResult _).tells

/-- All messages about a set go to the sink that is used. -/
theorem exists_tells_evaluateAll (rules : List Rule) :
    ∃ texts, (evaluateAll kind rules context selfRef repetition sink settings).Tells
      (Sink.orDefault sink (settings.getD {})) texts := by
  induction rules with
  | nil => exact (Run.isSilent_ofResult _).tells
  | cons rule rest ih =>
    rw [evaluateAll_cons]
    refine Run.exists_tells_bind (exists_tells_evaluate rule) fun outcome => ?_
    exact Run.exists_tells_bind ih fun _ => (Run.isSilent_ofResult _).tells

end Rule

end StagedChecks
