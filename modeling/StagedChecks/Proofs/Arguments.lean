import StagedChecks.Proofs.Calls
import StagedChecks.Proofs.Faults
import StagedChecks.Proofs.WellFormed

/-!
# What the functions of rules are given

The function of a condition is given the contents of the values that its arguments are resolved to.
Whether an argument is known is a matter of that value alone. So a function is never given a value
as such, and never called for an argument that is unknown; but what stands inside a collection is
handed on as the data has it, be it a pending value. Nothing is handed on at any depth that was not
in the data before.

## Main definitions

* `Bindings.Gives` — whether a traversal is resolved to a known value with some content.
* `Rule.withFunction` — a rule with another function in its condition.
* `Rule.Calls` — whether the evaluation of a rule calls its function with some data.

## Main statements

* `Bindings.Gives.content` — what is known of the data that an argument gives.
* `Rule.calls_iff` — what the function of a rule is called with.
* `Rule.arguments_of_call` — what is known of the arguments that it is called with.
-/

namespace StagedChecks

namespace Value

variable {v : Value}

/-- The content of a well-formed value is no value itself. -/
theorem IsWellFormed.raw_ne_toData (sound : v.IsWellFormed) (w : Value) : v.raw ≠ w.toData := by
  intro same
  rcases isWellFormed_iff.1 sound with ⟨-, empty⟩ | ⟨-, named, -⟩
  · rw [empty] at same
    cases same
  · rw [same] at named
    cases named

theorem IsWellFormed.raw_eq_null (sound : v.IsWellFormed) (null : v.isNull = true) :
    v.raw = .null := by
  rcases isWellFormed_iff.1 sound with ⟨-, empty⟩ | ⟨known, -⟩
  · exact empty
  · simp [isNull, known] at null

end Value

/-- Arguments that give their contents are visible and known. -/
theorem Expression.know_of_given {visible : Variables} {arguments : List String}
    {given : List Data} (gives : List.Forall₂ (Expression.Gives (some visible)) arguments given) :
    visible.Know arguments := by
  induction gives with
  | nil => exact fun t used => absurd used List.not_mem_nil
  | cons here _ ih =>
    obtain ⟨v, ⟨table, same, found⟩, known, -⟩ := here
    cases same
    exact List.forall_mem_cons.2 ⟨⟨v, found, Expression.isKnown_iff.2 known⟩, ih⟩

namespace Bindings

variable {b : Bindings} {selfRef : Option String} {repetition : Repetition}
  {arguments : List String} {given : List Data} {visible : Variables} {reports : Diagnostics}
  {t : String} {d : Data}

/-- Whether a traversal is resolved to a value that is known and has some data as its content. -/
def Gives (b : Bindings) (selfRef : Option String) (repetition : Repetition) (t : String)
    (d : Data) : Prop :=
  ∃ r v, Reference.parse t = .ok r ∧ b.resolve selfRef repetition r = .ok (v, []) ∧
    v.isKnown = true ∧ v.raw = d

/-- What a visible argument gives is what its traversal is resolved to. -/
theorem gives_of_scope_iff
    (seen : b.scope selfRef repetition (Reference.analyse arguments).1 = .ok (visible, reports))
    (used : t ∈ arguments) :
    Expression.Gives (some visible) t d ↔ b.Gives selfRef repetition t d := by
  have shown (v : Value) : Expression.lookup (some visible) t = some v ↔
      ∃ r found, Reference.parse t = .ok r ∧ b.resolve selfRef repetition r = .ok (v, found) :=
    (get?_of_scope seen).trans (and_iff_right used)
  constructor
  · rintro ⟨v, here, known, content⟩
    have known := Expression.isKnown_iff.2 known
    obtain ⟨r, found, read, done⟩ := (shown v).1 (Expression.lookup_eq_some_iff.2 here)
    obtain ⟨rfl, -⟩ := (resolve_eq_ok_known_iff known).1 done
    exact ⟨r, v, read, done, known, content⟩
  · rintro ⟨r, v, read, done, known, content⟩
    exact ⟨v, Expression.lookup_eq_some_iff.1 ((shown v).2 ⟨r, [], read, done⟩),
      Expression.isKnown_iff.1 known, content⟩

theorem given_of_scope_iff
    (seen : b.scope selfRef repetition (Reference.analyse arguments).1 = .ok (visible, reports)) :
    List.Forall₂ (Expression.Gives (some visible)) arguments given ↔
      List.Forall₂ (b.Gives selfRef repetition) arguments given := by
  constructor
  · intro gives
    exact ((List.forall₂_and_left _ _).2 ⟨fun t used => used, gives⟩).imp
      fun t d here => (gives_of_scope_iff seen here.1).1 here.2
  · intro gives
    exact ((List.forall₂_and_left _ _).2 ⟨fun t used => used, gives⟩).imp
      fun t d here => (gives_of_scope_iff seen here.1).2 here.2

theorem gives_of_mem (gives : List.Forall₂ (b.Gives selfRef repetition) arguments given)
    (used : t ∈ arguments) : ∃ d, b.Gives selfRef repetition t d := by
  have each : List.Forall₂ (fun t d => (∃ d, b.Gives selfRef repetition t d) ∧
      b.Gives selfRef repetition t d) arguments given :=
    gives.imp fun t d here => ⟨⟨d, here⟩, here⟩
  exact ((List.forall₂_and_left _ _).1 each).1 t used

/-- Where all arguments are resolved there is a scope for them. -/
theorem scope_of_given (gives : List.Forall₂ (b.Gives selfRef repetition) arguments given) :
    ∃ visible reports,
      b.scope selfRef repetition (Reference.analyse arguments).1 = .ok (visible, reports) := by
  obtain ⟨⟨visible, reports⟩, seen⟩ := scope_returns_iff.2 fun r member => by
    obtain ⟨t, used, read⟩ := Reference.mem_analyse_iff.1 member
    obtain ⟨d, r', v, read', done, -⟩ := gives_of_mem gives used
    cases read.symm.trans read'
    exact ⟨_, done⟩
  exact ⟨visible, reports, seen⟩

/-- At no depth an argument gives what the data of its subject does not hold. If that data stands
for a well-formed value, the argument gives no value itself, and null for null; and if no value is
inside the data, it gives plain data. -/
theorem Gives.content (gives : b.Gives selfRef repetition t d) :
    ∃ r e v, Reference.parse t = .ok r ∧ b.origin? selfRef repetition r.subject = some e ∧
      b.resolve selfRef repetition r = .ok (v, []) ∧ v.isKnown = true ∧ v.raw = d ∧
      (∀ p, (Value.wrap e).raw.everywhere p = true → d.everywhere p = true) ∧
      ((Value.wrap e).IsWellFormed →
        (∀ w : Value, d ≠ w.toData) ∧ (v.isNull = true → d = .null) ∧
        ((Value.wrap e).raw.embedded = [] → d.everywhere Data.isPlain = true)) := by
  obtain ⟨r, v, read, done, known, rfl⟩ := gives
  obtain ⟨-, e, origin, -, way⟩ := (resolve_eq_ok_known_iff known).1 done
  refine ⟨r, e, v, read, origin, done, known, rfl, fun p => way.everywhere_raw, fun sound => ?_⟩
  have reached : v.IsWellFormed := way.isWellFormed sound
  refine ⟨reached.raw_ne_toData, reached.raw_eq_null, fun none_ => ?_⟩
  have accepted : (Value.wrap e).raw.firstForeign? = none :=
    ((Data.isSound_everywhere_iff _).1 (Value.isWellFormed_iff_isSound.1 sound).2).1
  exact way.everywhere_raw ((Data.isPlain_everywhere_iff _).2 ⟨accepted, none_⟩)

end Bindings

namespace Rule

variable {rule : Rule} {kind : Kind} {b : Bindings} {selfRef : Option String}
  {repetition : Option Repetition} {sink : Option Sink} {settings : Option Settings}
  {function f : Function} {arguments : List String} {name : String} {range : Source.Range}
  {given : List Data}

/-- A rule with another function in its condition, if that is a call. -/
def withFunction (rule : Rule) (f : Function) : Rule :=
  match rule.condition with
  | .call _ arguments name range => { rule with condition := .call f arguments name range }
  | _ => rule

/-- Whether the evaluation of a rule calls the function of its condition with some data, so that the
verdict hangs on the answer. -/
def Calls (rule : Rule) (kind : Kind) (b : Bindings) (selfRef : Option String)
    (repetition : Option Repetition) (sink : Option Sink)
    (settings : Option Settings) (given : List Data) : Prop :=
  Function.IsConsulted (fun f => ((rule.withFunction f).evaluate kind b.toContext selfRef repetition
    sink settings).result.map (·.verdict)) given

theorem withFunction_of_call (condition : rule.condition = .call function arguments name range)
    (f : Function) :
    rule.withFunction f = { rule with condition := .call f arguments name range } := by
  simp [withFunction, condition]

/-- The verdict on a call is that on the value of the call where its arguments are visible, if the
errors could be announced. -/
theorem verdict_of_call (condition : rule.condition = .call function arguments name range)
    (f : Function) :
    ((rule.withFunction f).evaluate kind b.toContext selfRef repetition sink
        settings).result.map (·.verdict) = (do
      let (visible, second) ←
        b.scope selfRef (repetition.getD {}) (Reference.analyse arguments).1
      let (v, third) ← Expression.evaluateCall f arguments name range (some visible)
      (announce kind (Sink.orDefault sink (settings.getD {}))
        ((Reference.analyse arguments).2 ++ second ++ third)).result
      return (judge kind rule.errorMessage v).1) := by
  rw [withFunction_of_call condition]
  simp only [evaluate, Run.result_bind, Run.result_ofResult, Run.result_emit, Run.result_pure,
    Bindings.toContext, Expression.references, Expression.traversals, Expression.evaluate]
  simp only [Except.map, bind, Except.bind]
  cases b.scope selfRef (repetition.getD {}) (Reference.analyse arguments).1 with
  | error fault => rfl
  | ok seen =>
    simp only []
    cases Expression.evaluateCall f arguments name range (some seen.1) with
    | error fault => rfl
    | ok answer =>
      simp only []
      cases (announce kind (Sink.orDefault sink (settings.getD {}))
        ((Reference.analyse arguments).2 ++ seen.2 ++ answer.2)).result <;> rfl

/-- If all arguments are visible and known, the verdict on a call is that on what the function
answers. -/
theorem verdict_of_given {visible : Variables} {reports : Diagnostics} {d : Data}
    (condition : rule.condition = .call function arguments name range)
    (seen : b.scope selfRef (repetition.getD {}) (Reference.analyse arguments).1 =
      .ok (visible, reports))
    (gives : List.Forall₂ (Expression.Gives (some visible)) arguments given)
    (answered : f given = .ok d) (accepted : Value.ofData d = .ok (.wrap d)) :
    ((rule.withFunction f).evaluate kind b.toContext selfRef repetition sink
        settings).result.map (·.verdict) =
      .ok (judge kind rule.errorMessage (.wrap d)).1 := by
  obtain ⟨first, rfl, -⟩ := Bindings.silent_of_visible seen (Expression.know_of_given gives)
  have called : Expression.evaluateCall f arguments name range (some visible) =
      .ok (.wrap d, []) := by
    rw [Expression.evaluateCall_of_given gives,
      Expression.apply_eq_ok_iff.2 ⟨d, answered, accepted⟩]
  have silent : announce kind (Sink.orDefault sink (settings.getD {})) [] = pure () :=
    announce_of_silent rfl
  simp only [verdict_of_call condition, seen, called, first, bind, Except.bind]
  rw [List.append_nil, List.append_nil, silent]
  rfl

/-- The function of a rule is called with what the arguments are resolved to, if all of them are
known, and with nothing else. -/
theorem calls_iff (condition : rule.condition = .call function arguments name range) :
    rule.Calls kind b selfRef repetition sink settings given ↔
      List.Forall₂ (b.Gives selfRef (repetition.getD {})) arguments given := by
  constructor
  · rintro ⟨f, g, alike, different⟩
    by_contra other
    apply different
    cases seen : b.scope selfRef (repetition.getD {}) (Reference.analyse arguments).1 with
    | error fault =>
      simp only [verdict_of_call condition, seen]
      rfl
    | ok shown =>
      have same : Expression.evaluateCall f arguments name range (some shown.1) =
          Expression.evaluateCall g arguments name range (some shown.1) := by
        refine Expression.evaluateCall_congr fun given' gives => alike given' ?_
        rintro rfl
        exact other ((Bindings.given_of_scope_iff seen).1 gives)
      simp only [verdict_of_call condition, seen, bind, Except.bind, same]
  · intro gives
    obtain ⟨visible, reports, seen⟩ := Bindings.scope_of_given gives
    obtain ⟨f, g, alike, yes, no⟩ := Function.exists_differing_at given
    refine ⟨f, g, alike, ?_⟩
    have visibly := (Bindings.given_of_scope_iff seen).2 gives
    have accepted (answer : Bool) : Value.ofData (.bool answer) = .ok (.wrap (.bool answer)) := rfl
    simp only [verdict_of_given condition seen visibly yes (accepted true),
      verdict_of_given condition seen visibly no (accepted false)]
    intro same
    cases same

/-- A function that is not called leaves nothing known. -/
theorem verdict_of_not_calls {outcome : Outcome}
    (condition : rule.condition = .call function arguments name range)
    (uncalled : ∀ given, ¬ rule.Calls kind b selfRef repetition sink settings given)
    (done : ((rule.withFunction f).evaluate kind b.toContext selfRef repetition sink
      settings).result = .ok outcome) : outcome.verdict = .unknown := by
  have verdict := congrArg (Except.map Outcome.verdict) done
  rw [verdict_of_call condition] at verdict
  obtain ⟨⟨visible, reports⟩, seen, verdict⟩ := bind_eq_ok_iff.1 verdict
  obtain ⟨⟨v, third⟩, called, verdict⟩ := bind_eq_ok_iff.1 verdict
  obtain ⟨-, -, same⟩ := bind_eq_ok_iff.1 verdict
  rcases Expression.withheld_or_given (some visible) arguments with withheld | ⟨given, gives⟩
  · rw [Expression.evaluateCall_of_withheld withheld] at called
    cases called
    exact (Except.ok.inj same).symm
  · exact absurd ((calls_iff condition).2 ((Bindings.given_of_scope_iff seen).1 gives))
      (uncalled given)

/-- The function of a rule is called just when all arguments are resolved to known values, with the
contents of these. Whether an argument is known is a matter of the value that it is resolved to: if
that is unknown, the function is not called and the condition is unknown too. At no depth there is
anything in what the function is called with that the data of the subject does not hold. If that
data stands for a well-formed value, no argument is a value itself, a null argument is seen as null,
and the argument is plain if no value is inside the data. -/
theorem arguments_of_call (condition : rule.condition = .call function arguments name range) :
    (∀ given, rule.Calls kind b selfRef repetition sink settings given ↔
      List.Forall₂ (b.Gives selfRef (repetition.getD {})) arguments given) ∧
    ((∃ t ∈ arguments, ∃ r v reports, Reference.parse t = .ok r ∧
        b.resolve selfRef (repetition.getD {}) r = .ok (v, reports) ∧ v.isKnown = false) →
      (∀ given, ¬ rule.Calls kind b selfRef repetition sink settings given) ∧
      ∀ f outcome, ((rule.withFunction f).evaluate kind b.toContext selfRef repetition sink
        settings).result = .ok outcome → outcome.verdict = .unknown) ∧
    ∀ given, rule.Calls kind b selfRef repetition sink settings given →
      List.Forall₂ (fun t d => ∃ r e v, Reference.parse t = .ok r ∧
        b.origin? selfRef (repetition.getD {}) r.subject = some e ∧
        b.resolve selfRef (repetition.getD {}) r = .ok (v, []) ∧ v.isKnown = true ∧ v.raw = d ∧
        (∀ p, (Value.wrap e).raw.everywhere p = true → d.everywhere p = true) ∧
        ((Value.wrap e).IsWellFormed →
          (∀ w : Value, d ≠ w.toData) ∧ (v.isNull = true → d = .null) ∧
          ((Value.wrap e).raw.embedded = [] → d.everywhere Data.isPlain = true)))
        arguments given := by
  refine ⟨fun given => calls_iff condition, ?_, fun given calls => ?_⟩
  · rintro ⟨t, used, r, v, reports, read, resolved, pending⟩
    have uncalled : ∀ given, ¬ rule.Calls kind b selfRef repetition sink settings given := by
      intro given calls
      obtain ⟨d, r', v', read', resolved', known, -⟩ :=
        Bindings.gives_of_mem ((calls_iff condition).1 calls) used
      cases read.symm.trans read'
      cases resolved.symm.trans resolved'
      simp [known] at pending
    exact ⟨uncalled, fun f outcome => verdict_of_not_calls condition uncalled⟩
  · exact ((calls_iff condition).1 calls).imp fun t d gives => gives.content

/-- A pending item of a list is handed on inside the list, and a null beside the list as null. The
same item keeps a function from being called when it is an argument itself. -/
theorem arguments_of_call_nested :
    let net : Data := .object [("id", Value.null.toData), ("zones", .list [Value.unknown.toData])]
    let each : Repetition := { countIndex := .int 0 }
    let zones : Data := .tuple [Value.unknown.toData]
    let inside : Rule := ⟨.call Functions.isNull ["var.net.id", "var.net.zones", "count.index"]
      "is_null" {}, "must have no id", none⟩
    let itself : Rule := ⟨.call Functions.isNull ["var.net.zones.0"] "is_null" {},
      "must have no zone", none⟩
    let b : Bindings := ⟨[("var.net", .wrap net)], []⟩
    Bindings.progress [("var.net", .null)] [] [[("var.net", net)]] = .ok b ∧
      inside.Calls .outputPrecondition b none each none none [.null, zones, .int 0] ∧
      (∀ w : Value, zones ≠ w.toData) ∧
      ∀ given, ¬ itself.Calls .outputPrecondition b none each none none given := by
  intro net each zones inside itself b
  obtain ⟨calls, -, contents⟩ :=
    @arguments_of_call inside .outputPrecondition b none each none none _ _ _ _ rfl
  obtain ⟨-, pending, -⟩ :=
    @arguments_of_call itself .outputPrecondition b none each none none _ _ _ _ rfl
  have called := (calls [.null, zones, .int 0]).2
    (.cons ⟨_, _, rfl, rfl, rfl, rfl⟩
      (.cons ⟨_, _, rfl, rfl, rfl, rfl⟩ (.cons ⟨_, _, rfl, rfl, rfl, rfl⟩ .nil)))
  refine ⟨rfl, called, ?_, (pending ⟨_, List.mem_cons_self, _, _, _, rfl, rfl, rfl⟩).1⟩
  rcases contents _ called with _ | ⟨-, _ | ⟨⟨r, e, v, read, origin, -, -, -, -, sound⟩, -⟩⟩
  cases read
  cases origin
  exact (sound (by decide)).1

/-- A function is called although a pending value is inside its argument, and decides the
condition. -/
theorem calls_pending_item :
    let items : List Data := [Value.unknown.toData, Value.null.toData]
    let rule : Rule :=
      ⟨.call (Functions.constant (.bool false)) ["var.l"] "fn" {}, "condition failed", none⟩
    ∃ b, Bindings.ofData [("var.l", .list items)] [] = .ok b ∧
      rule.Calls .resourcePrecondition b none none none none [.tuple items] ∧
      ∃ outcome, (rule.evaluate .resourcePrecondition b.toContext none none none none).result =
        .ok outcome ∧ outcome.verdict = .failed := by
  intro items rule
  refine ⟨_, rfl, ?_, _, rfl, rfl⟩
  exact (calls_iff rfl).2 (.cons ⟨_, _, rfl, rfl, rfl, rfl⟩ .nil)

end Rule

end StagedChecks
