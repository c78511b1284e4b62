import Mathlib.Data.List.Forall2
import StagedChecks.Functions
import StagedChecks.Proofs.BuiltIn

/-!
# Calls of functions

A call looks up all of its arguments before it decides what to do. If one of them is not visible or
not known, the function is left alone: the call is unknown whatever the function is, and each
occurrence of an argument that is not visible is reported. Otherwise the function is given the
contents of the values in the order of the arguments, and nothing else that it could answer matters.
An exception of the function is reported by its text; a call has no value just when the exception
has no text to show, or when the function is interrupted.

That a function is called with some data is said without looking into the call: another answer to
this data alone can make a difference.

## Main definitions

* `Function.FailsByExceptions` — functions that are not interrupted and whose exceptions have texts.
* `Function.IsConsulted` — whether what is computed with a function hangs on one of its answers.
* `Variables.Shows` — whether a traversal is visible with some value.
* `Expression.Gives` — whether an argument gives some data to a function.
* `Expression.Withholds` — whether an argument is not visible or not known.
* `Expression.absent` — the arguments that are not visible.

## Main statements

* `Expression.evaluateCall_of_given`, `Expression.evaluateCall_of_withheld` — the two kinds of
  calls.
* `Expression.isConsulted_iff` — what a function is called with.
* `Expression.evaluate_call` — the value and the reports of a call.
-/

namespace StagedChecks

/-- Whether a function fails in no other way than with exceptions, each of which has a text. -/
def Function.FailsByExceptions (function : Function) : Prop :=
  ∀ given failure, function given = .error failure → ∃ text, failure = .exception (.ok text)

/-- Whether what is computed with a function hangs on the answer of the function to some data: two
functions that differ in nothing but this answer lead to different results. -/
def Function.IsConsulted {α : Type} (compute : Function → α) (given : List Data) : Prop :=
  ∃ f g : Function, (∀ other, other ≠ given → f other = g other) ∧ compute f ≠ compute g

/-- There are functions that answer true and false to some data and do not differ elsewhere. -/
theorem Function.exists_differing_at (given : List Data) :
    ∃ f g : Function, (∀ other, other ≠ given → f other = g other) ∧
      f given = .ok (.bool true) ∧ g given = .ok (.bool false) := by
  classical
  refine ⟨fun _ => .ok (.bool true),
    fun ds => if ds = given then .ok (.bool false) else .ok (.bool true), ?_, rfl, by simp⟩
  intro other different
  simp [different]

/-- Whether a traversal is visible with some value. -/
def Variables.Shows (visible : Option Variables) (t : String) (v : Value) : Prop :=
  ∃ table, visible = some table ∧ Table.get? table t = some v

namespace Expression

variable {visible : Option Variables} {function : Function} {arguments : List String}
  {name : String} {range : Source.Range} {given other : List Data} {t : String} {d : Data}
  {v : Value} {fault : Fault}

/-- Whether the value of an argument is visible and known and has some data as its content. -/
def Gives (visible : Option Variables) (t : String) (d : Data) : Prop :=
  ∃ v, Variables.Shows visible t v ∧ v.state ≠ .unknown ∧ v.raw = d

/-- Whether an argument is not visible or has a value that is not known. -/
def Withholds (visible : Option Variables) (t : String) : Prop :=
  ∀ v, Variables.Shows visible t v → v.state = .unknown

/-- The arguments that are not visible, each as often as it occurs. -/
def absent (visible : Option Variables) (arguments : List String) : List String :=
  arguments.filter fun t => visible.all fun table => (Table.get? table t).isNone

theorem lookup_eq_some_iff : lookup visible t = some v ↔ Variables.Shows visible t v :=
  Option.bind_eq_some_iff

theorem isNone_lookup (visible : Option Variables) (t : String) :
    (lookup visible t).isNone = visible.all fun table => (Table.get? table t).isNone := by
  cases visible <;> rfl

theorem isKnown_iff : v.isKnown = true ↔ v.state ≠ .unknown := by
  simp [Value.isKnown]

/-- An argument withholds its value or gives its content. -/
theorem withholds_or_gives (visible : Option Variables) (t : String) :
    Withholds visible t ∨ ∃ d, Gives visible t d := by
  by_cases withheld : Withholds visible t
  · exact .inl withheld
  · simp only [Withholds, not_forall] at withheld
    obtain ⟨v, here, known⟩ := withheld
    exact .inr ⟨v.raw, v, here, known, rfl⟩

theorem Gives.unique {d' : Data} (gives : Gives visible t d) (gives' : Gives visible t d') :
    d = d' := by
  obtain ⟨v, here, -, rfl⟩ := gives
  obtain ⟨v', here', -, rfl⟩ := gives'
  cases (lookup_eq_some_iff.2 here).symm.trans (lookup_eq_some_iff.2 here')
  rfl

/-- Of some arguments one withholds its value, or each gives its content. -/
theorem withheld_or_given (visible : Option Variables) (arguments : List String) :
    (∃ t ∈ arguments, Withholds visible t) ∨
      ∃ given, List.Forall₂ (Gives visible) arguments given := by
  induction arguments with
  | nil => exact .inr ⟨[], .nil⟩
  | cons t arguments ih =>
    rcases withholds_or_gives visible t with withholds | ⟨d, gives⟩
    · exact .inl ⟨t, List.mem_cons_self, withholds⟩
    · rcases ih with ⟨t', used, withholds⟩ | ⟨given, rest⟩
      · exact .inl ⟨t', List.mem_cons_of_mem _ used, withholds⟩
      · exact .inr ⟨d :: given, .cons gives rest⟩

theorem given_unique (gives : List.Forall₂ (Gives visible) arguments given)
    (gives' : List.Forall₂ (Gives visible) arguments other) : given = other := by
  have unique : Relator.RightUnique (Gives visible) := fun _ _ _ => Gives.unique
  exact unique.forall₂ gives gives'

/-- All that is reported while arguments are looked up is which of them are not visible. -/
theorem reports_of_lookups (visible : Option Variables) (arguments : List String) :
    (arguments.map (evaluateReference visible)).flatMap (·.2) =
      (absent visible arguments).map unknownVariable := by
  induction arguments with
  | nil => rfl
  | cons t arguments ih =>
    rw [List.map_cons, List.flatMap_cons, ih]
    cases here : lookup visible t <;>
      simp [evaluateReference, absent, here, ← isNone_lookup]

theorem lookups_of_given (gives : List.Forall₂ (Gives visible) arguments given) :
    absent visible arguments = [] ∧
      (arguments.map (evaluateReference visible)).all (·.1.isKnown) = true ∧
      (arguments.map (evaluateReference visible)).map (·.1.raw) = given := by
  induction gives with
  | nil => exact ⟨rfl, rfl, rfl⟩
  | cons gives _ ih =>
    obtain ⟨v, shown, known, rfl⟩ := gives
    obtain ⟨seen, allKnown, contents⟩ := ih
    have here := lookup_eq_some_iff.2 shown
    have known := isKnown_iff.2 known
    refine ⟨?_, ?_, ?_⟩
    · simpa [absent, here, ← isNone_lookup] using seen
    · simpa [evaluateReference, here, known] using allKnown
    · simpa [evaluateReference, here] using contents

/-- If every argument gives its content, the call is what the function makes of the contents. -/
theorem evaluateCall_of_given (gives : List.Forall₂ (Gives visible) arguments given) :
    evaluateCall function arguments name range visible =
      match apply function given with
      | .ok v => .ok (v, [])
      | .error failure =>
        failure.text.map fun text => (.unknown, [functionError name text range]) := by
  obtain ⟨seen, allKnown, contents⟩ := lookups_of_given gives
  simp only [evaluateCall, reports_of_lookups, seen, allKnown, contents]
  cases apply function given with
  | ok v => rfl
  | error failure => cases failure.text <;> rfl

/-- If an argument withholds its value, the call is unknown whatever its function is. -/
theorem evaluateCall_of_withheld (withheld : ∃ t ∈ arguments, Withholds visible t) :
    evaluateCall function arguments name range visible =
      .ok (.unknown, (absent visible arguments).map unknownVariable) := by
  obtain ⟨t, used, withholds⟩ := withheld
  have pending : (evaluateReference visible t).1.isKnown = false := by
    cases here : lookup visible t with
    | none => simp [evaluateReference, here]
    | some v =>
      simp [evaluateReference, here, Value.isKnown, withholds v (lookup_eq_some_iff.1 here)]
  have notAll : (arguments.map (evaluateReference visible)).all (·.1.isKnown) = false := by
    rw [List.all_eq_false]
    exact ⟨_, List.mem_map_of_mem used, by simp [pending]⟩
  simp [evaluateCall, reports_of_lookups, notAll]

/-- A function has no answer when it fails, or when what it returns cannot be wrapped, which is
reported like an exception. -/
theorem apply_eq_error_iff {failure : Failure} :
    apply function given = .error failure ↔ function given = .error failure ∨
      ∃ answer kind, function given = .ok answer ∧
        Value.ofData answer = .error (.unsupportedData kind) ∧
        .exception (.ok ("unsupported value type: " ++ kind)) = failure := by
  unfold apply
  cases function given with
  | error failure' => simp [bind, Except.bind]
  | ok answer =>
    cases foreign : answer.firstForeign? <;>
      simp [Value.ofData, bind, Except.bind, pure, Except.pure, throw, throwThe,
        MonadExceptOf.throw, foreign]

/-- Two calls of functions that answer alike to what the arguments give are alike. -/
theorem evaluateCall_congr {f g : Function}
    (alike : ∀ given, List.Forall₂ (Gives visible) arguments given → f given = g given) :
    evaluateCall f arguments name range visible = evaluateCall g arguments name range visible := by
  rcases withheld_or_given visible arguments with withheld | ⟨given, gives⟩
  · rw [evaluateCall_of_withheld withheld, evaluateCall_of_withheld withheld]
  · rw [evaluateCall_of_given gives, evaluateCall_of_given gives, apply, apply, alike given gives]

/-- A function is called with what the arguments give, if all of them do, and with nothing else. -/
theorem isConsulted_iff :
    Function.IsConsulted
        (fun f => (Expression.call f arguments name range).evaluate visible) given ↔
      List.Forall₂ (Gives visible) arguments given := by
  constructor
  · rintro ⟨f, g, alike, different⟩
    by_contra other
    refine different (evaluateCall_congr fun given' gives => ?_)
    refine alike given' ?_
    rintro rfl
    exact other gives
  · intro gives
    obtain ⟨f, g, alike, yes, no⟩ := Function.exists_differing_at given
    refine ⟨f, g, alike, fun same => ?_⟩
    simp only [evaluate, evaluateCall_of_given gives, apply, yes, no] at same
    cases same

/-- The three ends of a call whose function is called: with the answer, with a report of why there
is none, or with a fault. -/
theorem evaluateCall_ends (gives : List.Forall₂ (Gives visible) arguments given) :
    (∃ answer v, function given = .ok answer ∧ Value.ofData answer = .ok v ∧
        evaluateCall function arguments name range visible = .ok (v, [])) ∨
      (∃ text, (function given = .error (.exception (.ok text)) ∨ ∃ answer kind,
          function given = .ok answer ∧ Value.ofData answer = .error (.unsupportedData kind) ∧
            "unsupported value type: " ++ kind = text) ∧
        evaluateCall function arguments name range visible =
          .ok (.unknown, [functionError name text range])) ∨
      ∃ fault, (function given = .error (.exception (.error fault)) ∨
          function given = .error (.interrupt fault)) ∧
        evaluateCall function arguments name range visible = .error fault := by
  rw [evaluateCall_of_given gives]
  cases answered : apply function given with
  | ok v =>
    obtain ⟨answer, returned, wrapping⟩ := apply_eq_ok_iff.1 answered
    exact .inl ⟨answer, v, returned, wrapping, rfl⟩
  | error failure =>
    rcases apply_eq_error_iff.1 answered with failed | ⟨answer, kind, returned, refused, rfl⟩
    · cases failure with
      | exception text =>
        cases text with
        | ok text => exact .inr (.inl ⟨text, .inl failed, rfl⟩)
        | error fault => exact .inr (.inr ⟨fault, .inl failed, rfl⟩)
      | interrupt fault => exact .inr (.inr ⟨fault, .inr failed, rfl⟩)
    · exact .inr (.inl ⟨_, .inr ⟨answer, kind, returned, refused, rfl⟩, rfl⟩)

/-- A call has a value if its function fails by exceptions only. -/
theorem exists_evaluate_call (gentle : Function.FailsByExceptions function)
    (arguments : List String) (name : String) (range : Source.Range)
    (visible : Option Variables) :
    ∃ v reports, (Expression.call function arguments name range).evaluate visible =
      .ok (v, reports) := by
  rcases withheld_or_given visible arguments with withheld | ⟨given, gives⟩
  · exact ⟨_, _, evaluateCall_of_withheld withheld⟩
  · rcases evaluateCall_ends gives with ⟨-, v, -, -, done⟩ | ⟨text, -, done⟩ |
      ⟨fault, failed | failed, -⟩
    · exact ⟨v, [], done⟩
    · exact ⟨_, _, done⟩
    · obtain ⟨text, same⟩ := gentle given _ failed
      cases same
    · obtain ⟨text, same⟩ := gentle given _ failed
      cases same

example : (Expression.call Functions.isNull ["var.a"] "is_null" {}).evaluate
    (some [("var.a", .null)]) = .ok (.wrap (.bool true), []) := rfl

end Expression

end StagedChecks
