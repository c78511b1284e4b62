import StagedChecks.Proofs.Visibility

/-!
# Built-in expressions

Constants, references and calls are built in; other expressions are the caller's own. A built-in
expression has a known value only if all that it needs is visible and known, and then it reports
nothing. Whatever it reports is a finding.

## Main definitions

* `Expression.isBuiltIn` — the expressions that are not the caller's own.
* `Expression.NeverPending` — built-in expressions that do not themselves make up unknown values.

## Main statements

* `Expression.silent_of_isKnown` — what a known value says about the traversals.
* `Expression.isFinding_of_evaluate` — what can be reported.
* `Expression.reported_of_not_isKnown` — where an unknown value comes from.
-/

namespace StagedChecks.Expression

/-- Whether an expression is a constant, a reference or a call. -/
def isBuiltIn : Expression → Bool
  | .custom _ _ _ => false
  | _ => true

/-- Whether an expression is built in and neither its constant nor an answer of its function is an
unknown value. -/
def NeverPending : Expression → Prop
  | .constant data _ => data.isPending = false
  | .reference _ _ => True
  | .call function _ _ _ =>
    ∀ arguments answer, function arguments = .ok answer → answer.isPending = false
  | .custom _ _ _ => False

theorem NeverPending.isBuiltIn {e : Expression} (settled : e.NeverPending) :
    e.isBuiltIn = true := by
  cases e with
  | custom => exact settled.elim
  | _ => rfl

variable {visible : Variables} {e : Expression} {v : Value} {reports : Diagnostics}

/-- A traversal is visible with a value, or it is reported and taken as unknown. -/
theorem evaluateReference_cases (visible : Variables) (t : String) :
    (∃ w, Table.get? visible t = some w ∧ evaluateReference (some visible) t = (w, [])) ∨
      (Table.get? visible t = none ∧
        evaluateReference (some visible) t = (.unknown, [unknownVariable t])) := by
  cases here : Table.get? visible t <;> simp [evaluateReference, lookup, here]

theorem isKnown_evaluateReference_iff {t : String} :
    (evaluateReference (some visible) t).1.isKnown = true ↔
      ∃ w, Table.get? visible t = some w ∧ w.isKnown = true := by
  rcases evaluateReference_cases visible t with ⟨w, here, same⟩ | ⟨missing, same⟩
  · simp [here, same]
  · simp [missing, same]

theorem isFinding_of_evaluateReference {t : String} :
    ∀ d ∈ (evaluateReference (some visible) t).2, d.isFinding = true := by
  rcases evaluateReference_cases visible t with ⟨w, -, same⟩ | ⟨-, same⟩
  · simp [same]
  · simp [same, unknownVariable]

/-- A function has an answer when it succeeds and what it returns can be wrapped. -/
theorem apply_eq_ok_iff {function : List Data → Except Failure Data} {given : List Data} :
    apply function given = .ok v ↔
      ∃ data, function given = .ok data ∧ Value.ofData data = .ok v := by
  unfold apply
  rw [bind_eq_ok_iff]
  refine exists_congr fun data => and_congr_right fun _ => ?_
  cases Value.ofData data <;> simp [pure, Except.pure, throw, throwThe, MonadExceptOf.throw]

/-- A function is called when all arguments are visible and known; otherwise the call is unknown
and its missing arguments are reported. A failure is reported if it can be. -/
theorem evaluateCall_cases (function : List Data → Except Failure Data) (arguments : List String)
    (name : String) (range : Source.Range) (visible : Variables) :
    (visible.Know arguments ∧
        ((∃ given v, apply function given = .ok v ∧
            evaluateCall function arguments name range (some visible) = .ok (v, [])) ∨
          (∃ given failure text, apply function given = .error failure ∧
            failure.text = .ok text ∧
            evaluateCall function arguments name range (some visible) =
              .ok (.unknown, [functionError name text range])) ∨
          ∃ given failure fault, apply function given = .error failure ∧
            failure.text = .error fault ∧
            evaluateCall function arguments name range (some visible) = .error fault)) ∨
      (¬ visible.Know arguments ∧
        evaluateCall function arguments name range (some visible) =
          .ok (.unknown, arguments.flatMap fun t => (evaluateReference (some visible) t).2)) := by
  have allKnown_iff : (arguments.map (evaluateReference (some visible))).all (·.1.isKnown) = true ↔
      visible.Know arguments := by
    simp [Variables.Know, isKnown_evaluateReference_iff]
  by_cases known : visible.Know arguments
  · have allKnown := allKnown_iff.2 known
    have silent : (arguments.map (evaluateReference (some visible))).flatMap (·.2) = [] := by
      rw [List.flatMap_map, List.flatMap_eq_nil_iff]
      intro t used
      obtain ⟨w, here, -⟩ := known t used
      simp [evaluateReference, lookup, here]
    refine .inl ⟨known, ?_⟩
    cases answer : apply function
        ((arguments.map (evaluateReference (some visible))).map (·.1.raw)) with
    | ok v => exact .inl ⟨_, v, answer, by simp only [evaluateCall, silent, allKnown, answer]; rfl⟩
    | error failure =>
      cases shown : failure.text with
      | ok text =>
        exact .inr (.inl ⟨_, failure, text, answer, shown,
          by simp only [evaluateCall, silent, allKnown, answer, shown]; rfl⟩)
      | error fault =>
        exact .inr (.inr ⟨_, failure, fault, answer, shown,
          by simp only [evaluateCall, silent, allKnown, answer, shown]; rfl⟩)
  · have unknown := Bool.eq_false_iff.2 (mt allKnown_iff.1 known)
    exact .inr ⟨known, by simp [evaluateCall, unknown, List.flatMap_map]⟩

/-- What a call reports, and where its value is unknown or known. -/
theorem evaluateCall_eq_ok_cases {function : List Data → Except Failure Data}
    {arguments : List String} {name : String} {range : Source.Range}
    (done : evaluateCall function arguments name range (some visible) = .ok (v, reports)) :
    (visible.Know arguments ∧ reports = [] ∧ ∃ given, apply function given = .ok v) ∨
      (v = .unknown ∧ ∃ text, reports = [functionError name text range]) ∨
      (¬ visible.Know arguments ∧ v = .unknown ∧
        reports = arguments.flatMap fun t => (evaluateReference (some visible) t).2) := by
  rcases evaluateCall_cases function arguments name range visible with
    ⟨known, ⟨given, w, answer, same⟩ | ⟨given, failure, text, -, -, same⟩ |
      ⟨given, failure, fault, -, -, same⟩⟩ | ⟨unknown, same⟩
  · cases same.symm.trans done
    exact .inl ⟨known, rfl, given, answer⟩
  · cases same.symm.trans done
    exact .inr (.inl ⟨rfl, text, rfl⟩)
  · cases same.symm.trans done
  · cases same.symm.trans done
    exact .inr (.inr ⟨unknown, rfl, rfl⟩)

/-- A built-in expression can tell its traversals. -/
theorem exists_traversals (builtIn : e.isBuiltIn = true) : ∃ ts, e.traversals = .ok ts := by
  cases e with
  | custom => cases builtIn
  | _ => exact ⟨_, rfl⟩

/-- A known value is reported nothing about, and all that it needs is visible and known. -/
theorem silent_of_isKnown {ts : List String} (builtIn : e.isBuiltIn = true)
    (named : e.traversals = .ok ts) (done : e.evaluate (some visible) = .ok (v, reports))
    (known : v.isKnown = true) : reports = [] ∧ visible.Know ts := by
  cases e with
  | constant data range =>
    obtain ⟨w, -, same⟩ := map_eq_ok_iff.1 done
    cases same
    cases named
    exact ⟨rfl, by simp [Variables.Know]⟩
  | reference t range =>
    have done := Except.ok.inj done
    cases named
    rcases evaluateReference_cases visible t with ⟨w, here, same⟩ | ⟨-, same⟩
    · cases same.symm.trans done
      exact ⟨rfl, by simp [Variables.Know, here, known]⟩
    · cases same.symm.trans done
      cases known
  | call function arguments name range =>
    cases named
    rcases evaluateCall_eq_ok_cases done with ⟨allKnown, silent, -⟩ | ⟨rfl, -⟩ | ⟨-, rfl, -⟩
    · exact ⟨silent, allKnown⟩
    · cases known
    · cases known
  | custom => cases builtIn

theorem isFinding_of_evaluate (builtIn : e.isBuiltIn = true)
    (done : e.evaluate (some visible) = .ok (v, reports)) : ∀ d ∈ reports, d.isFinding = true := by
  cases e with
  | constant data range =>
    obtain ⟨w, -, same⟩ := map_eq_ok_iff.1 done
    cases same
    simp
  | reference t range =>
    have same : (evaluateReference (some visible) t).2 = reports :=
      congrArg Prod.snd (Except.ok.inj done)
    rw [← same]
    exact isFinding_of_evaluateReference
  | call function arguments name range =>
    rcases evaluateCall_eq_ok_cases done with ⟨-, rfl, -⟩ | ⟨-, text, rfl⟩ | ⟨-, -, rfl⟩
    · simp
    · simp [functionError]
    · intro d member
      obtain ⟨t, -, member⟩ := List.mem_flatMap.1 member
      exact isFinding_of_evaluateReference d member
  | custom => cases builtIn

/-- If the value is unknown, something was reported or something visible is unknown. -/
theorem reported_of_not_isKnown {ts : List String} (settled : e.NeverPending)
    (named : e.traversals = .ok ts) (done : e.evaluate (some visible) = .ok (v, reports))
    (pending : v.isKnown = false) :
    reports ≠ [] ∨ ∃ t ∈ ts, ∃ w, Table.get? visible t = some w ∧ w.isKnown = false := by
  cases e with
  | constant data range =>
    obtain ⟨w, wrapping, same⟩ := map_eq_ok_iff.1 done
    cases same
    rw [← (Value.ofData_eq_ok_iff.1 wrapping).2, Value.isKnown_wrap, settled] at pending
    cases pending
  | reference t range =>
    have done := Except.ok.inj done
    cases named
    rcases evaluateReference_cases visible t with ⟨w, here, same⟩ | ⟨-, same⟩
    · cases same.symm.trans done
      exact .inr ⟨t, by simp, v, here, pending⟩
    · cases same.symm.trans done
      exact .inl (by simp)
  | call function arguments name range =>
    cases named
    rcases evaluateCall_eq_ok_cases done with
      ⟨-, -, given, answer⟩ | ⟨-, text, rfl⟩ | ⟨unknown, -, rfl⟩
    · obtain ⟨data, answered, wrapping⟩ := apply_eq_ok_iff.1 answer
      rw [← (Value.ofData_eq_ok_iff.1 wrapping).2, Value.isKnown_wrap,
        settled given data answered] at pending
      cases pending
    · exact .inl (by simp)
    · simp only [Variables.Know, Classical.not_forall] at unknown
      obtain ⟨t, used, unknown⟩ := unknown
      rcases evaluateReference_cases visible t with ⟨w, here, -⟩ | ⟨-, missing⟩
      · exact .inr ⟨t, used, w, here, by simpa [here] using unknown⟩
      · refine .inl fun silent => ?_
        have := List.flatMap_eq_nil_iff.1 silent t used
        simp [missing] at this
  | custom => exact settled.elim

end StagedChecks.Expression
