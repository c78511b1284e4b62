import Mathlib.Tactic.Choose
import StagedChecks.Proofs.Calls
import StagedChecks.Proofs.Evaluation
import StagedChecks.Proofs.Indices
import StagedChecks.Proofs.Resolution

/-!
# When an evaluation ends with a fault

Over bindings of plain data only an attribute can be at fault: an index in a tuple is spelled with
more digits than are ever read, or the data that was found holds a foreign object. The second needs
a value of the repetition that was made without wrapping. What else can end an evaluation is the
caller's own: functions that do not explain their failures, places of very many digits, and sinks
that refuse messages.

## Main definitions

* `Value.Overruns`, `Value.Uncovers` — the two obstacles.
* `Bindings.Meets` — references on whose way there is an obstacle.
* `Expression.IsAccepted` — built-in expressions whose constant can be wrapped, or whose function
  explains its failures.

## Main statements

* `Value.attribute?_eq_error_iff` — an attribute is at fault when it is an obstacle.
* `Bindings.resolves_iff` — a reference is resolved unless it meets one.
* `Rule.evaluateAll_returns_iff` — an evaluation returns unless a reference of a rule meets one.
-/

namespace StagedChecks

namespace Value

variable {v : Value} {raw : Data} {name : String}

/-- Whether a name spells an index in a tuple with more digits than are read. -/
def Overruns (v : Value) (name : String) : Prop :=
  v.state = .known ∧ (∃ items, v.raw = .tuple items) ∧ Text.isDigits name = true ∧
    numeralLimit < name.length

/-- Whether a name finds data that holds a foreign object. -/
def Uncovers (v : Value) (name : String) : Prop :=
  v.state = .known ∧ ∃ d, attributeData? v.raw name = .ok (some d) ∧ d.firstForeign? ≠ none

/-- Looking for the data of an attribute fails only if an index is too long. -/
theorem attributeData?_eq_error_iff (segment : Reference.isAttribute name = true) :
    (∃ fault, attributeData? raw name = .error fault) ↔
      (∃ items, raw = .tuple items) ∧ Text.isDigits name = true ∧ numeralLimit < name.length := by
  cases raw with
  | tuple items =>
    by_cases digits : Text.isDigits name = true
    · have read := Index.read_of_digits (Reference.isDigit_of_isAttribute segment digits)
      by_cases long : numeralLimit < name.length <;>
        simp [attributeData?, digits, read, long, Except.map]
    · simp [attributeData?, digits]
  | _ => simp [attributeData?]

/-- An attribute of a known value is at fault when it is an obstacle. -/
theorem attribute?_eq_error_iff (segment : Reference.isAttribute name = true) :
    (v.state = .known ∧ ∃ fault, attribute? v name = .error fault) ↔
      v.Overruns name ∨ v.Uncovers name := by
  unfold Overruns Uncovers
  rw [← attributeData?_eq_error_iff segment, ← and_or_left]
  refine and_congr_right fun known => ?_
  unfold attribute?
  cases attributeData? v.raw name with
  | error fault => simp [bind, Except.bind]
  | ok d? =>
    cases d? with
    | none => simp [bind, Except.bind, pure, Except.pure]
    | some d =>
      cases clean : d.firstForeign? <;> simp [ofData, clean, bind, Except.bind, pure, Except.pure]

end Value

namespace Bindings

variable {b : Bindings} {selfRef : Option String} {repetition : Repetition} {r : Reference}

/-- Whether there is an obstacle on the way of a reference: a part of its path leads to a value from
which the next name cannot be followed. -/
def Meets (b : Bindings) (selfRef : Option String) (repetition : Repetition) (r : Reference)
    (obstacle : Value → String → Prop) : Prop :=
  ∃ before name after found, r.path = before ++ name :: after ∧
    b.resolve selfRef repetition ⟨r.subject, before⟩ = .ok (found, []) ∧ obstacle found name

theorem meets_or_iff {p q : Value → String → Prop} :
    b.Meets selfRef repetition r (fun v name => p v name ∨ q v name) ↔
      b.Meets selfRef repetition r p ∨ b.Meets selfRef repetition r q := by
  simp only [Meets, and_or_left, exists_or]

theorem meets_congr {p q : Value → String → Prop}
    (same : ∀ v, ∀ name ∈ r.path, p v name ↔ q v name) :
    b.Meets selfRef repetition r p ↔ b.Meets selfRef repetition r q := by
  unfold Meets
  refine exists_congr fun before => exists_congr fun name => exists_congr fun after =>
    exists_congr fun found => and_congr_right fun path => and_congr_right fun _ => ?_
  exact same found name (by simp [path])

/-- Resolving a reference fails when an attribute on its way is at fault. -/
theorem resolve_fails_iff (accepted : ∀ d ∈ repetition.fields, d.firstForeign? = none) :
    (∃ fault, b.resolve selfRef repetition r = .error fault) ↔
      b.Meets selfRef repetition r fun v name =>
        v.state = .known ∧ ∃ fault, v.attribute? name = .error fault := by
  have clean {d : Data} (origin : b.origin? selfRef repetition r.subject = some d) :
      d.firstForeign? = none := by
    rcases mem_of_origin? origin with ⟨-, v, -, rfl⟩ | ⟨-, member⟩
    · rfl
    · exact accepted d member
  constructor
  · rintro ⟨fault, failed⟩
    rcases b.resolve_cases selfRef repetition r with ⟨d, v, -, -, -, done⟩ |
      ⟨v, reports, done, -⟩ | ⟨d, fault', origin, failed', foreign | walked⟩
    · cases failed.symm.trans done
    · cases failed.symm.trans done
    · exact absurd (clean origin) foreign
    · obtain ⟨before, name, after, found, path, way, known, broken⟩ :=
        Value.walk_eq_error_iff.1 walked
      have isKnown : found.isKnown = true := by simp [Value.isKnown, known]
      exact ⟨before, name, after, found, path,
        (resolve_eq_ok_known_iff isKnown).2 ⟨rfl, d, origin, clean origin, way⟩, known, _, broken⟩
  · rintro ⟨before, name, after, found, path, done, known, fault, broken⟩
    have isKnown : found.isKnown = true := by simp [Value.isKnown, known]
    obtain ⟨-, d, origin, -, way⟩ := (resolve_eq_ok_known_iff isKnown).1 done
    have walked : (Value.wrap d).walk r.path = .error fault :=
      Value.walk_eq_error_iff.2 ⟨before, name, after, found, path, way, known, broken⟩
    exact ⟨fault, by rw [← walked]; exact resolve_of_origin? origin (clean origin)⟩

theorem resolves_iff (accepted : ∀ d ∈ repetition.fields, d.firstForeign? = none)
    (segments : ∀ s ∈ r.path, Reference.isAttribute s = true) :
    (∃ answer, b.resolve selfRef repetition r = .ok answer) ↔
      ¬ b.Meets selfRef repetition r Value.Overruns ∧
        ¬ b.Meets selfRef repetition r Value.Uncovers := by
  rw [exists_eq_ok_iff, ← not_exists, ← not_or, ← meets_or_iff, resolve_fails_iff accepted]
  exact not_congr (meets_congr fun v name member =>
    Value.attribute?_eq_error_iff (segments name member))

theorem scope_returns_iff {references : List Reference} :
    (∃ scope, b.scope selfRef repetition references = .ok scope) ↔
      ∀ r ∈ references, ∃ answer, b.resolve selfRef repetition r = .ok answer := by
  constructor
  · rintro ⟨⟨visible, reports⟩, seen⟩
    obtain ⟨answer, each, -⟩ := scope_eq_ok_iff.1 seen
    exact fun r member => ⟨answer r, each r member⟩
  · intro each
    choose! answer each using each
    exact ⟨_, scope_eq_ok_iff.2 ⟨answer, each, rfl, rfl⟩⟩

/-- Bindings of data whose values were made by wrapping hide no foreign object. -/
theorem everywhere_of_ofData {values instances : Table Data}
    (made : ∀ e ∈ values ++ instances, e.2.IsMade) (built : ofData values instances = .ok b) :
    b.everywhere (!·.isForeign) = true := by
  obtain ⟨first, second, -⟩ := ofData_eq_ok_iff.1 built
  refine everywhere_of_wrapped (fun e member => ?_) built
  have clean : e.2.firstForeign? = none :=
    (List.mem_append.1 member).elim (first e) (second e)
  simpa [Value.toData, Data.everywhere, Data.isForeign] using
    Data.everywhere_raw_wrap ((made e member).everywhere clean)

/-- Only on the way of data of the repetition a foreign object can be found. -/
theorem isSubject_of_uncovers (bindings : b.everywhere (!·.isForeign) = true)
    (met : b.Meets selfRef repetition r Value.Uncovers) :
    Repetition.isSubject r.subject = true := by
  obtain ⟨before, name, after, found, -, done, known, d, data, foreign⟩ := met
  have isKnown : found.isKnown = true := by simp [Value.isKnown, known]
  obtain ⟨-, origin, stands, -, way⟩ := (resolve_eq_ok_known_iff isKnown).1 done
  by_contra other
  -- Else the walk starts from a value or an instance, and its data hides nothing at any depth.
  have start : origin.everywhere (!·.isForeign) = true :=
    everywhere_of_origin? bindings (fun owned => absurd owned other) stands
  have reached : found.raw.everywhere (!·.isForeign) = true :=
    way.everywhere_raw (Data.everywhere_raw_wrap start)
  exact foreign
    (Data.firstForeign?_of_everywhere d (Data.everywhere_of_attributeData? reached data))

end Bindings

/-- The reports of a scope name no place. -/
theorem Bindings.isPlaceless_of_scope {b : Bindings} {selfRef : Option String}
    {repetition : Repetition} {references : List Reference} {visible : Variables}
    {reports : Diagnostics}
    (seen : b.scope selfRef repetition references = .ok (visible, reports)) :
    ∀ d ∈ reports, d.isPlaceless = true := by
  obtain ⟨answer, each, -, rfl⟩ := scope_eq_ok_iff.1 seen
  intro d member
  obtain ⟨r, used, member⟩ := List.mem_flatMap.1 member
  exact isPlaceless_of_resolve (each r used) d member

/-- Errors whose numbers are short can be announced to a sink that refuses nothing. -/
theorem Rule.announce_of_isShort {kind : Rule.Kind} {sink : Sink} {ds : Diagnostics}
    (short : ∀ d ∈ ds, d.isShort = true) (takes : ∀ text, sink.answer text = .ok ()) :
    (announce kind sink ds).result = .ok () := by
  rw [result_announce]
  cases made : ds.err? with
  | error fault =>
    obtain ⟨-, d, first, long⟩ := Diagnostics.err?_eq_error_iff.1 made
    have member : d ∈ ds := (List.mem_filter.1 (List.mem_of_head? first)).1
    cases (short d member).symm.trans (Diagnostic.isShort_eq_false_iff.2 long)
  | ok report? => cases report? <;> simp [bind, Except.bind, takes]

/-- Whether an expression is built in, its constant can be wrapped if it is one, and its function,
if it is a call, fails by exceptions only and is at a place that can be shown. -/
def Expression.IsAccepted : Expression → Prop
  | .constant data _ => data.firstForeign? = none
  | .reference _ _ => True
  | .call function _ _ range => Function.FailsByExceptions function ∧ range.isShort = true
  | .custom _ _ _ => False

theorem Expression.isBuiltIn_of_isAccepted {e : Expression} (accepted : e.IsAccepted) :
    e.isBuiltIn = true := by
  cases e with
  | custom => exact accepted.elim
  | _ => rfl

theorem Expression.evaluate_of_isAccepted {e : Expression} (accepted : e.IsAccepted)
    (visible : Variables) :
    ∃ v reports, e.evaluate (some visible) = .ok (v, reports) ∧
      ∀ d ∈ reports, d.isShort = true := by
  have looked (t : String) : ∀ d ∈ (evaluateReference (some visible) t).2, d.isShort = true := by
    rcases evaluateReference_cases visible t with ⟨w, -, same⟩ | ⟨-, same⟩
    · simp [same]
    · intro d member
      rw [same, List.mem_singleton] at member
      rw [member]
      exact Diagnostic.isShort_of_isPlaceless (Diagnostic.isPlaceless_error _ _)
  cases e with
  | constant data range =>
    refine ⟨.wrap data, [], ?_, by simp⟩
    simp only [evaluate, Value.ofData_eq_ok_iff.2 ⟨accepted, rfl⟩]
    rfl
  | reference t range => exact ⟨_, _, rfl, looked t⟩
  | call function arguments name range =>
    obtain ⟨v, reports, done⟩ := exists_evaluate_call accepted.1 arguments name range (some visible)
    refine ⟨v, reports, done, ?_⟩
    rcases evaluateCall_eq_ok_cases done with ⟨-, rfl, -⟩ | ⟨-, text, rfl⟩ | ⟨-, -, rfl⟩
    · simp
    · simp [functionError, Diagnostic.error, Diagnostic.isShort, accepted.2]
    · intro d member
      obtain ⟨t, -, member⟩ := List.mem_flatMap.1 member
      exact looked t d member
  | custom => exact accepted.elim

namespace Rule

variable {kind : Kind} {rule : Rule} {rules : List Rule} {b : Bindings} {selfRef : Option String}
  {repetition : Option Repetition} {sink : Option Sink} {settings : Option Settings}

/-- The evaluation of an accepted rule returns if all its references are resolved. -/
theorem evaluate_returns_iff {ts : List String} (accepted : rule.condition.IsAccepted)
    (named : rule.condition.traversals = .ok ts)
    (takes : ∀ text, (Sink.orDefault sink (settings.getD {})).answer text = .ok ()) :
    (∃ o, (rule.evaluate kind b.toContext selfRef repetition sink settings).result = .ok o) ↔
      ∀ r ∈ (Reference.analyse ts).1, ∃ answer,
        b.resolve selfRef (repetition.getD {}) r = .ok answer := by
  rw [← Bindings.scope_returns_iff]
  constructor
  · rintro ⟨o, done⟩
    obtain ⟨ts', visible, second, v, third, named', seen, -⟩ :=
      evaluate_toContext_eq_ok_iff.1 done
    cases named.symm.trans named'
    exact ⟨_, seen⟩
  · rintro ⟨⟨visible, second⟩, seen⟩
    obtain ⟨v, third, value, short⟩ := Expression.evaluate_of_isAccepted accepted visible
    refine ⟨_, evaluate_toContext_eq_ok_iff.2
      ⟨ts, visible, second, v, third, named, seen, value, announce_of_isShort ?_ takes, rfl⟩⟩
    simp only [List.mem_append, or_imp, forall_and]
    refine ⟨⟨fun d member => ?_, fun d member => ?_⟩, short⟩
    · exact Diagnostic.isShort_of_isPlaceless (Reference.isPlaceless_of_analyse d member)
    · exact Diagnostic.isShort_of_isPlaceless (Bindings.isPlaceless_of_scope seen d member)

/-- Over bindings of data whose values were made by wrapping, and with a sink that refuses nothing,
the evaluation of accepted rules returns unless a reference of a rule comes to a tuple with an index
of too many digits, or finds a foreign object inside data of the repetition. -/
theorem evaluateAll_returns_iff {values instances : Table Data}
    (made : ∀ e ∈ values ++ instances, e.2.IsMade)
    (built : Bindings.ofData values instances = .ok b)
    (repeated : ∀ d ∈ (repetition.getD {}).fields, d.firstForeign? = none)
    (accepted : ∀ rule ∈ rules, rule.condition.IsAccepted)
    (takes : ∀ text, (Sink.orDefault sink (settings.getD {})).answer text = .ok ()) :
    (∃ outcomes, (evaluateAll kind rules b.toContext selfRef repetition sink settings).result =
        .ok outcomes) ↔
      ∀ rule ∈ rules, ∀ references first, rule.condition.references = .ok (references, first) →
        ∀ r ∈ references,
          ¬ b.Meets selfRef (repetition.getD {}) r Value.Overruns ∧
            (Repetition.isSubject r.subject = true →
              ¬ b.Meets selfRef (repetition.getD {}) r Value.Uncovers) := by
  have foreign := Bindings.everywhere_of_ofData made built
  rw [exists_evaluateAll_iff]
  refine forall₂_congr fun rule member => ?_
  obtain ⟨ts, named⟩ :=
    Expression.exists_traversals (Expression.isBuiltIn_of_isAccepted (accepted rule member))
  have analysed : rule.condition.references = .ok (Reference.analyse ts) :=
    map_eq_ok_iff.2 ⟨ts, named, rfl⟩
  have resolved (r : Reference) (used : r ∈ (Reference.analyse ts).1) :
      (∃ answer, b.resolve selfRef (repetition.getD {}) r = .ok answer) ↔
        ¬ b.Meets selfRef (repetition.getD {}) r Value.Overruns ∧
          (Repetition.isSubject r.subject = true →
            ¬ b.Meets selfRef (repetition.getD {}) r Value.Uncovers) := by
    obtain ⟨t, -, read⟩ := Reference.mem_analyse_iff.1 used
    rw [Bindings.resolves_iff repeated (Reference.isAttribute_of_parse read)]
    refine and_congr_right fun _ => ⟨fun clear _ => clear, fun clear met => ?_⟩
    exact clear (Bindings.isSubject_of_uncovers foreign met) met
  rw [evaluate_returns_iff (accepted rule member) named takes, forall₂_congr resolved]
  constructor
  · intro clear references first same
    cases analysed.symm.trans same
    exact clear
  · exact fun clear => clear _ _ analysed

/-- An index of nines that is too long by one digit is at fault wherever the list ends. -/
theorem evaluateAll_returns_iff_nines :
    ∃ b, Bindings.ofData [("var.l", .list [.bool true])] [] = .ok b ∧
      ¬ ∃ outcomes, (evaluateAll .invalid
        [⟨.reference ("var.l" ++ "." ++ String.ofList (List.replicate 4301 '9')) {},
          "condition failed", none⟩] b.toContext none none none none).result = .ok outcomes := by
  have nines : ∀ c ∈ (String.ofList (List.replicate 4301 '9')).toList, c.isDigit = true := by
    intro c member
    rw [String.toList_ofList] at member
    rw [List.eq_of_mem_replicate member]
    rfl
  have long : numeralLimit < (String.ofList (List.replicate 4301 '9')).length := by
    rw [String.length_ofList, List.length_replicate]
    decide
  -- From here on the numeral is any text of digits that is too long.
  generalize String.ofList (List.replicate 4301 '9') = index at nines long
  have nonempty : index ≠ "" := by
    rintro rfl
    simp at long
  obtain ⟨segment, digits⟩ := Reference.isAttribute_of_digits nonempty nines
  have root : Reference.parse "var.l" = .ok ⟨"var.l", []⟩ := rfl
  have read := Reference.parse_append root segment
  -- All that counts about the traversal is what it is read as.
  generalize "var.l" ++ "." ++ index = traversal at read ⊢
  have built : Bindings.ofData [("var.l", .list [.bool true])] [] =
      .ok ⟨[("var.l", .wrap (.list [.bool true]))], []⟩ := rfl
  refine ⟨_, built, fun returned => ?_⟩
  have made : ∀ e ∈ [("var.l", Data.list [.bool true])] ++ [], e.2.IsMade := by
    simp only [List.append_nil, List.mem_singleton, forall_eq]
    exact .list fun d member => by rw [List.mem_singleton.1 member]; exact .bool true
  have clear := (evaluateAll_returns_iff made built (by simp [Repetition.fields]; rfl)
    (by simp [Expression.IsAccepted]) (fun _ => rfl)).1 returned _ (List.mem_cons_self ..) _ _ rfl _
    (Reference.mem_analyse_iff.2 ⟨_, List.mem_cons_self .., read⟩)
  exact clear.1 ⟨[], index, [], _, rfl, rfl, rfl, ⟨_, rfl⟩, digits, long⟩

end Rule

end StagedChecks
