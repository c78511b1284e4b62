import StagedChecks.Proofs.Depth

/-!
# Walks along paths

A walk goes from value to value, one name after the other. It comes to the end of its path, or it
stops before a name: at a value that is unknown or null, at one that has no such attribute, or with
a fault.

## Main definitions

* `Value.Reaches` — the values on the way.
* `Value.stop?` — what a walk comes to when it stops before a name.

## Main statements

* `Value.walk_cases` — a walk comes to the end of its path or stops on the way.
* `Value.walk_of_reaches` — a walk goes on from each value on its way.
* `Value.reason_of_stop?` — why it stops.
* `Value.walk_eq_error_iff` — when a walk ends with a fault.
* `Value.Reaches.keeps`, `Value.Reaches.everywhere_raw` — what holds of all values on the way.
-/

namespace StagedChecks.Value

/-- A value is reached from another one along a path. -/
inductive Reaches : Value → List String → Value → Prop where
  | here (v : Value) : Reaches v [] v
  | step {v next found : Value} {name : String} {path : List String} (known : v.state = .known)
      (has : attribute? v name = .ok (some next)) (rest : Reaches next path found) :
      Reaches v (name :: path) found

/-- What a walk comes to at a value if it cannot go on with a name. -/
def stop? (v : Value) (name : String) : Option (Except Fault (Value × Diagnostics)) :=
  match v.state with
  | .unknown => some (.ok (.unknown, []))
  | .null => some (.ok (.unknown, [nullAttribute name]))
  | .known =>
    match attribute? v name with
    | .ok (some _) => none
    | .ok none => some (.ok (.unknown, [unsupportedAttribute v.typeName name]))
    | .error fault => some (.error fault)

/-- An attribute is found when its data is found and can be wrapped. -/
theorem attribute?_eq_ok_some_iff {v next : Value} {name : String} :
    attribute? v name = .ok (some next) ↔
      ∃ d, attributeData? v.raw name = .ok (some d) ∧ ofData d = .ok next := by
  unfold attribute?
  cases attributeData? v.raw name with
  | error fault => simp [bind, Except.bind]
  | ok d? =>
    cases d? with
    | none => simp [bind, Except.bind, pure, Except.pure]
    | some d => cases wrapping : ofData d <;> simp [bind, Except.bind, pure, Except.pure, wrapping]

theorem stop?_eq_none_iff {v : Value} {name : String} :
    stop? v name = none ↔ v.state = .known ∧ ∃ next, attribute? v name = .ok (some next) := by
  unfold stop?
  cases v.state with
  | unknown => simp
  | null => simp
  | known =>
    cases found : attribute? v name with
    | error fault => simp
    | ok next? => cases next? <;> simp

theorem walk_of_stop? {v : Value} {name : String} {result : Except Fault (Value × Diagnostics)}
    (stops : stop? v name = some result) (path : List String) :
    walk v (name :: path) = result := by
  unfold stop? at stops
  unfold walk
  cases state : v.state with
  | unknown => simpa [state] using stops
  | null => simpa [state] using stops
  | known =>
    cases found : attribute? v name with
    | error fault => simpa [state, found] using stops
    | ok next? =>
      cases next? with
      | none => simpa [state, found] using stops
      | some next => simp [state, found] at stops

/-- A walk goes on from each value on its way. -/
theorem walk_of_reaches {v found : Value} {before : List String} (way : Reaches v before found)
    (after : List String) : walk v (before ++ after) = walk found after := by
  induction way with
  | here => rfl
  | step known has _ ih => simp [walk, known, has, ih]

/-- A walk comes to the end of its path, without a report, or it stops before a name. -/
theorem walk_cases (v : Value) (path : List String) :
    (∃ found, Reaches v path found ∧ walk v path = .ok (found, [])) ∨
      ∃ before name after found result, path = before ++ name :: after ∧
        Reaches v before found ∧ stop? found name = some result ∧ walk v path = result := by
  induction path generalizing v with
  | nil => exact .inl ⟨v, .here v, rfl⟩
  | cons name path ih =>
    cases stops : stop? v name with
    | some result =>
      exact .inr ⟨[], name, path, v, result, rfl, .here v, stops, walk_of_stop? stops path⟩
    | none =>
      obtain ⟨known, next, has⟩ := stop?_eq_none_iff.1 stops
      have onward : walk v (name :: path) = walk next path :=
        walk_of_reaches (.step known has (.here next)) path
      rw [onward]
      rcases ih next with ⟨found, way, done⟩ |
        ⟨before, last, after, found, result, rfl, way, stops, done⟩
      · exact .inl ⟨found, .step known has way, done⟩
      · exact .inr ⟨name :: before, last, after, found, result, rfl, .step known has way, stops,
          done⟩

/-- Why a walk stops: the value is unknown, or it is null, or it has no such attribute, or the
attribute is at fault. -/
theorem reason_of_stop? {v : Value} {name : String} {result : Except Fault (Value × Diagnostics)}
    (stops : stop? v name = some result) :
    (v.state = .unknown ∧ result = .ok (.unknown, [])) ∨
      (v.state = .null ∧ result = .ok (.unknown, [nullAttribute name])) ∨
      (attribute? v name = .ok none ∧
        result = .ok (.unknown, [unsupportedAttribute v.typeName name])) ∨
      ∃ fault, result = .error fault ∧ v.state = .known ∧ attribute? v name = .error fault := by
  unfold stop? at stops
  cases state : v.state with
  | unknown =>
    simp only [state, Option.some.injEq] at stops
    exact .inl ⟨rfl, stops.symm⟩
  | null =>
    simp only [state, Option.some.injEq] at stops
    exact .inr (.inl ⟨rfl, stops.symm⟩)
  | known =>
    cases found : attribute? v name with
    | error fault =>
      simp only [state, found, Option.some.injEq] at stops
      exact .inr (.inr (.inr ⟨fault, stops.symm, rfl, rfl⟩))
    | ok next? =>
      cases next? with
      | some next => simp [state, found] at stops
      | none =>
        simp only [state, found, Option.some.injEq] at stops
        exact .inr (.inr (.inl ⟨rfl, stops.symm⟩))

/-- A walk that stops has come to nothing that is known, or ends with the fault of an attribute. -/
theorem stop?_cases {v : Value} {name : String} {result : Except Fault (Value × Diagnostics)}
    (stops : stop? v name = some result) :
    (∃ reports, result = .ok (.unknown, reports) ∧ (reports = [] → v.state = .unknown) ∧
        ∀ d ∈ reports, d.isPlaceless = true) ∨
      ∃ fault, result = .error fault ∧ v.state = .known ∧ attribute? v name = .error fault := by
  rcases reason_of_stop? stops with ⟨state, rfl⟩ | ⟨-, rfl⟩ | ⟨-, rfl⟩ | broken
  · exact .inl ⟨[], rfl, fun _ => state, by simp⟩
  · exact .inl ⟨_, rfl, by simp, by simp [nullAttribute]⟩
  · exact .inl ⟨_, rfl, by simp, by simp [unsupportedAttribute]⟩
  · exact .inr broken

/-- A walk ends with a fault when an attribute on its way has one. -/
theorem walk_eq_error_iff {v : Value} {path : List String} {fault : Fault} :
    walk v path = .error fault ↔ ∃ before name after found, path = before ++ name :: after ∧
      Reaches v before found ∧ found.state = .known ∧ attribute? found name = .error fault := by
  constructor
  · intro failed
    rcases walk_cases v path with ⟨found, way, done⟩ |
      ⟨before, name, after, found, result, rfl, way, stops, done⟩
    · simp [failed] at done
    · rcases stop?_cases stops with ⟨reports, rfl, -⟩ | ⟨fault', rfl, known, broken⟩
      · simp [failed] at done
      · cases failed.symm.trans done
        exact ⟨before, name, after, found, rfl, way, known, broken⟩
  · rintro ⟨before, name, after, found, rfl, way, known, broken⟩
    rw [walk_of_reaches way]
    exact walk_of_stop? (by simp [stop?, known, broken]) after

/-- What is kept from a value to that of an attribute holds of all values on the way. -/
theorem Reaches.keeps {invariant : Value → Prop}
    (kept : ∀ (v : Value) (name : String) (d : Data), invariant v →
      attributeData? v.raw name = .ok (some d) → invariant (wrap d))
    {v found : Value} {path : List String} (way : Reaches v path found) (start : invariant v) :
    invariant found := by
  induction way with
  | here => exact start
  | step known has _ ih =>
    obtain ⟨d, data, wrapping⟩ := attribute?_eq_ok_some_iff.1 has
    rw [← (ofData_eq_ok_iff.1 wrapping).2] at ih
    exact ih (kept _ _ d start data)

/-- The content of what is reached passes the tests that the content of the start passes at every
depth. -/
theorem Reaches.everywhere_raw {p : Data → Bool} {v found : Value} {path : List String}
    (way : v.Reaches path found) (passed : v.raw.everywhere p = true) :
    found.raw.everywhere p = true :=
  @Reaches.keeps (fun v => v.raw.everywhere p = true)
    (fun _ _ _ here data => Data.everywhere_raw_wrap (Data.everywhere_of_attributeData? here data))
    _ _ _ way passed

theorem Reaches.isKnown_start {v found : Value} {path : List String} (way : Reaches v path found)
    (known : found.isKnown = true) : v.isKnown = true := by
  cases way with
  | here => exact known
  | step state _ _ => simp [Value.isKnown, state]

/-- From data without unknown values at any depth no unknown value is reached. -/
theorem Reaches.isKnown {d : Data} {found : Value} {path : List String}
    (way : (wrap d).Reaches path found) (settled : d.everywhere (!·.isPending) = true) :
    found.isKnown = true := by
  have settled_wrap (d : Data) (settled : d.everywhere (!·.isPending) = true) :
      (wrap d).isKnown = true ∧ (wrap d).raw.everywhere (!·.isPending) = true :=
    ⟨by simp [isKnown_wrap, Data.not_isPending_of_everywhere settled],
      Data.everywhere_raw_wrap settled⟩
  have reached : found.isKnown = true ∧ found.raw.everywhere (!·.isPending) = true :=
    @Reaches.keeps (fun v => v.isKnown = true ∧ v.raw.everywhere (!·.isPending) = true)
      (fun _ _ d here data =>
        settled_wrap d (Data.everywhere_of_attributeData? here.2 data)) _ _ _ way
      (settled_wrap d settled)
  exact reached.1

end StagedChecks.Value
