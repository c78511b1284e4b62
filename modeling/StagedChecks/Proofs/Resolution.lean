import StagedChecks.Bindings.Resolve
import StagedChecks.Proofs.Traversal
import StagedChecks.Proofs.Walk

/-!
# Resolving references

A subject stands for data of the bindings or of the repetition, or it is absent and reported. Only
the absence of the subject and a walk that stops are reported, so that a reference with a known
value is resolved in silence.

## Main definitions

* `Bindings.origin?` — the data that a subject stands for.

## Main statements

* `Bindings.subject_cases` — a subject stands for data or is reported.
* `Bindings.resolve_cases` — a reference is resolved in silence to the end of its path, or to an
  unknown value, or it ends with the fault of an attribute.
* `Bindings.scope_eq_ok_iff` — references are resolved one by one.
-/

namespace StagedChecks

namespace Repetition

/-- All data of a repetition. -/
def fields (r : Repetition) : List Data :=
  [r.countIndex, r.eachKey, r.eachValue]

/-- Whether the data of a repetition passes a test at every depth. -/
def everywhere (p : Data → Bool) (r : Repetition) : Bool :=
  r.fields.all (·.everywhere p)

/-- Whether a subject stands for data of the repetition. -/
def isSubject (name : String) : Bool :=
  name == "count.index" || name == "each.key" || name == "each.value"

end Repetition

namespace Bindings

variable {b : Bindings} {selfRef : Option String} {repetition : Repetition}

theorem wrapTable_eq_ok_iff {table : Table Data} {wrapped : Table Value} :
    wrapTable table = .ok wrapped ↔
      (∀ e ∈ table, e.2.firstForeign? = none) ∧ wrapped = Table.mapValues Value.wrap table := by
  unfold wrapTable
  rw [mapM_with_eq_ok_iff]
  constructor
  · rintro ⟨value, each, rfl⟩
    refine ⟨fun e member => (Value.ofData_eq_ok_iff.1 (each e member)).1, ?_⟩
    exact List.map_congr_left fun e member =>
      congrArg (e.1, ·) (Value.ofData_eq_ok_iff.1 (each e member)).2.symm
  · rintro ⟨clean, rfl⟩
    exact ⟨fun e => Value.wrap e.2,
      fun e member => Value.ofData_eq_ok_iff.2 ⟨clean e member, rfl⟩, rfl⟩

/-- Bindings are built of data without foreign objects, by wrapping it. -/
theorem ofData_eq_ok_iff {values instances : Table Data} :
    ofData values instances = .ok b ↔
      (∀ e ∈ values, e.2.firstForeign? = none) ∧ (∀ e ∈ instances, e.2.firstForeign? = none) ∧
        b = ⟨Table.mapValues Value.wrap values, Table.mapValues Value.wrap instances⟩ := by
  unfold ofData
  simp only [bind_eq_ok_iff, wrapTable_eq_ok_iff]
  constructor
  · rintro ⟨_, ⟨first, rfl⟩, _, ⟨second, rfl⟩, same⟩
    cases same
    exact ⟨first, second, rfl⟩
  · rintro ⟨first, second, rfl⟩
    exact ⟨_, ⟨first, rfl⟩, _, ⟨second, rfl⟩, rfl⟩

/-- The data that a subject stands for: an instance, data of the repetition or a named value. -/
def origin? (b : Bindings) (selfRef : Option String) (repetition : Repetition) (name : String) :
    Option Data :=
  if name = "self" then (selfRef.bind b.instance?).map Value.toData
  else if name = "count.index" then
    if repetition.hasCount then some repetition.countIndex else none
  else if name = "each.key" || name = "each.value" then
    if repetition.hasEach then
      some (if name = "each.key" then repetition.eachKey else repetition.eachValue)
    else none
  else (b.value? name).map Value.toData

def everywhere (p : Data → Bool) (b : Bindings) : Bool :=
  (b.values.all fun e => e.2.toData.everywhere p) &&
    b.instances.all fun e => e.2.toData.everywhere p

/-- Bindings that are built of data pass a test at every depth if all that is wrapped does. -/
theorem everywhere_of_wrapped {p : Data → Bool} {values instances : Table Data}
    (wrapped : ∀ e ∈ values ++ instances, (Value.wrap e.2).toData.everywhere p = true)
    (built : ofData values instances = .ok b) : b.everywhere p = true := by
  obtain ⟨-, -, rfl⟩ := ofData_eq_ok_iff.1 built
  simp only [List.mem_append, or_imp, forall_and] at wrapped
  simpa [everywhere, Table.mapValues] using wrapped

/-- A subject stands for a value or an instance, or for data of the repetition. -/
theorem mem_of_origin? {name : String} {d : Data}
    (origin : b.origin? selfRef repetition name = some d) :
    (∃ key v, (key, v) ∈ b.values ++ b.instances ∧ d = v.toData) ∨
      (Repetition.isSubject name = true ∧ d ∈ repetition.fields) := by
  unfold origin? at origin
  split at origin
  · obtain ⟨v, found, rfl⟩ := Option.map_eq_some_iff.1 origin
    obtain ⟨s, -, found⟩ := Option.bind_eq_some_iff.1 found
    exact .inl ⟨s, v, List.mem_append_right _ (Table.mem_of_get? found), rfl⟩
  · split at origin
    · split at origin <;> cases origin
      exact .inr ⟨by simp_all [Repetition.isSubject], by simp [Repetition.fields]⟩
    · split at origin
      · split at origin <;> cases origin
        refine .inr ⟨by simp_all [Repetition.isSubject], ?_⟩
        split <;> simp [Repetition.fields]
      · obtain ⟨v, found, rfl⟩ := Option.map_eq_some_iff.1 origin
        exact .inl ⟨name, v, List.mem_append_left _ (Table.mem_of_get? found), rfl⟩

/-- A test that the bindings and the repetition pass is passed by what subjects stand for. -/
theorem everywhere_of_origin? {p : Data → Bool} {name : String} {d : Data}
    (bindings : b.everywhere p = true)
    (repeated : Repetition.isSubject name = true → repetition.everywhere p = true)
    (origin : b.origin? selfRef repetition name = some d) : d.everywhere p = true := by
  simp only [everywhere, ← List.all_append, List.all_eq_true] at bindings
  rcases mem_of_origin? origin with ⟨key, v, member, rfl⟩ | ⟨owned, member⟩
  · exact bindings _ member
  · exact List.all_eq_true.1 (repeated owned) d member

theorem foundOr_cases {absence : Diagnostic} (report : absence.isPlaceless = true)
    (found : Option Value) :
    (∃ d, found.map Value.toData = some d ∧
        .ok (foundOr found absence) = (Value.ofData d).map (·, ([] : Diagnostics))) ∨
      (found.map Value.toData = none ∧ ∃ typeName reported,
        Except.ok (ε := Fault) (foundOr found absence) = .ok (.unknown typeName, [reported]) ∧
          reported.isPlaceless = true) := by
  cases found with
  | some v => exact .inl ⟨v.toData, rfl, rfl⟩
  | none => exact .inr ⟨rfl, _, absence, rfl, report⟩

/-- A subject is wrapped data, or it is unknown and its absence is the only report. -/
theorem subject_cases (b : Bindings) (selfRef : Option String) (repetition : Repetition)
    (name : String) :
    (∃ d, b.origin? selfRef repetition name = some d ∧
        b.subject selfRef repetition name = (Value.ofData d).map (·, [])) ∨
      (b.origin? selfRef repetition name = none ∧ ∃ typeName absence,
        b.subject selfRef repetition name = .ok (.unknown typeName, [absence]) ∧
          absence.isPlaceless = true) := by
  unfold origin? subject
  by_cases self : name = "self"
  · simpa [self] using foundOr_cases rfl (selfRef.bind b.instance?)
  by_cases count : name = "count.index"
  · by_cases counted : repetition.hasCount
    · exact .inl ⟨repetition.countIndex, by simp [count, counted]⟩
    · exact .inr ⟨by simp [count, counted], "number", countUnavailable,
        by simp [count, counted], rfl⟩
  by_cases each : (name = "each.key" || name = "each.value") = true
  · by_cases repeated : repetition.hasEach
    · refine .inl ⟨if name = "each.key" then repetition.eachKey else repetition.eachValue, ?_⟩
      simp only [self, count, each, repeated, if_true, if_false, true_and]
    · exact .inr ⟨by simp [self, count, each, repeated], "dynamic", eachUnavailable,
        by simp [self, count, each, repeated], rfl⟩
  · simpa [self, count, each] using foundOr_cases rfl (b.value? name)

/-- Behind its subject a reference is resolved by walking along its path. -/
theorem resolve_of_subject {r : Reference} {base : Value} {before : Diagnostics}
    (found : b.subject selfRef repetition r.subject = .ok (base, before)) :
    b.resolve selfRef repetition r =
      (base.walk r.path).map fun answer => (answer.1, before ++ answer.2) := by
  cases walked : base.walk r.path <;>
    simp [resolve, found, walked, Except.map, bind, Except.bind, pure, Except.pure]

/-- A reference whose subject stands for data is resolved by walking along its path. -/
theorem resolve_of_origin? {r : Reference} {d : Data}
    (origin : b.origin? selfRef repetition r.subject = some d) (clean : d.firstForeign? = none) :
    b.resolve selfRef repetition r = (Value.wrap d).walk r.path := by
  rcases b.subject_cases selfRef repetition r.subject with ⟨d', origin', subject⟩ | ⟨absent, -⟩
  · cases origin.symm.trans origin'
    have wrapping : Value.ofData d = .ok (Value.wrap d) := Value.ofData_eq_ok_iff.2 ⟨clean, rfl⟩
    rw [wrapping] at subject
    rw [resolve_of_subject subject]
    cases (Value.wrap d).walk r.path <;> rfl
  · cases origin.symm.trans absent

/-- A reference is resolved in silence to a value on the way of its path, or with findings to an
unknown value, or it ends with the fault of its subject or of an attribute. Silence about an unknown
value means that one was met on the way. -/
theorem resolve_cases (b : Bindings) (selfRef : Option String) (repetition : Repetition)
    (r : Reference) :
    (∃ d v, b.origin? selfRef repetition r.subject = some d ∧ d.firstForeign? = none ∧
        (Value.wrap d).Reaches r.path v ∧ b.resolve selfRef repetition r = .ok (v, [])) ∨
      (∃ v reports, b.resolve selfRef repetition r = .ok (v, reports) ∧ v.isKnown = false ∧
        (∀ x ∈ reports, x.isPlaceless = true) ∧
        (reports = [] → ∃ d before found, b.origin? selfRef repetition r.subject = some d ∧
          (Value.wrap d).Reaches before found ∧ found.isKnown = false)) ∨
      ∃ d fault, b.origin? selfRef repetition r.subject = some d ∧
        b.resolve selfRef repetition r = .error fault ∧
        (d.firstForeign? ≠ none ∨ (Value.wrap d).walk r.path = .error fault) := by
  rcases b.subject_cases selfRef repetition r.subject with ⟨d, origin, subject⟩ |
    ⟨-, typeName, absence, subject, finding⟩
  · cases clean : d.firstForeign? with
    | some kind =>
      have failed : b.resolve selfRef repetition r = .error (.unsupportedData kind) := by
        unfold resolve Value.ofData at *
        rw [subject, clean]
        rfl
      exact .inr (.inr ⟨d, _, origin, failed, .inl (by simp [clean])⟩)
    | none =>
      rw [resolve_of_origin? origin clean]
      rcases Value.walk_cases (Value.wrap d) r.path with ⟨v, way, done⟩ |
        ⟨before, name, after, found, result, path, way, stops, done⟩
      · exact .inl ⟨d, v, origin, clean, way, done⟩
      · rcases Value.stop?_cases stops with ⟨reports, rfl, silent, findings⟩ | ⟨fault, rfl, -, -⟩
        · refine .inr (.inl ⟨.unknown, reports, done, rfl, findings, fun none_ => ?_⟩)
          exact ⟨d, before, found, origin, way, by simp [Value.isKnown, silent none_]⟩
        · exact .inr (.inr ⟨d, fault, origin, done, .inr done⟩)
  · -- Behind an absent subject everything is unknown, and its absence stays the only report.
    have unknown : ∃ v, (Value.unknown typeName).walk r.path = .ok (v, []) ∧ v.isKnown = false := by
      cases r.path with
      | nil => exact ⟨_, rfl, rfl⟩
      | cons name path => exact ⟨.unknown, rfl, rfl⟩
    obtain ⟨v, done, pending⟩ := unknown
    have reported : b.resolve selfRef repetition r = .ok (v, [absence]) := by
      rw [resolve_of_subject subject, done]
      rfl
    exact .inr (.inl ⟨v, [absence], reported, pending, by simp [finding], by simp⟩)

/-- A known value is reached from the data of the subject, and nothing is reported. -/
theorem resolve_eq_ok_known_iff {r : Reference} {v : Value} {reports : Diagnostics}
    (known : v.isKnown = true) :
    b.resolve selfRef repetition r = .ok (v, reports) ↔ reports = [] ∧
      ∃ d, b.origin? selfRef repetition r.subject = some d ∧ d.firstForeign? = none ∧
        (Value.wrap d).Reaches r.path v := by
  constructor
  · intro done
    rcases b.resolve_cases selfRef repetition r with ⟨d, v', origin, clean, way, silent⟩ |
      ⟨v', reports', reported, pending, -⟩ | ⟨d, fault, -, failed, -⟩
    · cases done.symm.trans silent
      exact ⟨rfl, d, origin, clean, way⟩
    · cases done.symm.trans reported
      simp [known] at pending
    · cases done.symm.trans failed
  · rintro ⟨rfl, d, origin, clean, way⟩
    rw [resolve_of_origin? origin clean]
    simpa using Value.walk_of_reaches way []

/-- Where nothing is unknown at any depth, every reference without a known value is reported. -/
theorem reported_of_resolve {r : Reference} {v : Value} {reports : Diagnostics}
    (bindings : b.everywhere (!·.isPending) = true)
    (repeated : repetition.everywhere (!·.isPending) = true)
    (done : b.resolve selfRef repetition r = .ok (v, reports)) (pending : v.isKnown = false) :
    reports ≠ [] := by
  have known {d : Data} {path : List String} {found : Value}
      (origin : b.origin? selfRef repetition r.subject = some d)
      (way : (Value.wrap d).Reaches path found) : found.isKnown = true :=
    way.isKnown (everywhere_of_origin? bindings (fun _ => repeated) origin)
  rcases b.resolve_cases selfRef repetition r with ⟨d, v', origin, -, way, silent⟩ |
    ⟨v', reports', reported, -, -, met⟩ | ⟨d, fault, -, failed, -⟩
  · cases done.symm.trans silent
    simp [known origin way] at pending
  · cases done.symm.trans reported
    intro silent
    obtain ⟨d, before, found, origin, way, unknown⟩ := met silent
    simp [known origin way] at unknown
  · cases done.symm.trans failed

theorem isPlaceless_of_resolve {r : Reference} {v : Value} {reports : Diagnostics}
    (done : b.resolve selfRef repetition r = .ok (v, reports)) :
    ∀ d ∈ reports, d.isPlaceless = true := by
  rcases b.resolve_cases selfRef repetition r with ⟨d, v', -, -, -, silent⟩ |
    ⟨v', reports', reported, -, findings, -⟩ | ⟨d, fault, -, failed, -⟩
  · cases done.symm.trans silent
    simp
  · cases done.symm.trans reported
    exact findings
  · cases done.symm.trans failed

/-- References are resolved one by one: the values are written under the traversals in order, and
the reports follow one another. -/
theorem scope_eq_ok_iff {references : List Reference} {visible : Variables}
    {reports : Diagnostics} :
    b.scope selfRef repetition references = .ok (visible, reports) ↔
      ∃ answer : Reference → Value × Diagnostics,
        (∀ r ∈ references, b.resolve selfRef repetition r = .ok (answer r)) ∧
        visible = Table.ofPairs (references.map fun r => (r.traversal, (answer r).1)) ∧
        reports = references.flatMap fun r => (answer r).2 := by
  unfold scope
  simp only [bind_eq_ok_iff, mapM_with_eq_ok_iff]
  constructor
  · rintro ⟨found, ⟨answer, each, rfl⟩, same⟩
    cases same
    exact ⟨answer, each, by simp [Table.mapValues, Function.comp_def], by simp [List.flatMap_map]⟩
  · rintro ⟨answer, each, rfl, rfl⟩
    exact ⟨_, ⟨answer, each, rfl⟩,
      by simp [Table.mapValues, Function.comp_def, List.flatMap_map, pure, Except.pure]⟩

/-- Resolving references fails at the first one that cannot be resolved, and with its fault. -/
theorem scope_eq_error_iff {references : List Reference} {fault : Fault} :
    b.scope selfRef repetition references = .error fault ↔
      ∃ before r after, references = before ++ r :: after ∧
        (∀ earlier ∈ before, ∃ answer, b.resolve selfRef repetition earlier = .ok answer) ∧
        b.resolve selfRef repetition r = .error fault := by
  have whole : b.scope selfRef repetition references =
      (references.mapM fun r => (b.resolve selfRef repetition r).map (r.traversal, ·)).map
        fun found => (Table.ofPairs (Table.mapValues (·.1) found), found.flatMap (·.2.2)) := rfl
  have returns {r : Reference} :
      (∃ y, (b.resolve selfRef repetition r).map (r.traversal, ·) = .ok y) ↔
        ∃ answer, b.resolve selfRef repetition r = .ok answer := by
    cases b.resolve selfRef repetition r <;> simp [Except.map]
  simp only [whole, map_eq_error_iff, mapM_eq_error_iff, returns]

/-- The scope of one reference shows nothing but its value. -/
theorem scope_singleton (b : Bindings) (selfRef : Option String) (repetition : Repetition)
    (r : Reference) :
    b.scope selfRef repetition [r] =
      (b.resolve selfRef repetition r).map fun answer => ([(r.traversal, answer.1)], answer.2) := by
  cases resolved : b.resolve selfRef repetition r <;>
    simp [scope, resolved, Except.map, bind, Except.bind, pure, Except.pure, Table.mapValues,
      Table.ofPairs, Table.put]

/-- Resolving depends on nothing but how each reference is resolved. -/
theorem scope_congr {b' : Bindings} {selfRef' : Option String} {repetition' : Repetition}
    {references : List Reference}
    (same : ∀ r ∈ references,
      b'.resolve selfRef' repetition' r = b.resolve selfRef repetition r) :
    b'.scope selfRef' repetition' references = b.scope selfRef repetition references := by
  unfold scope
  rw [mapM_congr fun r member => by rw [same r member]]

end Bindings

end StagedChecks
