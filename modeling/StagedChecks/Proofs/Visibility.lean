import StagedChecks.Expression
import StagedChecks.Proofs.Resolution

/-!
# What a condition sees

The references of a condition are those of its well-formed traversals, and different traversals
never stand in each other's way. So the scope shows every well-formed traversal with the value that
its own reference is resolved to, and nothing else.

## Main statements

* `Bindings.keys_of_scope` — the visible traversals.
* `Bindings.get?_of_scope` — their values.
* `Bindings.mem_reports_of_scope` — what is reported.
* `Bindings.silent_of_visible` — nothing is reported when every traversal is visible with a known
  value.
-/

namespace StagedChecks

/-- Whether some traversals are visible with known values. -/
def Variables.Know (visible : Variables) (ts : List String) : Prop :=
  ∀ t ∈ ts, ∃ v, Table.get? visible t = some v ∧ v.isKnown = true

namespace Bindings

variable {b : Bindings} {selfRef : Option String} {repetition : Repetition} {ts : List String}
  {visible : Variables} {reports : Diagnostics}

/-- The scope of the references among some traversals shows each once. -/
theorem scope_analyse_eq_ok_iff :
    b.scope selfRef repetition (Reference.analyse ts).1 = .ok (visible, reports) ↔
      ∃ answer : Reference → Value × Diagnostics,
        (∀ r ∈ (Reference.analyse ts).1, b.resolve selfRef repetition r = .ok (answer r)) ∧
        visible = (Reference.analyse ts).1.map (fun r => (r.traversal, (answer r).1)) ∧
        reports = (Reference.analyse ts).1.flatMap fun r => (answer r).2 := by
  have distinct (answer : Reference → Value × Diagnostics) :
      (Table.keys ((Reference.analyse ts).1.map fun r => (r.traversal, (answer r).1))).Nodup := by
    simpa [Table.keys, Function.comp_def] using Reference.nodup_map_traversal_analyse ts
  simp only [scope_eq_ok_iff, Table.ofPairs_of_nodup (distinct _)]

/-- The visible traversals are the well-formed ones, each once and in order of first occurrence. -/
theorem keys_of_scope
    (seen : b.scope selfRef repetition (Reference.analyse ts).1 = .ok (visible, reports)) :
    Table.keys visible = (ts.filter fun t => (Reference.parse? t).isSome).eraseDups := by
  obtain ⟨answer, -, rfl, -⟩ := scope_analyse_eq_ok_iff.1 seen
  simpa [Table.keys, Function.comp_def] using Reference.map_traversal_analyse ts

/-- A traversal is visible with the value that its own reference is resolved to. -/
theorem get?_of_scope
    (seen : b.scope selfRef repetition (Reference.analyse ts).1 = .ok (visible, reports))
    {t : String} {v : Value} :
    Table.get? visible t = some v ↔ t ∈ ts ∧ ∃ r found, Reference.parse t = .ok r ∧
      b.resolve selfRef repetition r = .ok (v, found) := by
  obtain ⟨answer, each, shown, -⟩ := scope_analyse_eq_ok_iff.1 seen
  constructor
  · intro here
    have entry := Table.mem_of_get? here
    rw [shown] at entry
    obtain ⟨r, member, same⟩ := List.mem_map.1 entry
    cases same
    obtain ⟨t, used, read⟩ := Reference.mem_analyse_iff.1 member
    rw [Reference.traversal_of_parse read]
    exact ⟨used, r, _, read, each r member⟩
  · rintro ⟨used, r, found, read, done⟩
    have member : r ∈ (Reference.analyse ts).1 := Reference.mem_analyse_iff.2 ⟨t, used, read⟩
    have same : answer r = (v, found) := Except.ok.inj ((each r member).symm.trans done)
    apply Table.get?_of_mem
    · rw [keys_of_scope seen]
      exact nodup_eraseDups _
    · rw [shown]
      exact List.mem_map.2 ⟨r, member, by rw [Reference.traversal_of_parse read, same]⟩

/-- What is reported is what resolving the references reports. -/
theorem mem_reports_of_scope
    (seen : b.scope selfRef repetition (Reference.analyse ts).1 = .ok (visible, reports))
    {d : Diagnostic} :
    d ∈ reports ↔ ∃ t ∈ ts, ∃ r v found, Reference.parse t = .ok r ∧
      b.resolve selfRef repetition r = .ok (v, found) ∧ d ∈ found := by
  obtain ⟨answer, each, -, rfl⟩ := scope_analyse_eq_ok_iff.1 seen
  simp only [List.mem_flatMap, Reference.mem_analyse_iff]
  constructor
  · rintro ⟨r, ⟨t, used, read⟩, member⟩
    exact ⟨t, used, r, _, _, read, each r (Reference.mem_analyse_iff.2 ⟨t, used, read⟩), member⟩
  · rintro ⟨t, used, r, v, found, read, done, member⟩
    have same := (each r (Reference.mem_analyse_iff.2 ⟨t, used, read⟩)).symm.trans done
    exact ⟨r, ⟨t, used, read⟩, by rw [Except.ok.inj same]; exact member⟩

/-- Nothing is reported before the value of a condition is known, if that needs every traversal to
be visible with a known value; and then nothing else is visible. -/
theorem silent_of_visible
    (seen : b.scope selfRef repetition (Reference.analyse ts).1 = .ok (visible, reports))
    (known : visible.Know ts) :
    (Reference.analyse ts).2 = [] ∧ reports = [] ∧ Table.keys visible = ts.eraseDups ∧
      ∀ e ∈ visible, e.2.isKnown = true := by
  have read : ∀ t ∈ ts, (Reference.parse? t).isSome := by
    intro t used
    obtain ⟨v, here, -⟩ := known t used
    obtain ⟨-, r, -, read, -⟩ := (get?_of_scope seen).1 here
    simp [Reference.parse?_eq_some_iff.2 read]
  have keys : Table.keys visible = ts.eraseDups := by
    rw [keys_of_scope seen, List.filter_eq_self.2 read]
  refine ⟨Reference.analyse_reports_eq_nil_iff.2 read, ?_, keys, ?_⟩
  · refine List.eq_nil_iff_forall_not_mem.2 fun d member => ?_
    obtain ⟨t, used, r, v, found, read, done, member⟩ := (mem_reports_of_scope seen).1 member
    have here := (get?_of_scope seen).2 ⟨used, r, found, read, done⟩
    obtain ⟨v', here', isKnown⟩ := known t used
    cases here.symm.trans here'
    simp [((resolve_eq_ok_known_iff isKnown).1 done).1] at member
  · rintro ⟨t, v⟩ member
    have distinct : (Table.keys visible).Nodup := keys ▸ nodup_eraseDups ts
    have used : t ∈ ts := by
      rw [← List.mem_eraseDups, ← keys]
      exact List.mem_map.2 ⟨_, member, rfl⟩
    obtain ⟨v', here, isKnown⟩ := known t used
    cases (Table.get?_of_mem distinct member).symm.trans here
    exact isKnown

end Bindings

end StagedChecks
