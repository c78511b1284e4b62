import Mathlib.Data.List.Nodup
import StagedChecks.Proofs.Faults

/-!
# References side by side

References are resolved one after the other, and none has anything to do with another one. A table
of values is built from them in which the last of several references with one text counts; what is
reported about each of them is kept. References that were read have different texts, so that only
the order of the reports tells in which order they stand.

## Main statements

* `Table.ofPairs_perm` — pairs without contradictions may be written in any order.
* `Bindings.get?_of_last` — the last reference with a text counts.
* `Bindings.scope_perm` — references in another order.
* `Bindings.scope_of_each` — the scope of some references is made of those of each alone.
-/

namespace StagedChecks

namespace Table

variable {α : Type} {table updates pairs pairs' : Table α} {key : String} {value : α}

theorem mem_keys_put {other : String} :
    other ∈ keys (put table key value) ↔ other ∈ keys table ∨ other = key := by
  rw [keys_put]
  by_cases old : key ∈ keys table
  · rw [if_pos old]
    exact ⟨.inl, fun member => member.elim id fun same => same ▸ old⟩
  · simp [old]

theorem nodup_keys_put (distinct : (keys table).Nodup) : (keys (put table key value)).Nodup := by
  rw [keys_put]
  by_cases old : key ∈ keys table
  · rwa [if_pos old]
  · rw [if_neg old, List.nodup_append]
    refine ⟨distinct, List.nodup_singleton key, ?_⟩
    rintro k held k' new rfl
    rw [List.mem_singleton] at new
    exact old (new ▸ held)

/-- After some entries were written, the keys are those from before and theirs. -/
theorem mem_keys_merge :
    key ∈ keys (merge table updates) ↔ key ∈ keys table ∨ key ∈ keys updates := by
  induction updates generalizing table with
  | nil => simp [keys]
  | cons entry updates ih =>
    obtain ⟨k, x⟩ := entry
    rw [merge_cons, ih, mem_keys_put, or_assoc]
    simp [keys]

theorem nodup_keys_merge (distinct : (keys table).Nodup) : (keys (merge table updates)).Nodup := by
  induction updates generalizing table with
  | nil => exact distinct
  | cons entry updates ih => exact ih (nodup_keys_put distinct)

/-- Pairs that do not contradict each other are the entries of the table that is built from them. -/
theorem get?_ofPairs_of_agree (agree : ∀ e ∈ pairs, ∀ e' ∈ pairs, e.1 = e'.1 → e.2 = e'.2) :
    get? (ofPairs pairs) key = some value ↔ (key, value) ∈ pairs := by
  rw [get?_ofPairs]
  constructor
  · exact fun found => List.mem_reverse.1 (mem_of_get? found)
  · intro member
    cases found : get? pairs.reverse key with
    | none =>
      refine absurd (List.mem_map.2 ⟨_, List.mem_reverse.2 member, rfl⟩) (get?_eq_none_iff.1 found)
    | some value' =>
      exact congrArg some (agree _ (List.mem_reverse.1 (mem_of_get? found)) _ member rfl)

theorem mem_iff_get? (distinct : (keys table).Nodup) :
    (key, value) ∈ table ↔ get? table key = some value :=
  ⟨get?_of_mem distinct, mem_of_get?⟩

/-- From pairs that do not contradict each other the same table is built in any order. -/
theorem ofPairs_perm (agree : ∀ e ∈ pairs, ∀ e' ∈ pairs, e.1 = e'.1 → e.2 = e'.2)
    (reordered : pairs'.Perm pairs) : (ofPairs pairs').Perm (ofPairs pairs) := by
  have built (pairs : Table α) : (keys (ofPairs pairs)).Nodup := nodup_keys_merge List.nodup_nil
  rw [List.perm_ext_iff_of_nodup (built pairs').of_map (built pairs).of_map]
  rintro ⟨key, value⟩
  have agree' : ∀ e ∈ pairs', ∀ e' ∈ pairs', e.1 = e'.1 → e.2 = e'.2 :=
    fun e member e' member' => agree e (reordered.subset member) e' (reordered.subset member')
  rw [mem_iff_get? (built pairs'), mem_iff_get? (built pairs), get?_ofPairs_of_agree agree,
    get?_ofPairs_of_agree agree', reordered.mem_iff]

end Table

namespace Reference

/-- References that were read are told from each other by their texts. -/
theorem eq_of_traversal_eq {t t' : String} {r r' : Reference} (read : parse t = .ok r)
    (read' : parse t' = .ok r') (same : r.traversal = r'.traversal) : r = r' := by
  rw [traversal_of_parse read, traversal_of_parse read'] at same
  rw [same, read'] at read
  exact (Except.ok.inj read).symm

end Reference

namespace Bindings

variable {b : Bindings} {selfRef : Option String} {repetition : Repetition}
  {references references' : List Reference} {r : Reference} {visible shown : Variables}
  {reports found : Diagnostics}

theorem scope_singleton_eq_ok_iff :
    b.scope selfRef repetition [r] = .ok (shown, found) ↔
      ∃ v, b.resolve selfRef repetition r = .ok (v, found) ∧ shown = [(r.traversal, v)] := by
  rw [scope_singleton, map_eq_ok_iff]
  constructor
  · rintro ⟨⟨v, found⟩, resolved, same⟩
    cases same
    exact ⟨v, resolved, rfl⟩
  · rintro ⟨v, resolved, rfl⟩
    exact ⟨_, resolved, rfl⟩

/-- The visible texts are those of the references, each once. -/
theorem keys_of_scope_references
    (seen : b.scope selfRef repetition references = .ok (visible, reports)) :
    (Table.keys visible).Nodup ∧
      ∀ key, key ∈ Table.keys visible ↔ ∃ r ∈ references, r.traversal = key := by
  obtain ⟨answer, -, rfl, -⟩ := scope_eq_ok_iff.1 seen
  refine ⟨Table.nodup_keys_merge List.nodup_nil, fun key => ?_⟩
  rw [Table.ofPairs, Table.mem_keys_merge]
  simp [Table.keys]

/-- A text is visible with what the last reference with that text is resolved to. -/
theorem get?_of_last (seen : b.scope selfRef repetition references = .ok (visible, reports))
    {before after : List Reference} (split : references = before ++ r :: after)
    (last : ∀ later ∈ after, later.traversal ≠ r.traversal) :
    ∃ v found, b.resolve selfRef repetition r = .ok (v, found) ∧
      Table.get? visible r.traversal = some v := by
  obtain ⟨answer, each, rfl, -⟩ := scope_eq_ok_iff.1 seen
  refine ⟨(answer r).1, (answer r).2, each r (by simp [split]), ?_⟩
  have absent : Table.get? (after.map fun r => (r.traversal, (answer r).1)).reverse r.traversal =
      none := by
    rw [Table.get?_eq_none_iff]
    simpa [Table.keys] using last
  rw [Table.get?_ofPairs, split, List.map_append, List.map_cons, List.reverse_append,
    List.reverse_cons, List.append_assoc, Table.get?_append, absent]
  simp

theorem reports_of_scope (seen : b.scope selfRef repetition references = .ok (visible, reports)) :
    ∃ alone : Reference → Diagnostics,
      (∀ r ∈ references, ∃ v, b.resolve selfRef repetition r = .ok (v, alone r)) ∧
        reports = references.flatMap alone := by
  obtain ⟨answer, each, -, rfl⟩ := scope_eq_ok_iff.1 seen
  exact ⟨fun r => (answer r).2, fun r member => ⟨(answer r).1, each r member⟩, rfl⟩

/-- References that were read show the same values in any order, and the reports of each stay
together. -/
theorem scope_perm (seen : b.scope selfRef repetition references = .ok (visible, reports))
    (read : ∀ r ∈ references, ∃ t, Reference.parse t = .ok r)
    (reordered : references'.Perm references) :
    ∃ visible' reports', b.scope selfRef repetition references' = .ok (visible', reports') ∧
      visible'.Perm visible ∧ reports'.Perm reports := by
  obtain ⟨answer, each, rfl, rfl⟩ := scope_eq_ok_iff.1 seen
  refine ⟨_, _, scope_eq_ok_iff.2 ⟨answer, fun r member => each r (reordered.subset member), rfl,
    rfl⟩, Table.ofPairs_perm ?_ (reordered.map _), reordered.flatMap_right _⟩
  -- Different references have different texts, so there is nothing to contradict.
  intro e member e' member' same
  obtain ⟨r, used, rfl⟩ := List.mem_map.1 member
  obtain ⟨r', used', rfl⟩ := List.mem_map.1 member'
  obtain ⟨t, here⟩ := read r used
  obtain ⟨t', here'⟩ := read r' used'
  rw [Reference.eq_of_traversal_eq here here' same]

theorem scope_fails_iff :
    (∃ fault, b.scope selfRef repetition references = .error fault) ↔
      ∃ r ∈ references, ∃ fault, b.resolve selfRef repetition r = .error fault := by
  have returns := @scope_returns_iff b selfRef repetition references
  simp only [exists_eq_ok_iff] at returns
  simpa using not_congr returns

theorem resolve_returns_iff_scope :
    (∃ answer, b.resolve selfRef repetition r = .ok answer) ↔
      ∃ alone, b.scope selfRef repetition [r] = .ok alone := by
  simp only [scope_singleton, map_eq_ok_iff]
  exact ⟨fun ⟨answer, done⟩ => ⟨_, answer, done, rfl⟩, fun ⟨_, answer, done, _⟩ => ⟨answer, done⟩⟩

theorem resolve_eq_error_iff_scope {fault : Fault} :
    b.resolve selfRef repetition r = .error fault ↔
      b.scope selfRef repetition [r] = .error fault := by
  rw [scope_singleton, map_eq_error_iff]

/-- The scope of some references is made of the scopes of each of them alone. If it is found, it
shows their texts, each once; it shows a text with what the last reference with that text shows
alone; and what is reported of each reference alone is reported in order. In any order, references
that were read show the same values and have the same reports. The scope fails when that of some
reference alone does, and with the fault of the first such reference. -/
theorem scope_of_each (b : Bindings) (selfRef : Option String) (repetition : Repetition)
    (references : List Reference) :
    (∀ visible reports, b.scope selfRef repetition references = .ok (visible, reports) →
      ((Table.keys visible).Nodup ∧
        ∀ key, key ∈ Table.keys visible ↔ ∃ r ∈ references, r.traversal = key) ∧
      (∀ before r after, references = before ++ r :: after →
        (∀ later ∈ after, later.traversal ≠ r.traversal) →
          ∃ v found, b.scope selfRef repetition [r] = .ok ([(r.traversal, v)], found) ∧
            Table.get? visible r.traversal = some v) ∧
      (∃ alone : Reference → Diagnostics,
        (∀ r ∈ references, ∃ shown, b.scope selfRef repetition [r] = .ok (shown, alone r)) ∧
          reports = references.flatMap alone) ∧
      ((∀ r ∈ references, ∃ t, Reference.parse t = .ok r) →
        ∀ references', references'.Perm references →
          ∃ visible' reports', b.scope selfRef repetition references' = .ok (visible', reports') ∧
            visible'.Perm visible ∧ reports'.Perm reports)) ∧
    ((∃ fault, b.scope selfRef repetition references = .error fault) ↔
      ∃ r ∈ references, ∃ fault, b.scope selfRef repetition [r] = .error fault) ∧
    ∀ fault, b.scope selfRef repetition references = .error fault ↔
      ∃ before r after, references = before ++ r :: after ∧
        (∀ earlier ∈ before, ∃ alone, b.scope selfRef repetition [earlier] = .ok alone) ∧
        b.scope selfRef repetition [r] = .error fault := by
  refine ⟨fun visible reports seen => ⟨keys_of_scope_references seen, ?_, ?_,
    fun read _ reordered => scope_perm seen read reordered⟩, ?_, fun fault => ?_⟩
  · intro before r after split last
    obtain ⟨v, found, resolved, shown⟩ := get?_of_last seen split last
    exact ⟨v, found, scope_singleton_eq_ok_iff.2 ⟨v, resolved, rfl⟩, shown⟩
  · obtain ⟨alone, each, rfl⟩ := reports_of_scope seen
    refine ⟨alone, fun r member => ?_, rfl⟩
    obtain ⟨v, resolved⟩ := each r member
    exact ⟨_, scope_singleton_eq_ok_iff.2 ⟨v, resolved, rfl⟩⟩
  · rw [scope_fails_iff]
    simp only [resolve_eq_error_iff_scope]
  · rw [scope_eq_error_iff]
    simp only [resolve_returns_iff_scope, resolve_eq_error_iff_scope]

/-- Two references with one text, of which the first is found and the second is not: the second
counts. -/
theorem scope_of_each_collision :
    let b : Bindings := ⟨[("var.a", .wrap (.object [("b", .int 1)]))], []⟩
    let parsed : Reference := ⟨"var.a", ["b"]⟩
    let other : Reference := ⟨"var", ["a", "b"]⟩
    b.scope none {} [parsed] = .ok ([("var.a.b", .wrap (.int 1))], []) ∧
      ∃ visible, b.scope none {} [parsed, other] = .ok (visible, [undeclared "var"]) ∧
        Table.keys visible = ["var.a.b"] ∧ Table.get? visible "var.a.b" = some .unknown := by
  intro b parsed other
  have alone : b.scope none {} [other] = .ok ([("var.a.b", .unknown)], [undeclared "var"]) := rfl
  refine ⟨rfl, _, rfl, rfl, ?_⟩
  obtain ⟨together, -⟩ := scope_of_each b none {} [parsed, other]
  obtain ⟨v, found, last, shown⟩ := (together _ _ rfl).2.1 [parsed] other [] rfl (by simp)
  cases alone.symm.trans last
  exact shown

end Bindings

end StagedChecks
