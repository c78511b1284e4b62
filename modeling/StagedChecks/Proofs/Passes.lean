import Mathlib.Logic.Relation
import StagedChecks.Proofs.BuiltIn
import StagedChecks.Proofs.Evaluation

/-!
# From pass to pass

Between two passes only names that are not known yet are written. So what is known stays as it is,
and a verdict, which is passed on what is known alone, is final.

## Main definitions

* `Bindings.Advances` — the steps from one pass to the next.
* `Bindings.Extends` — bindings in which nothing that is known has changed.

## Main statements

* `Bindings.Advances.extends` — a step changes nothing that is known.
* `Bindings.extends_of_passes` — nor does any number of steps.
* `Rule.evaluate_of_passes` — verdicts are final.
-/

namespace StagedChecks

namespace Bindings

variable {b b' b'' : Bindings} {selfRef : Option String} {repetition : Repetition}

/-- Some names are written that have no known value so far. -/
def Advances (b b' : Bindings) : Prop :=
  ∃ updates, b.update updates = .ok b' ∧
    ∀ e ∈ updates, ∀ v, b.value? e.1 = some v → v.isKnown = false

/-- All known values of some bindings, and all their instances, stand in others too. -/
structure Extends (b b' : Bindings) : Prop where
  values : ∀ {name v}, b.value? name = some v → v.isKnown = true → b'.value? name = some v
  instances : ∀ name, b'.instance? name = b.instance? name

/-- After an update a name has the value written last, if any was. -/
theorem value?_of_update {updates : Table Data} (updated : b.update updates = .ok b')
    (name : String) :
    b'.value? name = ((Table.get? updates.reverse name).map Value.wrap).or (b.value? name) := by
  obtain ⟨-, -, rfl⟩ := ofData_eq_ok_iff.1 updated
  simp only [value?, Table.get?_mapValues, Table.get?_merge, Option.map_or, Option.map_map,
    Function.comp_def, Value.wrap_toData, Option.map_id']

theorem instance?_of_update {updates : Table Data} (updated : b.update updates = .ok b')
    (name : String) : b'.instance? name = b.instance? name := by
  obtain ⟨-, -, rfl⟩ := ofData_eq_ok_iff.1 updated
  simp only [instance?, Table.get?_mapValues, Option.map_map, Function.comp_def,
    Value.wrap_toData, Option.map_id']

theorem Advances.extends (step : b.Advances b') : b.Extends b' := by
  obtain ⟨updates, updated, pending⟩ := step
  refine ⟨fun {name v} here known => ?_, instance?_of_update updated⟩
  -- A name that was written had no known value, so a name that has one was not written.
  have untouched : Table.get? updates.reverse name = none := by
    cases written : Table.get? updates.reverse name with
    | none => rfl
    | some d =>
      have member := List.mem_reverse.1 (Table.mem_of_get? written)
      simp [pending _ member v here] at known
  rw [value?_of_update updated, untouched, here]
  rfl

theorem extends_of_passes (passes : Relation.ReflTransGen Advances b b') : b.Extends b' := by
  induction passes with
  | refl => exact ⟨fun here _ => here, fun _ => rfl⟩
  | tail _ step ih =>
    refine ⟨fun here known => step.extends.values (ih.values here known) known, fun name => ?_⟩
    rw [step.extends.instances, ih.instances]

/-- A subject that stands for known data stands for it in later passes too. -/
theorem Extends.origin? {name : String} {d : Data} (later : b.Extends b')
    (origin : b.origin? selfRef repetition name = some d) (known : (Value.wrap d).isKnown = true) :
    b'.origin? selfRef repetition name = some d := by
  unfold Bindings.origin? at origin ⊢
  by_cases self : name = "self"
  · simpa [self, funext later.instances] using origin
  by_cases count : name = "count.index"
  · simpa [count] using origin
  by_cases each : (name = "each.key" || name = "each.value") = true
  · simpa only [self, count, each, if_false, if_true] using origin
  · simp only [self, count, each, if_false] at origin ⊢
    obtain ⟨v, here, rfl⟩ := Option.map_eq_some_iff.1 origin
    simp [later.values here known]

/-- A reference with a known value has it in later passes too. -/
theorem Extends.resolve {r : Reference} {v : Value} {reports : Diagnostics} (later : b.Extends b')
    (known : v.isKnown = true) (done : b.resolve selfRef repetition r = .ok (v, reports)) :
    b'.resolve selfRef repetition r = .ok (v, reports) := by
  obtain ⟨silent, d, origin, clean, way⟩ := (resolve_eq_ok_known_iff known).1 done
  exact (resolve_eq_ok_known_iff known).2
    ⟨silent, d, later.origin? origin (way.isKnown_start known), clean, way⟩

end Bindings

namespace Rule

variable {kind : Kind} {rule : Rule} {b b' : Bindings} {selfRef : Option String}
  {repetition : Option Repetition} {sink : Option Sink}
  {settings : Option Settings} {o : Outcome}

/-- Verdicts are final: what is decided in one pass is decided in the same way in every later pass,
with the same reports and the same messages. -/
theorem evaluate_of_passes (passes : Relation.ReflTransGen Bindings.Advances b b')
    (builtIn : rule.condition.isBuiltIn = true)
    (done : (rule.evaluate kind b.toContext selfRef repetition sink settings).result = .ok o)
    (decided : o.verdict ≠ .unknown) :
    rule.evaluate kind b'.toContext selfRef repetition sink settings =
      rule.evaluate kind b.toContext selfRef repetition sink settings := by
  obtain ⟨ts, visible, second, v, third, named, seen, value, -, same⟩ :=
    evaluate_toContext_eq_ok_iff.1 done
  have known : v.isKnown = true := isKnown_of_decided (by rwa [same])
  obtain ⟨-, allKnown⟩ := Expression.silent_of_isKnown builtIn named value known
  -- A decided condition has seen known values only, and those are resolved in the same way.
  refine evaluate_congr fun ts' named' => ?_
  cases named.symm.trans named'
  refine Bindings.scope_congr fun r member => ?_
  obtain ⟨t, used, read⟩ := Reference.mem_analyse_iff.1 member
  obtain ⟨w, here, known⟩ := allKnown t used
  obtain ⟨-, r', found, read', resolved⟩ := (Bindings.get?_of_scope seen).1 here
  cases read.symm.trans read'
  rw [resolved, (Bindings.extends_of_passes passes).resolve known resolved]

/-- A condition that is false stays so while a port becomes known. -/
theorem evaluate_of_passes_false :
    ∃ b', Bindings.Advances ⟨[("var.ok", .wrap (.bool false)), ("var.port", .unknown)], []⟩ b' ∧
      b'.value? "var.port" = some (.wrap (.int 8080)) ∧
      (evaluate .outputPrecondition ⟨.reference "var.ok" {}, "off", none⟩ b'.toContext none none
        none none).result.map (·.verdict) = .ok .failed := by
  have step : Bindings.Advances
      ⟨[("var.ok", .wrap (.bool false)), ("var.port", .unknown)], []⟩
      ⟨[("var.ok", .wrap (.bool false)), ("var.port", .wrap (.int 8080))], []⟩ :=
    ⟨[("var.port", .int 8080)], rfl, by simp [Bindings.value?]⟩
  have same := @evaluate_of_passes .outputPrecondition ⟨.reference "var.ok" {}, "off", none⟩ _ _
    none none none none _ (.single step) rfl rfl nofun
  exact ⟨_, step, rfl, by rw [same]; rfl⟩

end Rule

end StagedChecks
