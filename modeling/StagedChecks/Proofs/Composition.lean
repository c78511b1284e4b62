import StagedChecks.Proofs.Resolution

/-!
# Traversals that go on

A traversal that goes on with one more segment is resolved from where the shorter one came to. A
walk may be broken off and taken up again anywhere: it reports something at most once, and once it
has, or has come to an unknown value, it stays silent.

## Main statements

* `Value.walk_append` — a walk is made in two parts.
* `Value.reports_of_walk` — how much a walk reports.
* `Bindings.resolve_append` — a reference with a longer path.
* `Bindings.scope_of_longer_traversal` — a traversal with one more segment.
-/

namespace StagedChecks

namespace Value

variable {v w : Value} {path : List String} {reports : Diagnostics}

/-- From an unknown value every walk is silent and comes to an unknown value. -/
theorem walk_of_not_isKnown (pending : v.isKnown = false) (path : List String) :
    ∃ found, v.walk path = .ok (found, []) ∧ found.isKnown = false := by
  cases path with
  | nil => exact ⟨v, rfl, pending⟩
  | cons name path =>
    have state : v.state = .unknown := by simpa [isKnown] using pending
    exact ⟨.unknown, walk_of_unknown state name path, rfl⟩

/-- A walk along a path is one along its first part and then, from where that came to, one along
the rest. -/
theorem walk_append (v : Value) (xs ys : List String) :
    v.walk (xs ++ ys) = (do
      let (w, before) ← v.walk xs
      let (found, after) ← w.walk ys
      return (found, before ++ after)) := by
  rcases v.walk_cases xs with ⟨w, way, done⟩ |
    ⟨before, name, after, w, result, rfl, way, stops, done⟩
  · rw [walk_of_reaches way, done]
    simp only [bind, Except.bind]
    cases w.walk ys <;> rfl
  · have stopped : v.walk (before ++ name :: after ++ ys) = result := by
      rw [List.append_assoc, List.cons_append, walk_of_reaches way, walk_of_stop? stops]
    rw [stopped, done]
    rcases stop?_cases stops with ⟨reports, rfl, -⟩ | ⟨fault, rfl, -⟩
    · -- The walk is taken up from an unknown value, and comes to nothing else.
      cases ys <;> simp [bind, Except.bind, pure, Except.pure, walk, unknown]
    · rfl

/-- A walk makes at most one report, and then the value that it comes to is unknown. -/
theorem reports_of_walk (done : v.walk path = .ok (w, reports)) :
    reports.length ≤ 1 ∧ (reports ≠ [] → w.isKnown = false) := by
  rcases v.walk_cases path with ⟨found, -, silent⟩ |
    ⟨before, name, after, found, result, -, -, stops, stopped⟩
  · cases done.symm.trans silent
    simp
  · obtain rfl := stopped.symm.trans done
    rcases reason_of_stop? stops with ⟨-, same⟩ | ⟨-, same⟩ | ⟨-, same⟩ | ⟨fault, same, -⟩ <;>
      cases same <;> simp

/-- Behind a part that has reported something or come to an unknown value, nothing is reported. -/
theorem walk_append_of_failed {xs : List String} (done : v.walk xs = .ok (w, reports))
    (failed : w.isKnown = false ∨ reports ≠ []) (ys : List String) :
    ∃ found, v.walk (xs ++ ys) = .ok (found, reports) ∧ found.isKnown = false := by
  have pending : w.isKnown = false := failed.elim id (reports_of_walk done).2
  obtain ⟨found, silent, unknown⟩ := walk_of_not_isKnown pending ys
  refine ⟨found, ?_, unknown⟩
  rw [walk_append, done]
  simp [bind, Except.bind, pure, Except.pure, silent]

end Value

namespace Bindings

variable {b : Bindings} {selfRef : Option String} {repetition : Repetition}

/-- A reference with a longer path is resolved from where the shorter path came to. -/
theorem resolve_append (b : Bindings) (selfRef : Option String) (repetition : Repetition)
    (r : Reference) (more : List String) :
    b.resolve selfRef repetition ⟨r.subject, r.path ++ more⟩ = (do
      let (v, before) ← b.resolve selfRef repetition r
      let (found, after) ← v.walk more
      return (found, before ++ after)) := by
  unfold resolve
  cases b.subject selfRef repetition r.subject with
  | error fault => rfl
  | ok named =>
    simp only [Value.walk_append, bind, Except.bind, pure, Except.pure]
    cases named.1.walk r.path with
    | error fault => rfl
    | ok answer => cases walked : answer.1.walk more <;> simp [walked]

/-- A traversal goes on with every segment, under the same subject. It is resolved by a walk of one
step from the value of the shorter traversal, the reports of which come first; and a fault of the
shorter one is its fault. All walks are made in parts in this way: an unknown value, or a report, in
the first part leaves nothing to report in the second. -/
theorem scope_of_longer_traversal :
    (∀ t r s, Reference.parse t = .ok r → Reference.isAttribute s = true →
      ∃ longer, Reference.parse (t ++ "." ++ s) = .ok longer ∧
        longer.subject = r.subject ∧ longer.path = r.path ++ [s] ∧
        ∀ (b : Bindings) selfRef repetition,
          (∀ visible before, b.scope selfRef repetition [r] = .ok (visible, before) →
            ∃ v, visible = [(t, v)] ∧
              b.scope selfRef repetition [longer] = (do
                let (found, after) ← v.walk [s]
                return ([(t ++ "." ++ s, found)], before ++ after))) ∧
          ∀ fault, b.scope selfRef repetition [r] = .error fault →
            b.scope selfRef repetition [longer] = .error fault) ∧
    (∀ (v : Value) xs ys, v.walk (xs ++ ys) = (do
      let (w, before) ← v.walk xs
      let (found, after) ← w.walk ys
      return (found, before ++ after))) ∧
    ∀ (v : Value) xs w reports, v.walk xs = .ok (w, reports) →
      reports.length ≤ 1 ∧ ((w.isKnown = false ∨ reports ≠ []) →
        ∀ ys, ∃ found, v.walk (xs ++ ys) = .ok (found, reports) ∧ found.isKnown = false) := by
  refine ⟨fun t r s read segment => ?_, Value.walk_append, fun v xs w reports done =>
    ⟨(Value.reports_of_walk done).1, Value.walk_append_of_failed done⟩⟩
  have longer := Reference.parse_append read segment
  refine ⟨_, longer, rfl, rfl, fun b selfRef repetition => ?_⟩
  simp only [scope_singleton, resolve_append, Reference.traversal_of_parse read,
    Reference.traversal_of_parse longer]
  constructor
  · intro visible before done
    obtain ⟨⟨v, reports⟩, resolved, same⟩ := map_eq_ok_iff.1 done
    cases same
    refine ⟨v, rfl, ?_⟩
    rw [resolved]
    simp only [bind, Except.bind]
    cases v.walk [s] <;> rfl
  · intro fault failed
    rw [map_eq_error_iff.1 failed]
    rfl

/-- An item of a list is pending, and so is all behind it, where not even its type is known. Behind
an attribute that is not there, its absence stays the only report. -/
theorem scope_of_longer_traversal_pending :
    let net : Data := .object [("zones", .list [(Value.unknown "string").toData])]
    let b : Bindings := ⟨[("var.net", .wrap net)], []⟩
    let zone : Reference := ⟨"var.net", ["zones", "0"]⟩
    let ports : Reference := ⟨"var.net", ["ports"]⟩
    let absent : Diagnostic := Value.unsupportedAttribute "map" "ports"
    Reference.parse "var.net.zones.0" = .ok zone ∧
      b.scope none {} [zone] = .ok ([("var.net.zones.0", .unknown "string")], []) ∧
      (∃ longer, Reference.parse "var.net.zones.0.id" = .ok longer ∧
        longer.subject = "var.net" ∧ longer.path = ["zones", "0", "id"] ∧
        b.scope none {} [longer] = .ok ([("var.net.zones.0.id", .unknown)], [])) ∧
      Reference.parse "var.net.ports" = .ok ports ∧
      b.scope none {} [ports] = .ok ([("var.net.ports", .unknown)], [absent]) ∧
      ∃ longer, Reference.parse "var.net.ports.0" = .ok longer ∧
        longer.subject = "var.net" ∧ longer.path = ["ports", "0"] ∧
        b.scope none {} [longer] = .ok ([("var.net.ports.0", .unknown)], [absent]) := by
  intro net b zone ports absent
  obtain ⟨onward, -, -⟩ := scope_of_longer_traversal
  have zoneRead : Reference.parse "var.net.zones.0" = .ok zone := rfl
  have portsRead : Reference.parse "var.net.ports" = .ok ports := rfl
  have zoneFound : b.scope none {} [zone] =
      .ok ([("var.net.zones.0", .unknown "string")], []) := rfl
  have portsFound : b.scope none {} [ports] = .ok ([("var.net.ports", .unknown)], [absent]) := rfl
  refine ⟨zoneRead, zoneFound, ?_, portsRead, portsFound, ?_⟩
  · obtain ⟨longer, read, subject, path, resolved⟩ :=
      onward "var.net.zones.0" zone "id" zoneRead (by decide)
    obtain ⟨v, shown, found⟩ := (resolved b none {}).1 _ _ zoneFound
    cases shown
    exact ⟨longer, read, subject, path, found⟩
  · obtain ⟨longer, read, subject, path, resolved⟩ :=
      onward "var.net.ports" ports "0" portsRead (by decide)
    obtain ⟨v, shown, found⟩ := (resolved b none {}).1 _ _ portsFound
    cases shown
    exact ⟨longer, read, subject, path, found⟩

end Bindings

end StagedChecks
