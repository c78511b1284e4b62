import StagedChecks.Functions
import StagedChecks.Proofs.BuiltIn
import StagedChecks.Proofs.Evaluation

/-!
# What a condition looks up

The scope writes values under the texts that references show, and a condition looks up the texts it
was written with. Both are the same for every traversal that is a reference, so a lookup fails just
where a traversal was rejected: each rejected occurrence is reported once by the analysis and once
by the condition.

## Main definitions

* `Diagnostics.under` — the errors under one headline.
* `Reference.rejected` — the occurrences of traversals that are no references.
* `Bindings.headlines` — the headlines of what resolving a reference can report.

## Main statements

* `Bindings.lookup_of_scope` — what the lookup of a traversal finds.
* `Expression.under_unknownVariable` — what a built-in expression reports about its lookups.
* `Rule.lookups_of_evaluate` — analysis and evaluation agree on every traversal of a rule.
-/

namespace StagedChecks

namespace Diagnostics

/-- The errors under one headline, in order. -/
def under (summary : String) (ds : Diagnostics) : Diagnostics :=
  ds.filter fun d => d.isError && d.summary == summary

@[simp] theorem under_append (summary : String) (ds es : Diagnostics) :
    under summary (ds ++ es) = under summary ds ++ under summary es :=
  List.filter_append ..

theorem under_eq_nil {summary : String} {ds : Diagnostics}
    (others : ∀ d ∈ ds, d.summary ≠ summary) : under summary ds = [] := by
  simp only [under, List.filter_eq_nil_iff, Bool.and_eq_true, beq_iff_eq, not_and]
  exact fun d member _ => others d member

theorem under_eq_self {summary : String} {ds : Diagnostics}
    (all : ∀ d ∈ ds, d.isError = true ∧ d.summary = summary) : under summary ds = ds := by
  simp only [under, List.filter_eq_self, Bool.and_eq_true, beq_iff_eq]
  exact all

end Diagnostics

namespace Reference

/-- The occurrences of traversals that are no references, in order, and why they are none. -/
def rejected (ts : List String) : List (String × Malformed) :=
  ts.filterMap fun t =>
    match parse t with
    | .ok _ => none
    | .error m => some (t, m)

/-- The analysis reports each rejected occurrence once. -/
theorem analyse_snd (ts : List String) : (analyse ts).2 = (rejected ts).map (·.2.diagnostic) := by
  have once (t : String) : reports t = (rejected [t]).map (·.2.diagnostic) := by
    unfold reports rejected
    cases read : parse t <;> simp [read]
  have split (t : String) (ts : List String) : rejected (t :: ts) = rejected [t] ++ rejected ts :=
    List.filterMap_append (l := [t])
  induction ts with
  | nil => rfl
  | cons t ts ih =>
    rw [split, List.map_append, ← ih, ← once]
    rfl

theorem under_analyse (ts : List String) :
    Diagnostics.under "Invalid reference" (analyse ts).2 =
        (rejected ts).map (·.2.diagnostic) ∧
      Diagnostics.under "Unknown variable" (analyse ts).2 = [] := by
  have headed : ∀ d ∈ (analyse ts).2, d.isError = true ∧ d.summary = "Invalid reference" := by
    rw [analyse_snd]
    intro d member
    obtain ⟨⟨t, m⟩, -, rfl⟩ := List.mem_map.1 member
    exact ⟨rfl, rfl⟩
  refine ⟨?_, Diagnostics.under_eq_nil fun d member => ?_⟩
  · rw [Diagnostics.under_eq_self headed, analyse_snd]
  · simp [(headed d member).2]

end Reference

namespace Value

theorem summary_of_walk {v w : Value} {path : List String} {reports : Diagnostics}
    (done : v.walk path = .ok (w, reports)) :
    ∀ d ∈ reports, d.summary = "Attempt to get attribute from null value" ∨
      d.summary = "Unsupported attribute" := by
  rcases walk_cases v path with ⟨found, -, silent⟩ |
    ⟨before, name, after, found, result, -, -, stops, stopped⟩
  · cases done.symm.trans silent
    simp
  · obtain rfl := stopped.symm.trans done
    rcases reason_of_stop? stops with ⟨-, same⟩ | ⟨-, same⟩ | ⟨-, same⟩ | ⟨fault, same, -⟩
    · cases same
      simp
    · cases same
      simp [nullAttribute, Diagnostic.error]
    · cases same
      simp [unsupportedAttribute, Diagnostic.error]
    · cases same

end Value

namespace Bindings

variable {b : Bindings} {selfRef : Option String} {repetition : Repetition} {ts : List String}
  {visible : Variables} {reports : Diagnostics}

/-- The headlines of what is reported while a reference is resolved. -/
def headlines : List String :=
  ["Invalid \"self\" reference", "Reference to \"count\" in non-counted context",
    "Reference to \"each\" in context without for_each", "Reference to undeclared value",
    "Attempt to get attribute from null value", "Unsupported attribute"]

theorem eq_of_mem_foundOr {found : Option Value} {absence d : Diagnostic}
    (member : d ∈ (foundOr found absence).2) : d = absence := by
  cases found <;> simp_all [foundOr]

theorem summary_of_subject {name : String} {v : Value}
    (done : b.subject selfRef repetition name = .ok (v, reports)) :
    ∀ d ∈ reports, d.summary ∈ headlines := by
  -- Wrapped data is found in silence, and whatever is absent has one report of its own.
  have silent {x : Except Fault Value} (here : x.map (·, []) = .ok (v, reports)) :
      ∀ d ∈ reports, d.summary ∈ headlines := by
    obtain ⟨w, -, same⟩ := map_eq_ok_iff.1 here
    cases same
    simp
  have absent {found : Option Value} {absence : Diagnostic} (headed : absence.summary ∈ headlines)
      (here : Except.ok (ε := Fault) (foundOr found absence) = .ok (v, reports)) :
      ∀ d ∈ reports, d.summary ∈ headlines := by
    intro d member
    have same : (foundOr found absence).2 = reports := congrArg Prod.snd (Except.ok.inj here)
    rw [← same] at member
    rw [eq_of_mem_foundOr member]
    exact headed
  unfold subject at done
  split at done
  · exact absent (by decide) done
  split at done
  · split at done
    · exact silent done
    · cases done
      simp [headlines, countUnavailable, Diagnostic.error]
  split at done
  · split at done
    · exact silent done
    · cases done
      simp [headlines, eachUnavailable, Diagnostic.error]
  · exact absent (by simp [headlines, undeclared, Diagnostic.error]) done

theorem summary_of_resolve {r : Reference} {v : Value}
    (done : b.resolve selfRef repetition r = .ok (v, reports)) :
    ∀ d ∈ reports, d.summary ∈ headlines := by
  unfold resolve at done
  obtain ⟨⟨base, before⟩, named, done⟩ := bind_eq_ok_iff.1 done
  obtain ⟨⟨w, after⟩, walked, same⟩ := bind_eq_ok_iff.1 done
  cases same
  intro d member
  rcases List.mem_append.1 member with member | member
  · exact summary_of_subject named d member
  · rcases Value.summary_of_walk walked d member with null | unsupported
    · simp [headlines, null]
    · simp [headlines, unsupported]

/-- The lookup of a traversal finds what its own reference is resolved to, and nothing if it is no
reference. -/
theorem lookup_of_scope
    (seen : b.scope selfRef repetition (Reference.analyse ts).1 = .ok (visible, reports))
    {t : String} (used : t ∈ ts) :
    (∃ r v found, Reference.parse t = .ok r ∧ b.resolve selfRef repetition r = .ok (v, found) ∧
        Expression.lookup (some visible) t = some v) ∨
      ((∃ m, Reference.parse t = .error m) ∧ Expression.lookup (some visible) t = none) := by
  cases read : Reference.parse t with
  | ok r =>
    obtain ⟨answer, each, -⟩ := scope_analyse_eq_ok_iff.1 seen
    have done := each r (Reference.mem_analyse_iff.2 ⟨t, used, read⟩)
    exact .inl ⟨r, _, _, rfl, done, (get?_of_scope seen).2 ⟨used, r, _, read, done⟩⟩
  | error m =>
    refine .inr ⟨⟨m, rfl⟩, ?_⟩
    cases here : Expression.lookup (some visible) t with
    | none => rfl
    | some v =>
      obtain ⟨-, r, found, read', -⟩ := (get?_of_scope seen).1 here
      cases read.symm.trans read'

end Bindings

namespace Expression

variable {visible : Variables} {e : Expression} {v : Value} {reports : Diagnostics}

/-- If the lookups of some traversals fail just where these are rejected, each rejected occurrence
is reported once. -/
theorem flatMap_evaluateReference {ts : List String}
    (seen : ∀ t ∈ ts, lookup (some visible) t = none ↔ ∃ m, Reference.parse t = .error m) :
    (ts.flatMap fun t => (evaluateReference (some visible) t).2) =
      (Reference.rejected ts).map (unknownVariable ·.1) := by
  induction ts with
  | nil => rfl
  | cons t ts ih =>
    have here := seen t (List.mem_cons_self ..)
    have rest := ih fun t' member => seen t' (List.mem_cons_of_mem _ member)
    rw [List.flatMap_cons, rest]
    cases read : Reference.parse t with
    | ok r =>
      have found : lookup (some visible) t ≠ none := by simp [here, read]
      obtain ⟨w, found⟩ := Option.ne_none_iff_exists'.1 found
      simp [evaluateReference, found, Reference.rejected, read]
    | error m =>
      have missing : lookup (some visible) t = none := here.2 ⟨m, read⟩
      simp [evaluateReference, missing, Reference.rejected, read]

/-- Lookups that fail are reported as such, and nothing else is reported about lookups. -/
theorem under_lookups (visible : Variables) (ts : List String) :
    let looked := ts.flatMap fun t => (evaluateReference (some visible) t).2
    Diagnostics.under "Unknown variable" looked = looked ∧
      Diagnostics.under "Invalid reference" looked = [] := by
  intro looked
  have each : ∀ d ∈ looked, d.isError = true ∧ d.summary = "Unknown variable" := by
    intro d member
    obtain ⟨t, -, member⟩ := List.mem_flatMap.1 member
    rcases evaluateReference_cases visible t with ⟨w, -, same⟩ | ⟨-, same⟩
    · simp [same] at member
    · rw [same] at member
      cases List.mem_singleton.1 member
      exact ⟨rfl, rfl⟩
  refine ⟨Diagnostics.under_eq_self each, Diagnostics.under_eq_nil fun d member => ?_⟩
  simp [(each d member).2]

/-- A built-in expression reports each rejected occurrence of its traversals once, if its lookups
fail just there, and it never reports that a reference is invalid. -/
theorem under_unknownVariable {ts : List String} (builtIn : e.isBuiltIn = true)
    (named : e.traversals = .ok ts) (done : e.evaluate (some visible) = .ok (v, reports))
    (seen : ∀ t ∈ ts,
      lookup (some visible) t = none ↔ ∃ m, Reference.parse t = .error m) :
    Diagnostics.under "Unknown variable" reports =
        (Reference.rejected ts).map (unknownVariable ·.1) ∧
      Diagnostics.under "Invalid reference" reports = [] := by
  rw [← flatMap_evaluateReference seen]
  have looked := under_lookups visible ts
  cases e with
  | constant data range =>
    obtain ⟨w, -, same⟩ := map_eq_ok_iff.1 done
    cases same
    cases named
    exact ⟨rfl, rfl⟩
  | reference t range =>
    cases named
    have same : (evaluateReference (some visible) t).2 = reports :=
      congrArg Prod.snd (Except.ok.inj done)
    simpa [same] using looked
  | call function arguments name range =>
    cases named
    rcases evaluateCall_cases function ts name range visible with
      ⟨known, called⟩ | ⟨-, same⟩
    · -- Every argument was found, so a failure of the function is all there can be.
      have silent : (ts.flatMap fun t => (evaluateReference (some visible) t).2) = [] := by
        rw [List.flatMap_eq_nil_iff]
        intro t used
        obtain ⟨w, here, -⟩ := known t used
        simp [evaluateReference, lookup, here]
      rw [silent]
      rcases called with
        ⟨given, w, -, same⟩ | ⟨given, failure, text, -, -, same⟩ |
        ⟨given, failure, fault, -, -, same⟩
      · cases same.symm.trans done
        exact ⟨rfl, rfl⟩
      · cases same.symm.trans done
        exact ⟨Diagnostics.under_eq_nil (by simp [functionError, Diagnostic.error]),
          Diagnostics.under_eq_nil (by simp [functionError, Diagnostic.error])⟩
      · cases same.symm.trans done
    · cases same.symm.trans done
      exact looked
  | custom => cases builtIn

end Expression

namespace Rule

variable {kind : Kind} {rule : Rule} {b : Bindings} {selfRef : Option String}
  {repetition : Option Repetition} {sink : Option Sink}
  {settings : Option Settings} {o : Outcome}

theorem IsReportOf.summary_ne {verdict : Verdict} {d : Diagnostic}
    (report : rule.IsReportOf kind verdict d) :
    d.summary ≠ "Invalid reference" ∧ d.summary ≠ "Unknown variable" := by
  obtain ⟨-, -, -, headed⟩ := report
  cases verdict with
  | unknown | passed => exact headed.elim
  | failed => rw [headed.1]; cases kind <;> decide
  | invalid => rw [headed]; decide

/-- Besides analysis and condition nothing is reported under their two headlines. -/
theorem under_of_outcome {summary : String} {ts : List String} {filled : Settings}
    {visible : Variables} {second third : Diagnostics} {v : Value}
    (headed : summary = "Invalid reference" ∨ summary = "Unknown variable")
    (seen : b.scope selfRef (repetition.getD {}) (Reference.analyse ts).1 =
      .ok (visible, second)) :
    Diagnostics.under summary (rule.outcome kind filled visible
        ((Reference.analyse ts).2 ++ second ++ third) v).diagnostics =
      Diagnostics.under summary (Reference.analyse ts).2 ++
        Diagnostics.under summary third := by
  have resolved : Diagnostics.under summary second = [] := by
    refine Diagnostics.under_eq_nil fun d member => ?_
    obtain ⟨t, -, r, w, found, -, done, member⟩ := (Bindings.mem_reports_of_scope seen).1 member
    have known := Bindings.summary_of_resolve done d member
    rintro rfl
    rcases headed with same | same <;> rw [same] at known <;> exact absurd known (by decide)
  rcases rule.outcome_cases kind filled visible
      ((Reference.analyse ts).2 ++ second ++ third) v with
    ⟨-, outcome⟩ | ⟨-, outcome | ⟨verdict, d, -, report, -, outcome⟩⟩
  · rw [outcome]
    simp [resolved]
  · rw [outcome]
    simp [resolved]
  · have verdict : Diagnostics.under summary [d] = [] := by
      refine Diagnostics.under_eq_nil fun d' member => ?_
      rw [List.mem_singleton.1 member]
      rcases headed with rfl | rfl
      · exact report.summary_ne.1
      · exact report.summary_ne.2
    rw [outcome]
    simp [resolved, verdict]

/-- The analysis of a built-in condition and its evaluation agree on every traversal. The lookup of
one succeeds just when it is a reference, and then it finds what this reference is resolved to. Each
rejected occurrence is reported by both, in the order of the occurrences. -/
theorem lookups_of_evaluate (builtIn : rule.condition.isBuiltIn = true)
    (done : (rule.evaluate kind b.toContext selfRef repetition sink settings).result =
      .ok o) :
    ∃ ts visible second v third, rule.condition.traversals = .ok ts ∧
      b.scope selfRef (repetition.getD {}) (Reference.analyse ts).1 = .ok (visible, second) ∧
      rule.condition.evaluate (some visible) = .ok (v, third) ∧
      (∀ t ∈ ts,
        ((∃ w, Expression.lookup (some visible) t = some w) ↔ ∃ r, Reference.parse t = .ok r) ∧
        ∀ r, Reference.parse t = .ok r → ∃ w reports,
          b.resolve selfRef (repetition.getD {}) r = .ok (w, reports) ∧
            Expression.lookup (some visible) t = some w) ∧
      Diagnostics.under "Invalid reference" o.diagnostics =
        (Reference.rejected ts).map (·.2.diagnostic) ∧
      Diagnostics.under "Unknown variable" o.diagnostics =
        (Reference.rejected ts).map (Expression.unknownVariable ·.1) ∧
      (Diagnostics.under "Unknown variable" o.diagnostics).length =
        (Diagnostics.under "Invalid reference" o.diagnostics).length := by
  obtain ⟨ts, visible, second, v, third, named, seen, value, -, rfl⟩ :=
    evaluate_toContext_eq_ok_iff.1 done
  have missing : ∀ t ∈ ts,
      Expression.lookup (some visible) t = none ↔ ∃ m, Reference.parse t = .error m := by
    intro t used
    rcases Bindings.lookup_of_scope seen used with
      ⟨r, w, reports, read, -, found⟩ | ⟨⟨m, read⟩, missing⟩
    · simp [read, found]
    · simp [read, missing]
  obtain ⟨unknown, invalid⟩ := Expression.under_unknownVariable builtIn named value missing
  obtain ⟨rejected, other⟩ := Reference.under_analyse ts
  refine ⟨ts, visible, second, v, third, named, seen, value, fun t used => ?lookup, ?invalid,
    ?unknown, ?count⟩
  case lookup =>
    rcases Bindings.lookup_of_scope seen used with
      ⟨r, w, reports, read, resolved, found⟩ | ⟨⟨m, read⟩, missing⟩
    · refine ⟨by simp [read, found], fun r' read' => ?_⟩
      cases read.symm.trans read'
      exact ⟨w, reports, resolved, found⟩
    · simp [read, missing]
  case invalid => rw [under_of_outcome (.inl rfl) seen, rejected, invalid, List.append_nil]
  case unknown => rw [under_of_outcome (.inr rfl) seen, other, unknown, List.nil_append]
  case count =>
    rw [under_of_outcome (.inr rfl) seen, under_of_outcome (.inl rfl) seen, rejected, invalid,
      other, unknown]
    simp

/-- Of four arguments three are no references, two of these the same, and each of the three is
reported twice. -/
theorem lookups_of_evaluate_malformed :
    let rule : Rule :=
      ⟨.call (Functions.constant (.bool false)) ["var", "var.p", "9", "var"] "f" {}, "off", none⟩
    let b : Bindings := ⟨[("var.p", .wrap (.int 80))], []⟩
    ∃ o, (rule.evaluate .invalid b.toContext none none none none).result = .ok o ∧
      (Diagnostics.under "Invalid reference" o.diagnostics).map (·.detail) =
        [(Malformed.rootAlone "var").detail, (Malformed.rootNotAName "9").detail,
          (Malformed.rootAlone "var").detail] ∧
      (Diagnostics.under "Unknown variable" o.diagnostics).map (·.detail) =
        ["There is no variable named \"var\".", "There is no variable named \"9\".",
          "There is no variable named \"var\"."] := by
  intro rule b
  obtain ⟨o, done⟩ : ∃ o, (rule.evaluate .invalid b.toContext none none none none).result = .ok o :=
    exists_eq_ok_of_isOk (by decide +kernel)
  obtain ⟨ts, visible, second, v, third, named, -, -, -, invalid, unknown, -⟩ :=
    @lookups_of_evaluate .invalid rule b none none none none o rfl done
  refine ⟨o, done, ?_⟩
  cases named
  rw [invalid, unknown]
  decide +kernel

end Rule

end StagedChecks
