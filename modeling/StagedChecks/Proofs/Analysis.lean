import Mathlib.Data.List.Induction
import Mathlib.Data.List.Nodup
import StagedChecks.Expression
import StagedChecks.Proofs.Traversal

/-!
# Analysis in one pass

The references among some traversals are found in one pass. Each traversal either adds its reference
to those found before, unless it is among them, or it adds a report. Nothing is taken away again, so
that the references stand in the order in which they first occur, and the reports in the order of
the traversals that they are about.

## Main definitions

* `Reference.collect` — one step of the pass.
* `Reference.IsAnalysis` — what has been found when some traversals were gone through.

## Main statements

* `Reference.analyse_eq_foldl` — the analysis is such a pass.
* `Reference.IsAnalysis.collect` — what one step keeps.
* `Reference.isAnalysis_foldl` — what a whole pass has found.
* `Expression.references_of_occurrences` — the references and reports of an expression.
-/

namespace StagedChecks

section Duplicates

variable {α : Type} [DecidableEq α] {xs shown : List α}

/-- An item at the end is dropped as a duplicate if it occurs before. -/
theorem eraseDups_concat (xs : List α) (x : α) :
    (xs ++ [x]).eraseDups = if x ∈ xs then xs.eraseDups else xs.eraseDups ++ [x] := by
  by_cases old : x ∈ xs <;>
    simp [List.eraseDups_append, List.removeAll, List.eraseDups_cons, old]

/-- One more item at the end changes no place of a first occurrence. -/
theorem pairwise_idxOf_concat (inside : ∀ x ∈ shown, x ∈ xs)
    (ordered : shown.Pairwise fun x y => xs.idxOf x < xs.idxOf y) (last : α) :
    shown.Pairwise fun x y => (xs ++ [last]).idxOf x < (xs ++ [last]).idxOf y := by
  refine ordered.imp_of_mem fun here here' before => ?_
  rwa [List.idxOf_append_of_mem (inside _ here), List.idxOf_append_of_mem (inside _ here')]

/-- An item that did not occur before first occurs behind all others. -/
theorem idxOf_lt_idxOf_concat {x last : α} (old : x ∈ xs) (fresh : last ∉ xs) :
    (xs ++ [last]).idxOf x < (xs ++ [last]).idxOf last := by
  rw [List.idxOf_append_of_mem old, List.idxOf_append_of_notMem fresh]
  exact Nat.lt_add_right _ (List.idxOf_lt_length_of_mem old)

end Duplicates

namespace Reference

variable {ts : List String} {found : List Reference × Diagnostics} {t : String} {r : Reference}
  {m : Malformed}

/-- What has been found after one more traversal: its reference, unless that was found before, or
a report. -/
def collect (found : List Reference × Diagnostics) (t : String) : List Reference × Diagnostics :=
  match parse t with
  | .ok r => (if r ∈ found.1 then found.1 else found.1 ++ [r], found.2)
  | .error m => (found.1, found.2 ++ [m.diagnostic])

theorem parse?_of_error (read : parse t = .error m) : parse? t = none := by
  simp [parse?, read, Except.toOption]

theorem analyse_concat (ts : List String) (t : String) :
    analyse (ts ++ [t]) = collect (analyse ts) t := by
  cases read : parse t with
  | error m => simp [analyse, collect, reports, read, parse?_of_error read]
  | ok r =>
    simp [analyse, collect, reports, read, parse?_eq_some_iff.2 read, eraseDups_concat]

/-- The analysis is one pass over the traversals. -/
theorem analyse_eq_foldl (ts : List String) : analyse ts = ts.foldl collect ([], []) := by
  induction ts using List.reverseRecOn with
  | nil => rfl
  | append_singleton ts t ih => rw [analyse_concat, ih, List.foldl_concat]

/-- What has been found when some traversals were gone through. -/
structure IsAnalysis (ts : List String) (found : List Reference × Diagnostics) : Prop where
  /-- Each reference is that of the traversal which it shows. -/
  read : ∀ r ∈ found.1, r.traversal ∈ ts ∧ parse r.traversal = .ok r
  complete : ∀ t ∈ ts, ∀ r, parse t = .ok r → r ∈ found.1
  /-- Of two references the first is the one that occurs first. -/
  ordered : (found.1.map traversal).Pairwise fun t t' => ts.idxOf t < ts.idxOf t'
  /-- Each occurrence of a traversal that is no reference has the report of this traversal. -/
  reported : List.Forall₂ (fun t d => reports t = [d])
    (ts.filter fun t => (parse? t).isNone) found.2

namespace IsAnalysis

theorem subset (before : IsAnalysis ts found) : ∀ t ∈ found.1.map traversal, t ∈ ts := by
  intro t shown
  obtain ⟨r, member, rfl⟩ := List.mem_map.1 shown
  exact (before.read r member).1

/-- A traversal that is no reference adds a report. -/
theorem reject (before : IsAnalysis ts found) (read : parse t = .error m) :
    IsAnalysis (ts ++ [t]) (found.1, found.2 ++ [m.diagnostic]) where
  read r member := (before.read r member).imp_left (List.mem_append_left _)
  complete s used r accepted := by
    rcases List.mem_append.1 used with used | last
    · exact before.complete s used r accepted
    · rw [List.mem_singleton.1 last, read] at accepted
      cases accepted
  ordered := pairwise_idxOf_concat before.subset before.ordered t
  reported := by
    rw [List.filter_append, List.filter_singleton, parse?_of_error read]
    exact List.rel_append before.reported (.cons (by simp [reports, read]) .nil)

/-- A traversal that is a reference adds it if it is a new one. -/
theorem accept (before : IsAnalysis ts found) (read : parse t = .ok r) :
    IsAnalysis (ts ++ [t]) (if r ∈ found.1 then found.1 else found.1 ++ [r], found.2) where
  read r' member := by
    have origin : r' ∈ found.1 ∨ r' = r := by
      by_cases old : r ∈ found.1 <;> simp_all
    rcases origin with old | rfl
    · exact (before.read r' old).imp_left (List.mem_append_left _)
    · rw [traversal_of_parse read]
      exact ⟨by simp, read⟩
  complete s used r' accepted := by
    rcases List.mem_append.1 used with used | last
    · have old := before.complete s used r' accepted
      split <;> simp [old]
    · rw [List.mem_singleton.1 last, read] at accepted
      cases accepted
      split <;> simp_all
  ordered := by
    have kept := pairwise_idxOf_concat before.subset before.ordered t
    split
    · exact kept
    · rename_i fresh
      -- A traversal that occurred before would have been found with its reference.
      have absent : t ∉ ts := fun used => fresh (before.complete t used r read)
      rw [List.map_append, List.map_singleton, traversal_of_parse read, List.pairwise_append]
      refine ⟨kept, List.pairwise_singleton _ _, fun s shown s' last => ?_⟩
      rw [List.mem_singleton.1 last]
      exact idxOf_lt_idxOf_concat (before.subset s shown) absent
  reported := by
    rw [List.filter_append, List.filter_singleton, parse?_eq_some_iff.2 read]
    simpa using before.reported

/-- One step keeps what has been found and takes the next traversal into account. -/
theorem collect (before : IsAnalysis ts found) (t : String) :
    IsAnalysis (ts ++ [t]) (collect found t) := by
  unfold Reference.collect
  cases read : parse t with
  | ok r => exact before.accept read
  | error m => exact before.reject read

end IsAnalysis

/-- A whole pass has found the references of all traversals and reported all others. -/
theorem isAnalysis_foldl (ts : List String) : IsAnalysis ts (ts.foldl collect ([], [])) := by
  induction ts using List.reverseRecOn with
  | nil => exact ⟨by simp, by simp, .nil, .nil⟩
  | append_singleton ts t ih =>
    rw [List.foldl_concat]
    exact ih.collect t

theorem exists_report_iff {d : Diagnostic} :
    reports t = [d] ↔ ∃ m, parse t = .error m ∧ d = m.diagnostic := by
  unfold reports
  cases parse t <;> simp [eq_comm]

end Reference

/-- The references of an expression are those of its traversals that are references, each of them
once and in the order in which these first occur. Its reports are those of its other traversals, one
for each occurrence and in the order of the occurrences. An expression that cannot tell its
traversals has no analysis. -/
theorem Expression.references_of_occurrences (e : Expression) :
    (∀ fault, e.traversals = .error fault → e.references = .error fault) ∧
    ∀ ts, e.traversals = .ok ts → ∃ found reported, e.references = .ok (found, reported) ∧
      (∀ r ∈ found, Reference.parse r.traversal = .ok r) ∧
      (∀ t, t ∈ found.map Reference.traversal ↔ t ∈ ts ∧ ∃ r, Reference.parse t = .ok r) ∧
      found.Nodup ∧
      ((found.map Reference.traversal).Pairwise fun t t' => ts.idxOf t < ts.idxOf t') ∧
      List.Forall₂ (fun t d => Reference.reports t = [d] ∧ d.severity = .error ∧
          d.summary = "Invalid reference")
        (ts.filter fun t => (Reference.parse? t).isNone) reported := by
  refine ⟨fun fault failed => by rw [references, failed]; rfl, fun ts named => ?_⟩
  have analysis : Reference.IsAnalysis ts (Reference.analyse ts) := by
    rw [Reference.analyse_eq_foldl]
    exact Reference.isAnalysis_foldl ts
  refine ⟨_, _, by rw [references, named]; rfl, fun r member => (analysis.read r member).2,
    fun t => ⟨fun shown => ?_, ?_⟩, ?_, analysis.ordered,
    analysis.reported.imp fun t d reported => ⟨reported, ?_⟩⟩
  · obtain ⟨r, member, rfl⟩ := List.mem_map.1 shown
    obtain ⟨used, read⟩ := analysis.read r member
    exact ⟨used, r, read⟩
  · rintro ⟨used, r, read⟩
    exact List.mem_map.2 ⟨r, analysis.complete t used r read, Reference.traversal_of_parse read⟩
  · -- Equal references would show traversals that occur at the same place.
    refine List.Nodup.of_map Reference.traversal (analysis.ordered.imp fun before => ?_)
    rintro rfl
    exact Nat.lt_irrefl _ before
  · obtain ⟨m, -, rfl⟩ := Reference.exists_report_iff.1 reported
    exact ⟨rfl, rfl⟩

end StagedChecks
