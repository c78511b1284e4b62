/-!
# Computations in sequence

A sequence of computations gives a result when each of them does, and then theirs.

## Main statements

* `bind_eq_ok_iff`, `bind_eq_error_iff` — two computations, the second of which needs the result of
  the first.
* `mapM_eq_ok_iff`, `mapM_with_eq_ok_iff` — one computation for each item of a list.
* `mapM_eq_error_iff` — the first of them that fails.
-/

namespace StagedChecks

variable {ε α β γ : Type}

theorem bind_eq_ok_iff {x : Except ε α} {next : α → Except ε β} {b : β} :
    x >>= next = .ok b ↔ ∃ a, x = .ok a ∧ next a = .ok b := by
  cases x <;> simp [bind, Except.bind]

theorem bind_eq_error_iff {x : Except ε α} {next : α → Except ε β} {fault : ε} :
    x >>= next = .error fault ↔ x = .error fault ∨ ∃ a, x = .ok a ∧ next a = .error fault := by
  cases x <;> simp [bind, Except.bind]

theorem map_eq_ok_iff {x : Except ε α} {f : α → β} {b : β} :
    x.map f = .ok b ↔ ∃ a, x = .ok a ∧ f a = b := by
  cases x <;> simp [Except.map]

theorem map_eq_error_iff {x : Except ε α} {f : α → β} {fault : ε} :
    x.map f = .error fault ↔ x = .error fault := by
  cases x <;> simp [Except.map]

/-- A list is gone through without a fault when no item has one; each result is put together with
its item. -/
theorem mapM_with_eq_ok_iff [Inhabited β] {f : α → Except ε β} {h : α → β → γ} {xs : List α}
    {zs : List γ} :
    (xs.mapM fun x => (do return h x (← f x) : Except ε γ)) = .ok zs ↔
      ∃ g : α → β, (∀ x ∈ xs, f x = .ok (g x)) ∧ zs = xs.map fun x => h x (g x) := by
  constructor
  · intro done
    -- Equal items have equal results, so a function on items can give them all.
    let g : α → β := fun x => match f x with | .ok y => y | .error _ => default
    have answer : ∀ {x y}, f x = .ok y → g x = y := fun found => by simp [g, found]
    refine ⟨g, ?_⟩
    clear_value g
    induction xs generalizing zs with
    | nil => cases done; simp
    | cons x xs ih =>
      rw [List.mapM_cons, bind_eq_ok_iff] at done
      obtain ⟨z, head, done⟩ := done
      obtain ⟨y, first, same⟩ := bind_eq_ok_iff.1 head
      cases same
      obtain ⟨rest, others, same⟩ := bind_eq_ok_iff.1 done
      cases same
      obtain ⟨each, rfl⟩ := ih others
      refine ⟨?_, by simp [answer first]⟩
      rintro x' (_ | ⟨_, member⟩)
      · rw [first, answer first]
      · exact each x' member
  · rintro ⟨g, each, rfl⟩
    induction xs with
    | nil => rfl
    | cons x xs ih =>
      rw [List.mapM_cons, each x (List.mem_cons_self ..),
        ih fun x' member => each x' (List.mem_cons_of_mem _ member)]
      rfl

/-- A list is gone through without a fault when no item has one, and the results are those of the
items. -/
theorem mapM_eq_ok_iff [Inhabited β] {f : α → Except ε β} {xs : List α} {ys : List β} :
    xs.mapM f = .ok ys ↔ ∃ g : α → β, (∀ x ∈ xs, f x = .ok (g x)) ∧ ys = xs.map g := by
  simpa using @mapM_with_eq_ok_iff ε α β β _ f (fun _ y => y) xs ys

/-- Going through a list fails at the first item whose computation does, and with its fault. -/
theorem mapM_eq_error_iff {f : α → Except ε β} {xs : List α} {fault : ε} :
    xs.mapM f = .error fault ↔ ∃ before x after, xs = before ++ x :: after ∧
      (∀ earlier ∈ before, ∃ y, f earlier = .ok y) ∧ f x = .error fault := by
  constructor
  · intro failed
    induction xs with
    | nil => cases failed
    | cons x xs ih =>
      rw [List.mapM_cons, bind_eq_error_iff] at failed
      rcases failed with here | ⟨y, here, failed⟩
      · exact ⟨[], x, xs, rfl, by simp, here⟩
      · rcases bind_eq_error_iff.1 failed with rest | ⟨ys, -, returned⟩
        · obtain ⟨before, x', after, rfl, each, failed⟩ := ih rest
          exact ⟨x :: before, x', after, rfl, List.forall_mem_cons.2 ⟨⟨y, here⟩, each⟩, failed⟩
        · cases returned
  · rintro ⟨before, x, after, rfl, each, failed⟩
    induction before with
    | nil =>
      rw [List.nil_append, List.mapM_cons, failed]
      rfl
    | cons earlier before ih =>
      obtain ⟨⟨y, here⟩, each⟩ := List.forall_mem_cons.1 each
      rw [List.cons_append, List.mapM_cons, here, ih each]
      rfl

theorem exists_eq_ok_iff {x : Except ε α} : (∃ a, x = .ok a) ↔ ∀ fault, x ≠ .error fault := by
  cases x <;> simp

theorem exists_eq_ok_of_isOk {x : Except ε α} (ok : x.isOk = true) : ∃ a, x = .ok a := by
  cases x with
  | error _ => cases ok
  | ok a => exact ⟨a, rfl⟩

/-- Going through a list depends on nothing but what is computed for its items. -/
theorem mapM_congr {f g : α → Except ε β} {xs : List α} (same : ∀ x ∈ xs, f x = g x) :
    xs.mapM f = xs.mapM g := by
  induction xs with
  | nil => rfl
  | cons x xs ih =>
    rw [List.mapM_cons, List.mapM_cons, same x (List.mem_cons_self ..),
      ih fun x' member => same x' (List.mem_cons_of_mem _ member)]

end StagedChecks
