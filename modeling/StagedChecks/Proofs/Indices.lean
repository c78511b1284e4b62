import Mathlib.Data.List.TakeWhile
import StagedChecks.Proofs.Traversal
import StagedChecks.Value.Index

/-!
# Indices in traversals

Digits of any script count as digits of an index, but the segments of a well-formed traversal have
those of ASCII only. So all that can go wrong with the index that a segment spells is its length.

## Main statements

* `Reference.isAttribute_of_parse` — the segments of a path.
* `Reference.isDigit_of_isAttribute` — the digits of segments.
* `Index.read_of_digits` — the indices that digits of ASCII spell.
-/

namespace StagedChecks

namespace Text

theorem isDigit_of_ascii {c : Char} (ascii : c.toNat < 128) : isDigit c = c.isDigit := by
  have table : ∀ n < 128, isDigit (Char.ofNat n) = (Char.ofNat n).isDigit := by decide +kernel
  simpa [Char.ofNat_toNat] using table c.toNat ascii

theorem isSome_decimalValue? {c : Char} (digit : c.isDigit = true) :
    (decimalValue? c).isSome = true := by
  simp only [Char.isDigit, Bool.and_eq_true, decide_eq_true_eq, ge_iff_le,
    UInt32.le_iff_toNat_le] at digit
  simp [decimalValue?_of_ascii c digit.1 digit.2]

end Text

namespace Reference

/-- No name begins with a digit. -/
theorem isDigit_of_isNameStart {c : Char} (start : isNameStart c = true) :
    Text.isDigit c = false := by
  have codes : 65 ≤ c.toNat ∧ c.toNat < 128 := by
    simp only [isNameStart, Bool.or_eq_true, beq_iff_eq] at start
    rcases start with letter | rfl
    · have ranges : (decide (65 ≤ c.val ∧ c.val ≤ 90) ||
          (decide (97 ≤ c.val) && decide (c.val ≤ 122))) = true := letter
      simp only [Bool.or_eq_true, Bool.and_eq_true, decide_eq_true_eq,
        UInt32.le_iff_toNat_le] at ranges
      change (65 ≤ c.toNat ∧ c.toNat ≤ 90) ∨ (97 ≤ c.toNat ∧ c.toNat ≤ 122) at ranges
      omega
    · decide
  rw [Text.isDigit_of_ascii codes.2, Bool.eq_false_iff]
  intro digit
  simp only [Char.isDigit, Bool.and_eq_true, decide_eq_true_eq, UInt32.le_iff_toNat_le] at digit
  have high : c.toNat ≤ 57 := digit.2
  omega

/-- A segment of digits is an index without a line break, so that its digits are those of ASCII. -/
theorem isDigit_of_isAttribute {s : String} (segment : isAttribute s = true)
    (digits : Text.isDigits s = true) : ∀ c ∈ s.toList, c.isDigit = true := by
  simp only [Text.isDigits, Bool.and_eq_true, List.all_eq_true] at digits
  -- A line break is no digit, so none is dropped.
  have whole : dropFinalBreak s.toList = s.toList := by
    refine if_neg fun last => ?_
    have member := List.mem_of_getLast? last
    exact absurd (digits.2 _ member) (by decide +kernel)
  simp only [isAttribute, isName, isIndex, whole, Bool.or_eq_true] at segment
  rcases segment with name | index
  · cases chars : s.toList with
    | nil => simp
    | cons c cs =>
      simp only [chars, isNameChars, Bool.and_eq_true] at name
      have := digits.2 c (by simp [chars])
      simp [isDigit_of_isNameStart name.1] at this
  · simp only [isIndexChars, Bool.and_eq_true, List.all_eq_true] at index
    exact index.2

/-- Digits of ASCII are a segment of digits. -/
theorem isAttribute_of_digits {s : String} (nonempty : s ≠ "")
    (digits : ∀ c ∈ s.toList, c.isDigit = true) :
    isAttribute s = true ∧ Text.isDigits s = true := by
  have whole : dropFinalBreak s.toList = s.toList := by
    refine if_neg fun last => ?_
    exact absurd (digits _ (List.mem_of_getLast? last)) (by decide)
  constructor
  · simp [isAttribute, isIndex, isIndexChars, whole, nonempty, List.all_eq_true.2 digits]
  · simp only [Text.isDigits, Bool.and_eq_true, List.all_eq_true]
    refine ⟨by simpa using nonempty, fun c member => ?_⟩
    simp [Text.isDigit, Text.isSome_decimalValue? (digits c member)]

theorem mem_of_ofSegments {root : String} {others : List String} {r : Reference}
    (made : ofSegments root others = .ok r) : ∀ s ∈ r.path, s ∈ others := by
  rcases ofSegments_eq_ok_iff.1 made with ⟨-, rfl⟩ | ⟨-, type, name, path, rfl, rfl⟩ |
    ⟨-, -, name, path, rfl, rfl, -⟩
  · exact fun s => id
  · exact fun s member => List.mem_cons_of_mem _ (List.mem_cons_of_mem _ member)
  · exact fun s => List.mem_cons_of_mem _

theorem isAttribute_of_parse {t : String} {r : Reference} (read : parse t = .ok r) :
    ∀ s ∈ r.path, isAttribute s = true := by
  obtain ⟨-, attributes, made⟩ := parse_eq_ok_iff.1 read
  exact fun s member => attributes s (mem_of_ofSegments made s member)

end Reference

namespace Index

/-- Digits of ASCII spell an index unless there are too many of them. -/
theorem read_of_digits {text : String} (digits : ∀ c ∈ text.toList, c.isDigit = true) :
    read text = if numeralLimit < text.length then .error (.oversizedNumeral text.length)
      else .ok (value (text.toList.filterMap Text.decimalValue?)) := by
  have all : text.toList.takeWhile (fun c => (Text.decimalValue? c).isSome) = text.toList :=
    List.takeWhile_eq_self_iff.2 fun c member => Text.isSome_decimalValue? (digits c member)
  simp only [read, all, String.length_toList, lt_irrefl, if_false]

end Index

end StagedChecks
