import StagedChecks.Fault

/-!
# Integers as text

An integer is written in decimal digits, after a dash when it is negative. One of very many digits
is not shown.

## Main definitions

* `Text.integerChars`, `Text.integer` — the text of an integer.
* `Text.showInteger` — the same within the limit on digits.
-/

namespace StagedChecks.Text

/-- The characters that an integer is written with. -/
def integerChars : Int → List Char
  | .ofNat n => Nat.toDigits 10 n
  | .negSucc n => '-' :: Nat.toDigits 10 (n + 1)

def integer (n : Int) : String :=
  String.ofList (integerChars n)

/-- Whether an integer has few enough digits to be shown. -/
def isShort (n : Int) : Bool :=
  (Nat.toDigits 10 n.natAbs).length ≤ numeralLimit

def showInteger (n : Int) : Except Fault String :=
  if isShort n then .ok (integer n) else .error .oversizedInteger

@[simp] theorem integer_natCast (n : Nat) : integer n = toString n := rfl

/-- The text of an integer holds digits and at most a leading dash. -/
theorem isDigit_or_dash_of_mem_integerChars {n : Int} {c : Char} (member : c ∈ integerChars n) :
    c.isDigit = true ∨ c = '-' := by
  cases n with
  | ofNat n => exact .inl (Nat.isDigit_of_mem_toDigits (by decide) (by decide) member)
  | negSucc n =>
    rcases List.mem_cons.1 member with rfl | member
    · exact .inr rfl
    · exact .inl (Nat.isDigit_of_mem_toDigits (by decide) (by decide) member)

end StagedChecks.Text
