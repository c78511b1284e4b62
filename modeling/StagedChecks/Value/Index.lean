import StagedChecks.Fault
import StagedChecks.Text.Digit

/-!
# Indices

An attribute name of digits only is read as the decimal index of an item. Digits of every script
count, but not those that have no place in a numeral.

## Main definitions

* `Index.read` — the index that a text of digits spells.
-/

namespace StagedChecks.Index

def value (digits : List Nat) : Nat :=
  digits.foldl (fun n d => 10 * n + d) 0

/-- The index that a text of digits spells. The length of the leading run of decimal digits is
looked at before the first character that is none. -/
def read (text : String) : Except Fault Nat :=
  let leading := text.toList.takeWhile fun c => (Text.decimalValue? c).isSome
  if numeralLimit < leading.length then .error (.oversizedNumeral leading.length)
  else if leading.length < text.toList.length then .error (.malformedIndex text)
  else .ok (value (leading.filterMap Text.decimalValue?))

end StagedChecks.Index
