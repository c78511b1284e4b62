import StagedChecks.Text.Quoted

/-!
# Faults

A fault ends an evaluation without a result. It is no outcome of a rule: it says that the data or
the collaborators that the caller supplied could not be used.

## Main definitions

* `Fault` — the causes.
* `Fault.message` — the wording of each.
* `Failure`, `Failure.text` — how a function that the caller supplies fails, and what is said of it.
-/

namespace StagedChecks

/-- Numerals of more decimal digits than this are not turned into integers, nor integers into such
numerals. -/
def numeralLimit : Nat := 4300

/-- Why an evaluation ended without a result. -/
inductive Fault where
  /-- An object of this kind stands where only data may stand. -/
  | unsupportedData (kind : String)
  /-- An index is made of digits of which some have no place in a numeral. -/
  | malformedIndex (text : String)
  /-- A numeral has this many digits. -/
  | oversizedNumeral (digits : Nat)
  /-- An integer has too many digits to be shown. -/
  | oversizedInteger
  | unknownKind (name : String)
  | unknownState (name : String)
  | undecodableText
  /-- A collaborator of the caller failed. -/
  | raised (kind message : String)
  deriving DecidableEq, Repr, Inhabited

def Fault.message : Fault → String
  | .unsupportedData kind => "unsupported value type: " ++ kind
  | .malformedIndex text =>
    "invalid literal for int() with base 10: " ++ Text.quotedUpTo 200 text
  | .oversizedNumeral digits =>
    "Exceeds the limit (" ++ toString numeralLimit ++
      " digits) for integer string conversion: value has " ++ toString digits ++
      " digits; use sys.set_int_max_str_digits() to increase the limit"
  | .oversizedInteger =>
    "Exceeds the limit (" ++ toString numeralLimit ++
      " digits) for integer string conversion; use sys.set_int_max_str_digits() to increase the limit"
  | .unknownKind name => Text.quoted name ++ " is not a valid CheckRuleKind"
  | .unknownState name => Text.quoted name ++ " is not a valid ValueState"
  | .undecodableText => "the content is not UTF-8"
  | .raised _ message => message

@[simp] theorem Fault.message_unsupportedData (kind : String) :
    (unsupportedData kind).message = "unsupported value type: " ++ kind := rfl

/-- How a function that the caller supplies fails. -/
inductive Failure where
  /-- With an exception, which is reported by its text. To show it as text can fail in turn. -/
  | exception (text : Except Fault String)
  /-- With an interrupt, which is no exception and ends the evaluation. -/
  | interrupt (fault : Fault)
  deriving Inhabited

/-- The text that a failure is reported by, or the fault that it ends the evaluation with. -/
def Failure.text : Failure → Except Fault String
  | .exception text => text
  | .interrupt fault => .error fault

end StagedChecks
