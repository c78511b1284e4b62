import StagedChecks.Data

/-!
# Values as truth values

A known value is true or false when it is a truth value itself or one of the four texts that spell
one.

## Main definitions

* `Value.toBool` — the truth value, or why there is none.
* `NoTruth.message` — the wording of the reason.
-/

namespace StagedChecks

/-- Why a value is neither true nor false. -/
inductive NoTruth where
  | unknown
  | null
  | otherText
  | otherType (typeName : String)
  deriving DecidableEq, Repr

def NoTruth.message : NoTruth → String
  | .unknown => "value is not yet known"
  | .null => "a null value cannot be converted to bool"
  | .otherText => "a bool is required"
  | .otherType typeName => "bool required, but have " ++ typeName

namespace Value

/-- The truth value that a text spells. -/
def truthOfText? (text : String) : Option Bool :=
  if text = "true" || text = "1" then some true
  else if text = "false" || text = "0" then some false
  else none

def toBool (v : Value) : Except NoTruth Bool :=
  match v.state with
  | .unknown => .error .unknown
  | .null => .error .null
  | .known =>
    match v.raw with
    | .bool b => .ok b
    | .str s =>
      match truthOfText? s with
      | some b => .ok b
      | none => .error .otherText
    | _ => .error (.otherType v.typeName)

/-- A value has no truth value yet exactly while it is unknown. -/
theorem toBool_eq_unknown_iff {v : Value} : v.toBool = .error .unknown ↔ v.isKnown = false := by
  unfold toBool isKnown
  cases v.state with
  | unknown | null => simp
  | known =>
    cases v.raw with
    | str s => cases spelled : truthOfText? s <;> simp [spelled]
    | _ => simp

end Value

end StagedChecks
