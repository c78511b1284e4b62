import StagedChecks.Data
import StagedChecks.Diagnostics
import StagedChecks.Value.Index

/-!
# Attributes of values

A path of attribute names is followed inside a value: a name finds an entry of a table, and a name
of digits an item of a tuple. Nothing is reported about an unknown value on the way; the rest of
the path is unknown too.

## Main definitions

* `Value.attribute?` — the value under one name.
* `Value.walk` — the value at the end of a path, with what is reported on the way.
-/

namespace StagedChecks.Value

def nullAttribute (name : String) : Diagnostic :=
  .error "Attempt to get attribute from null value"
    ("Cannot access attribute \"" ++ name ++ "\" of a null value.")

def unsupportedAttribute (typeName name : String) : Diagnostic :=
  .error "Unsupported attribute"
    ("This " ++ typeName ++ " value does not have an attribute named \"" ++ name ++ "\".")

def attributeData? (raw : Data) (name : String) : Except Fault (Option Data) :=
  match raw with
  | .map entries => .ok (Data.under? entries name)
  | .tuple items =>
    if Text.isDigits name then (Index.read name).map (items[·]?) else .ok none
  | _ => .ok none

def attribute? (v : Value) (name : String) : Except Fault (Option Value) := do
  match ← attributeData? v.raw name with
  | some d => return some (← ofData d)
  | none => return none

/-- The value at the end of a path. A path that cannot be followed is reported once and leads to
an unknown value. -/
def walk (v : Value) : List String → Except Fault (Value × Diagnostics)
  | [] => .ok (v, [])
  | name :: path =>
    match v.state with
    | .unknown => .ok (.unknown, [])
    | .null => .ok (.unknown, [nullAttribute name])
    | .known =>
      match attribute? v name with
      | .ok (some found) => walk found path
      | .ok none => .ok (.unknown, [unsupportedAttribute v.typeName name])
      | .error fault => .error fault

@[simp] theorem walk_nil (v : Value) : walk v [] = .ok (v, []) := rfl

/-- Every path from an unknown value leads to an unknown value, without a report. -/
theorem walk_of_unknown {v : Value} (pending : v.state = .unknown) (name : String)
    (path : List String) : walk v (name :: path) = .ok (.unknown, []) := by
  simp [walk, pending]

end StagedChecks.Value
