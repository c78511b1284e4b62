import StagedChecks.Bindings
import StagedChecks.Value.Attribute

/-!
# Resolving references

The subject of a reference is looked up among the bindings, unless its root is reserved: `self` is
the instance of the block, `count` and `each` belong to its repetition. Then the path is followed.

## Main definitions

* `Bindings.subject` — the value of a subject.
* `Bindings.resolve` — the value of a reference.
* `Bindings.scope` — the values of some references.
* `Bindings.toContext` — bindings as a context.
-/

namespace StagedChecks.Bindings

def selfUnavailable : Diagnostic :=
  .error "Invalid \"self\" reference"
    ("The \"self\" object is not available in this context. " ++
      "It can only be used in conditions attached to a resource.")

def countUnavailable : Diagnostic :=
  .error "Reference to \"count\" in non-counted context"
    "The \"count\" object can only be used in blocks where the \"count\" argument is set."

def eachUnavailable : Diagnostic :=
  .error "Reference to \"each\" in context without for_each"
    "The \"each\" object can only be used in blocks where the \"for_each\" argument is set."

def undeclared (subject : String) : Diagnostic :=
  .error "Reference to undeclared value"
    ("There is no value named \"" ++ subject ++ "\" declared in this context.")

/-- A value that was found, or an unknown one with the report of its absence. -/
def foundOr (found : Option Value) (absence : Diagnostic) : Value × Diagnostics :=
  match found with
  | some v => (v, [])
  | none => (.unknown, [absence])

def subject (b : Bindings) (selfRef : Option String) (repetition : Repetition)
    (name : String) : Except Fault (Value × Diagnostics) :=
  if name = "self" then
    .ok (foundOr (selfRef.bind b.instance?) selfUnavailable)
  else if name = "count.index" then
    if repetition.hasCount then (Value.ofData repetition.countIndex).map (·, [])
    else .ok (.unknown "number", [countUnavailable])
  else if name = "each.key" || name = "each.value" then
    if repetition.hasEach then
      (Value.ofData (if name = "each.key" then repetition.eachKey else repetition.eachValue)).map
        (·, [])
    else .ok (.unknown, [eachUnavailable])
  else .ok (foundOr (b.value? name) (undeclared name))

/-- The value of a reference: that of its subject, at the end of its path. -/
def resolve (b : Bindings) (selfRef : Option String) (repetition : Repetition)
    (r : Reference) : Except Fault (Value × Diagnostics) := do
  let (base, before) ← b.subject selfRef repetition r.subject
  let (v, after) ← base.walk r.path
  return (v, before ++ after)

/-- The values of some references by their traversals, and all reports in order. -/
def scope (b : Bindings) (selfRef : Option String) (repetition : Repetition) : Scope :=
  fun references => do
    let found ← references.mapM fun r => return (r.traversal, ← b.resolve selfRef repetition r)
    return (Table.ofPairs (Table.mapValues (·.1) found), found.flatMap (·.2.2))

def toContext (b : Bindings) : Context where
  scope selfRef repetition := .ok (b.scope selfRef (repetition.getD {}))

end StagedChecks.Bindings
