import StagedChecks.Bindings
import StagedChecks.Reference

/-!
# Expressions

An expression needs the values of some traversals and turns them into one value. A call runs its
function only when every argument is visible and known; a function that fails with an exception
makes the value unknown and is reported.

## Main definitions

* `Expression.traversals` — the traversals that an expression needs.
* `Expression.references` — the references among them.
* `Expression.evaluate` — the value of an expression, with its reports.
* `Expression.callName` — the name that a call goes by.
-/

namespace StagedChecks.Expression

/-- The traversals that an expression needs, in order and with repetitions. -/
def traversals : Expression → Except Fault (List String)
  | .constant _ _ => .ok []
  | .reference traversal _ => .ok [traversal]
  | .call _ arguments _ _ => .ok arguments
  | .custom traversals _ _ => traversals

def range? : Expression → Option Source.Range
  | .constant _ range => some range
  | .reference _ range => some range
  | .call _ _ _ range => some range
  | .custom _ _ range => range

/-- The references that an expression needs, and reports of its malformed traversals. -/
def references (e : Expression) : Except Fault (List Reference × Diagnostics) :=
  e.traversals.map Reference.analyse

def unknownVariable (traversal : String) : Diagnostic :=
  .error "Unknown variable" ("There is no variable named \"" ++ traversal ++ "\".")

/-- The visible value of a traversal. Without any scope nothing is visible. -/
def lookup (visible : Option Variables) (traversal : String) : Option Value :=
  visible.bind (Table.get? · traversal)

/-- The value of a traversal, or an unknown value and a report. -/
def evaluateReference (visible : Option Variables) (traversal : String) : Value × Diagnostics :=
  match lookup visible traversal with
  | some v => (v, [])
  | none => (.unknown, [unknownVariable traversal])

def functionError (name failure : String) (range : Source.Range) : Diagnostic :=
  .error "Error in function call" ("Call to function \"" ++ name ++ "\" failed: " ++ failure ++ ".")
    (some range)

/-- What a function answers on plain data, wrapped as a value. -/
def apply (function : List Data → Except Failure Data) (arguments : List Data) :
    Except Failure Value := do
  let answer ← function arguments
  match Value.ofData answer with
  | .ok v => return v
  | .error fault => throw (.exception (.ok fault.message))

def evaluateCall (function : List Data → Except Failure Data) (arguments : List String)
    (name : String) (range : Source.Range) (visible : Option Variables) :
    Except Fault (Value × Diagnostics) :=
  let looked := arguments.map (evaluateReference visible)
  let reports := looked.flatMap (·.2)
  if reports.isEmpty && looked.all (·.1.isKnown) then
    match apply function (looked.map (·.1.raw)) with
    | .ok v => .ok (v, [])
    | .error failure => return (.unknown, [functionError name (← failure.text) range])
  else .ok (.unknown, reports)

/-- The value of an expression where some values are visible, with its reports. -/
def evaluate (e : Expression) (visible : Option Variables) : Except Fault (Value × Diagnostics) :=
  match e with
  | .constant data _ => (Value.ofData data).map (·, [])
  | .reference traversal _ => .ok (evaluateReference visible traversal)
  | .call function arguments name range =>
    evaluateCall function arguments name range visible
  | .custom _ evaluate _ => evaluate visible

/-- The name that a call goes by: the one given to it unless empty, else that of its function,
else a general one. -/
def callName (given functionName : Option String) : String :=
  match given with
  | none => functionName.getD "predicate"
  | some name => if name = "" then functionName.getD "predicate" else name

def callText (name : String) (arguments : List String) : String :=
  "Predicate(" ++ Text.quoted name ++ ", " ++ ", ".intercalate arguments ++ ")"

end StagedChecks.Expression
