import StagedChecks.Expression

/-!
# Rules

A rule is a condition together with the message shown when it is false. A condition can tell its
variables and its value.

## Main definitions

* `Candidate`, `Candidate.check` — what is offered as a condition, and the expression that it is.
* `Rule` — a rule.
* `Rule.Kind` — what the rules of a set are about.
* `Rule.Kind.failureSummary` — the headline of a condition that is false.
* `Rule.summaryOf` — the same for any data in place of a kind.
* `Rule.subject?` — the place that a verdict is reported at.
-/

namespace StagedChecks

/-- What is offered as a condition: nothing, an expression, or some other object, which may have
one of the two abilities of an expression. -/
inductive Candidate where
  | nothing
  | expression (e : Expression)
  | object (hasVariables hasValue : Bool)

/-- The abilities that an object lacks as an expression. -/
def Candidate.missing (hasVariables hasValue : Bool) : List String :=
  (if hasVariables then [] else ["variables"]) ++ (if hasValue then [] else ["value"])

/-- The condition that a candidate is, or why it is none. An object with both abilities would be an
expression. -/
def Candidate.check : Candidate → Except String Expression
  | .expression e => .ok e
  | .nothing => .error "condition is required"
  | .object hasVariables hasValue =>
    .error ("condition must be an expression, missing: " ++
      ", ".intercalate (missing hasVariables hasValue))

/-- A condition, its message and the place of its declaration. -/
structure Rule where
  condition : Expression
  errorMessage : String
  declaration : Option Source.Range := none

namespace Rule

/-- What the rules of a set are about. No well-formed configuration yields the invalid kind. -/
inductive Kind where
  | invalid
  | resourcePrecondition
  | resourcePostcondition
  | outputPrecondition
  deriving DecidableEq, Repr, Inhabited

namespace Kind

def ofName? (name : String) : Option Kind :=
  match name with
  | "invalid" => some .invalid
  | "resource_precondition" => some .resourcePrecondition
  | "resource_postcondition" => some .resourcePostcondition
  | "output_precondition" => some .outputPrecondition
  | _ => none

/-- The kind of a name, or the fault that there is none. -/
def ofName (name : String) : Except Fault Kind :=
  match ofName? name with
  | some kind => .ok kind
  | none => .error (.unknownKind name)

def failureSummary : Kind → String
  | .invalid => "Failed condition for invalid check type"
  | .resourcePrecondition => "Resource precondition failed"
  | .resourcePostcondition => "Resource postcondition failed"
  | .outputPrecondition => "Module output value precondition failed"

end Kind

/-- The kind that data names, if it names one. -/
def kindOf? : Data → Option Kind
  | .str name => Kind.ofName? name
  | _ => none

/-- The headline for any data in place of a kind. -/
def summaryOf (d : Data) : String :=
  ((kindOf? d).getD .invalid).failureSummary

/-- The place that a verdict is reported at: that of the condition, else of the declaration. -/
def subject? (r : Rule) : Option Source.Range :=
  r.condition.range?.or r.declaration

end Rule

end StagedChecks
