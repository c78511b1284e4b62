import StagedChecks.Text.Segments
import StagedChecks.Diagnostics

/-!
# References

A traversal such as `var.network.zones.0` names a value and a path of attributes inside it. Its
first segment, the root, decides how many segments name the value.

## Main definitions

* `Reference` — a named value and a path inside it.
* `Reference.parse` — reads a traversal.
* `Malformed` — why a traversal is no reference.
* `Reference.analyse` — the references among some traversals, and reports of the others.
-/

namespace StagedChecks

/-- A named value and a path of attributes inside it. -/
structure Reference where
  subject : String
  path : List String := []
  deriving DecidableEq, Repr

/-- Why a traversal is no reference. -/
inductive Malformed where
  | rootNotAName (root : String)
  /-- A later segment is neither a name nor an index. -/
  | badSegment (traversal : String)
  /-- The root names a group of values and needs one of them. -/
  | rootAlone (root : String)
  | noSuchAttribute (root name : String)
  | dataIncomplete
  | resourceIncomplete
  deriving DecidableEq, Repr

namespace Malformed

def detail : Malformed → String
  | .rootNotAName root => "A reference must begin with a name, not \"" ++ root ++ "\"."
  | .badSegment traversal => "\"" ++ traversal ++ "\" is not a valid reference."
  | .rootAlone root =>
    "The \"" ++ root ++ "\" object cannot be accessed directly. " ++
      "Instead, access one of its attributes."
  | .noSuchAttribute root name =>
    "The \"" ++ root ++ "\" object does not have an attribute named \"" ++ name ++ "\"."
  | .dataIncomplete =>
    "A reference to a data source must be followed by the data source type and name."
  | .resourceIncomplete =>
    "A reference to a resource type must be followed by at least one attribute access, " ++
      "specifying the resource name."

def diagnostic (m : Malformed) : Diagnostic :=
  .error "Invalid reference" m.detail

end Malformed

namespace Reference

/-- Names begin with a letter of ASCII or an underscore. -/
def isNameStart (c : Char) : Bool :=
  c.isAlpha || c == '_'

/-- Names go on with letters and digits of ASCII, underscores and hyphens. -/
def isNameRest (c : Char) : Bool :=
  c.isAlphanum || c == '_' || c == '-'

def isNameChars : List Char → Bool
  | [] => false
  | c :: cs => isNameStart c && cs.all isNameRest

/-- Whether characters form an index: one or more digits of ASCII. -/
def isIndexChars (cs : List Char) : Bool :=
  !cs.isEmpty && cs.all Char.isDigit

/-- Characters without one line break at their end. -/
def dropFinalBreak (cs : List Char) : List Char :=
  if cs.getLast? = some '\n' then cs.dropLast else cs

/-- A name, which one line break may follow. -/
def isName (segment : String) : Bool :=
  isNameChars (dropFinalBreak segment.toList)

/-- An index, which one line break may follow. -/
def isIndex (segment : String) : Bool :=
  isIndexChars (dropFinalBreak segment.toList)

/-- Segments after the first are names or indices. -/
def isAttribute (segment : String) : Bool :=
  isName segment || isIndex segment

/-- The attributes of the roots that have a fixed set of them. -/
def fixedAttributes? (root : String) : Option (List String) :=
  match root with
  | "count" => some ["index"]
  | "each" => some ["key", "value"]
  | "path" => some ["module", "root", "cwd"]
  | "terraform" => some ["workspace"]
  | _ => none

/-- Whether a root groups values that are named by one more segment. -/
def isGroup (root : String) : Bool :=
  root == "var" || root == "local" || root == "module"

/-- The reference that well-formed segments make. -/
def ofSegments (root : String) (others : List String) : Except Malformed Reference :=
  match fixedAttributes? root, others with
  | some _, [] => .error (.rootAlone root)
  | some allowed, name :: path =>
    if name ∈ allowed then .ok ⟨Text.joined root [name], path⟩
    else .error (.noSuchAttribute root name)
  | none, others =>
    if root = "self" then .ok ⟨root, others⟩
    else if root = "data" then
      match others with
      | type :: name :: path => .ok ⟨Text.joined root [type, name], path⟩
      | _ => .error .dataIncomplete
    else
      match others with
      | name :: path => .ok ⟨Text.joined root [name], path⟩
      | [] => .error (if isGroup root then .rootAlone root else .resourceIncomplete)

def parse (traversal : String) : Except Malformed Reference :=
  let (root, others) := Text.segments traversal
  if !isName root then .error (.rootNotAName root)
  else if !others.all isAttribute then .error (.badSegment traversal)
  else ofSegments root others

def parse? (traversal : String) : Option Reference :=
  (parse traversal).toOption

/-- The reports of a traversal: one if it is malformed. -/
def reports (traversal : String) : Diagnostics :=
  match parse traversal with
  | .ok _ => []
  | .error m => [m.diagnostic]

def traversal (r : Reference) : String :=
  Text.joined r.subject r.path

/-- The references among some traversals, each once and in order of first occurrence, and a report
of every occurrence of a malformed one. -/
def analyse (traversals : List String) : List Reference × Diagnostics :=
  ((traversals.filterMap parse?).eraseDups, traversals.flatMap reports)

end Reference

end StagedChecks
