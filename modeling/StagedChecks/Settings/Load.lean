import StagedChecks.Json
import StagedChecks.Settings

/-!
# Loading settings

Settings come from the section `check_rules` of a JSON file, where it holds truth values for them,
and from two environment variables, which win when they are not empty. A file that is missing,
cannot be read or is no JSON contributes nothing.

## Main definitions

* `Settings.FileState` — what is found at the path of the file.
* `Settings.load` — the settings.
-/

namespace StagedChecks.Settings

/-- What is found at the path of a file. -/
inductive FileState where
  | missing
  | unreadable
  | content (bytes : ByteArray)

/-- The environment variable that decides on tracing. -/
def traceVariable : String :=
  "CHECKRULES_TRACE_ENABLED"

/-- The environment variable that decides on snapshots. -/
def snapshotVariable : String :=
  "CHECKRULES_SNAPSHOT_CONTEXT"

/-- The truth value under a name, if there is one. -/
def flag? (settings : List (Key × Data)) (name : String) : Option Bool :=
  match Data.under? settings name with
  | some (.bool b) => some b
  | _ => none

/-- The section of a document that holds settings. -/
def sectionOf (document : Data) : List (Key × Data) :=
  match document with
  | .map entries =>
    match Data.under? entries "check_rules" with
    | some (.map settings) => settings
    | _ => []
  | _ => []

/-- The document of a text; one that is no JSON counts as empty. -/
def readText (text : String) : Except Fault Data :=
  match Json.read text with
  | .ok d => .ok d
  | .error .malformed => .ok .null
  | .error (.oversizedInteger digits) => .error (.oversizedNumeral digits)

def readFile : FileState → Except Fault Data
  | .missing => .ok .null
  | .unreadable => .ok .null
  | .content bytes =>
    match String.fromUTF8? bytes with
    | some text => readText text
    | none => .error .undecodableText

def isYes (value : String) : Bool :=
  value.toLower == "true" || value.toLower == "1" || value.toLower == "yes"

/-- What an environment variable decides; an empty one decides nothing. -/
def variableFlag? (environment : String → Option String) (name : String) : Option Bool :=
  match environment name with
  | some value => if value = "" then none else some (isYes value)
  | none => none

/-- The settings of a file and an environment. -/
def load (file : FileState) (environment : String → Option String) : Except Fault Settings := do
  let settings := sectionOf (← readFile file)
  return {
    traceEnabled :=
      ((variableFlag? environment traceVariable).or (flag? settings "trace_enabled")).getD true
    snapshotContext :=
      ((variableFlag? environment snapshotVariable).or (flag? settings "snapshot_context")).getD
        true }

end StagedChecks.Settings
