import StagedChecks.Data.Equality
import StagedChecks.Value.Truth

/-!
# Functions for calls

A function takes the plain data of its arguments and answers data, or fails with an exception.

## Main definitions

* `Functions.echo`, `Functions.arguments` — one argument, and all of them.
* `Functions.negate`, `Functions.equal`, `Functions.greater`, `Functions.isNull`,
  `Functions.length`, `Functions.toBool` — tests and measures of the first arguments.
* `Functions.constant`, `Functions.failure` — answers that no argument changes.
-/

namespace StagedChecks

/-- A function of the data of its arguments. -/
abbrev Function := List Data → Except Failure Data

namespace Functions

def constant (data : Data) : Function :=
  fun _ => .ok data

/-- A failure with an exception of some text. -/
def fail {α : Type} (text : String) : Except Failure α :=
  .error (.exception (.ok text))

def failure (text : String) : Function :=
  fun _ => fail text

/-- An argument by its place; a negative place counts from the end. A place is written in
64 bits. -/
def argument (arguments : List Data) (index : Int) : Except Failure Data :=
  let bound : Int := powerOfTwo 63
  let place := if index < 0 then arguments.length + index else index
  if index < -bound || bound ≤ index then
    fail "cannot fit 'int' into an index-sized integer"
  else
    match if place < 0 then none else arguments[place.toNat]? with
    | some d => .ok d
    | none => fail "tuple index out of range"

/-- The argument at a place. -/
def echo (index : Int) : Function :=
  fun arguments => argument arguments index

def arguments : Function :=
  fun ds => .ok (.list ds)

def negate : Function :=
  fun ds => do
    match ← argument ds 0 with
    | .bool b => return .bool !b
    | _ => fail "negate: bool expected"

def equal : Function :=
  fun ds => return .bool ((← argument ds 0).equal (← argument ds 1))

/-- The place of a number on the number line, none for what is not a number; truth values are no
numbers here. -/
def place (d : Data) : Except Failure (Option Magnitude) :=
  match d with
  | .int n => .ok (some (.ofInt n))
  | .float x => .ok x.magnitude?
  | _ => fail "gt: numbers expected"

/-- Whether the first argument is greater than the second; the first is looked at before there need
be a second. The float that is not a number is greater than nothing, and nothing is greater than
it. -/
def greater : Function :=
  fun ds => do
    let x ← place (← argument ds 0)
    let y ← place (← argument ds 1)
    match x, y with
    | some p, some q => return .bool (q.lt p)
    | _, _ => return .bool false

def isNull : Function :=
  fun ds => return .bool (← argument ds 0).isNull

/-- The size of a text in characters, or of a collection in items. -/
def length : Function :=
  fun ds => do
    match ← argument ds 0 with
    | .str s => return .int s.length
    | .list items => return .int items.length
    | .tuple items => return .int items.length
    | .map entries => return .int entries.length
    | _ => fail "length: collection expected"

def toBool : Function :=
  fun ds => do
    match Value.ofData (← argument ds 0) with
    | .error fault => fail fault.message
    | .ok v =>
      match v.toBool with
      | .ok b => return .bool b
      | .error reason => fail reason.message

end Functions

end StagedChecks
