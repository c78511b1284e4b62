import StagedChecks.Diagnostics
import StagedChecks.Reference

/-!
# Bindings and contexts

A context supplies, for one evaluation, the scope in which references get their values. Bindings
are the plain context: named values, the instances that `self` stands for, and nothing else. From
pass to pass some of the values are written again as they become known.

## Main definitions

* `Repetition` — the data of a repeated block.
* `Scope`, `Context` — suppliers of visible values.
* `Bindings`, `Bindings.ofData`, `Bindings.update` — named values, built and written.
-/

namespace StagedChecks

/-- The data of one instance of a repeated block; null stands for absence. -/
structure Repetition where
  countIndex : Data := .null
  eachKey : Data := .null
  eachValue : Data := .null
  deriving Repr, Inhabited

def Repetition.hasCount (r : Repetition) : Bool :=
  !r.countIndex.isNull

def Repetition.hasEach (r : Repetition) : Bool :=
  !r.eachKey.isNull

/-- The values of some references, by traversal, and what was reported while they were found. -/
abbrev Scope := List Reference → Except Fault (Variables × Diagnostics)

/-- What supplies the scope of an evaluation for a block and its repetition. -/
structure Context where
  scope : Option String → Option Repetition → Except Fault Scope

/-- Named values and the instances that `self` stands for. -/
structure Bindings where
  values : Table Value := []
  instances : Table Value := []
  deriving Repr, Inhabited

namespace Bindings

/-- Wraps the data of a table, in order. -/
def wrapTable (table : Table Data) : Except Fault (Table Value) :=
  table.mapM fun entry => return (entry.1, ← Value.ofData entry.2)

def ofData (values instances : Table Data) : Except Fault Bindings :=
  return { values := ← wrapTable values, instances := ← wrapTable instances }

def update (b : Bindings) (updates : Table Data) : Except Fault Bindings :=
  ofData (Table.merge (Table.mapValues Value.toData b.values) updates)
    (Table.mapValues Value.toData b.instances)

def value? (b : Bindings) (subject : String) : Option Value :=
  Table.get? b.values subject

def instance? (b : Bindings) (selfRef : String) : Option Value :=
  Table.get? b.instances selfRef

end Bindings

end StagedChecks
