import StagedChecks.Binary64
import StagedChecks.Fault
import StagedChecks.Table

/-!
# Data

Plain data of any nesting, in which values that are already wrapped may stand, and the wrapping of
data as a `Value`: unknown while it depends on work not yet done, null, or known.

## Main definitions

* `Key` — what an entry of a table stands under.
* `Data` — dynamic data.
* `Value` — data with its state and the name of its type.
* `Data.object`, `Data.under?` — tables with names for keys, and what stands under a name.
* `Data.firstForeign?` — the first object that no value can hold.
* `Value.ofData` — wraps data, or names that object.
-/

namespace StagedChecks

/-- Unknown data will become concrete in a later pass; null is final. -/
inductive Value.State where
  | unknown
  | null
  | known
  deriving DecidableEq, Repr, Inhabited

/-- What an entry of a table stands under: data without lists and tables. -/
inductive Key where
  | null
  | bool (b : Bool)
  | int (n : Int)
  | float (x : Binary64)
  | str (s : String)
  | tuple (items : List Key)
  | value (state : Value.State) (typeName : String) (raw : Key)
  | foreign (kind : String) (identity : Nat)
  deriving Repr, Inhabited

/-- Whether a key is a name. Only a text equals a text. -/
def Key.isName (name : String) : Key → Bool
  | .str s => s == name
  | _ => false

/-- Dynamic data. A tuple differs from a list only in its kind. A foreign object is one that no
value can hold; its identity tells it from other ones. -/
inductive Data where
  | null
  | bool (b : Bool)
  | int (n : Int)
  | float (x : Binary64)
  | str (s : String)
  | list (items : List Data)
  | tuple (items : List Data)
  | map (entries : List (Key × Data))
  | value (state : Value.State) (typeName : String) (raw : Data)
  | foreign (kind : String) (identity : Nat)
  deriving Repr, Inhabited

/-- Data together with what is known about it. -/
structure Value where
  state : Value.State
  typeName : String := "dynamic"
  raw : Data := .null
  deriving Repr, Inhabited

namespace Data

def isNull : Data → Bool
  | .null => true
  | _ => false

/-- Entries with names for keys. -/
def named (table : Table Data) : List (Key × Data) :=
  table.map fun (name, d) => (.str name, d)

/-- A table with names for keys. -/
def object (table : Table Data) : Data :=
  .map (named table)

/-- What stands under a name among entries with keys of all kinds. -/
def under? (entries : List (Key × Data)) (name : String) : Option Data :=
  (entries.find? (·.1.isName name)).map (·.2)

def typeName : Data → String
  | .null => "dynamic"
  | .bool _ => "bool"
  | .int _ => "number"
  | .float _ => "number"
  | .str _ => "string"
  | .list _ => "list"
  | .tuple _ => "list"
  | .map _ => "map"
  | .value _ name _ => name
  | .foreign kind _ => kind

mutual

/-- The kind of the first foreign object in the order of writing. What stands inside a wrapped
value is not looked at, nor are keys. -/
def firstForeign? : Data → Option String
  | .foreign kind _ => some kind
  | .list items => firstForeignInItems? items
  | .tuple items => firstForeignInItems? items
  | .map entries => firstForeignInEntries? entries
  | _ => none

def firstForeignInItems? : List Data → Option String
  | [] => none
  | d :: ds => (firstForeign? d).or (firstForeignInItems? ds)

def firstForeignInEntries? : List (Key × Data) → Option String
  | [] => none
  | (_, d) :: es => (firstForeign? d).or (firstForeignInEntries? es)

end

theorem firstForeignInItems?_eq (ds : List Data) :
    firstForeignInItems? ds = ds.findSome? firstForeign? := by
  induction ds with
  | nil => rfl
  | cons d ds ih => cases h : firstForeign? d <;> simp [firstForeignInItems?, h, ih]

theorem firstForeignInEntries?_eq (es : List (Key × Data)) :
    firstForeignInEntries? es = es.findSome? (firstForeign? ·.2) := by
  induction es with
  | nil => rfl
  | cons e es ih => cases h : firstForeign? e.2 <;> simp [firstForeignInEntries?, h, ih]

@[simp] theorem under?_nil (name : String) : under? [] name = none := rfl

theorem under?_cons (e : Key × Data) (es : List (Key × Data)) (name : String) :
    under? (e :: es) name = if e.1.isName name then some e.2 else under? es name := by
  cases here : e.1.isName name <;> simp [under?, here]

theorem mem_of_under? {es : List (Key × Data)} {name : String} {d : Data}
    (found : under? es name = some d) : ∃ key, (key, d) ∈ es := by
  obtain ⟨⟨key, d'⟩, at_name, rfl⟩ := Option.map_eq_some_iff.1 found
  exact ⟨key, List.mem_of_find?_eq_some at_name⟩

/-- Under a name of a table with names for keys stands what the table has there. -/
@[simp] theorem under?_named (table : Table Data) (name : String) :
    under? (named table) name = Table.get? table name := by
  induction table with
  | nil => rfl
  | cons e table ih =>
    obtain ⟨k, d⟩ := e
    rw [named, List.map_cons, under?_cons, ← named, ih]
    simp [Key.isName]

end Data

namespace Value

def unknown (typeName : String := "dynamic") : Value :=
  { state := .unknown, typeName }

def null (typeName : String := "dynamic") : Value :=
  { state := .null, typeName }

/-- Whether a value is determined, be it null. -/
def isKnown (v : Value) : Bool :=
  v.state != .unknown

def isNull (v : Value) : Bool :=
  v.state == .null

def toData (v : Value) : Data :=
  .value v.state v.typeName v.raw

/-- The value that data stands for: a value itself, null for null, otherwise the data under the
name of its type, an outermost list becoming a tuple. -/
def wrap : Data → Value
  | .value state typeName raw => { state, typeName, raw }
  | .null => null
  | .list items => { state := .known, typeName := "list", raw := .tuple items }
  | d => { state := .known, typeName := d.typeName, raw := d }

/-- Wraps data that holds no foreign object. -/
def ofData (d : Data) : Except Fault Value :=
  match d.firstForeign? with
  | some kind => .error (.unsupportedData kind)
  | none => .ok (wrap d)

@[simp] theorem wrap_toData (v : Value) : wrap v.toData = v := rfl

@[simp] theorem ofData_toData (v : Value) : ofData v.toData = .ok v := rfl

@[simp] theorem isKnown_unknown (typeName : String) : (unknown typeName).isKnown = false := rfl

end Value

end StagedChecks
