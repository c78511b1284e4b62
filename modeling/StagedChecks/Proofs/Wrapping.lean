import Mathlib.Data.List.Lex
import StagedChecks.Proofs.Depth

/-!
# What can be wrapped

Before data is wrapped it is gone through, collection by collection and from left to right, but not
into the values that are wrapped already. A place in each collection on the way to some data makes
up its position, and positions are gone through in lexicographic order. Wrapping is refused at the
first position where a foreign object stands, with the kind of that object. Everything else becomes
the value that it stands for.

## Main definitions

* `Data.parts` — what stands directly inside data.
* `Data.at?` — the data at a position.
* `Data.IsFirstForeign` — the first position of a foreign object.
* `Data.StandsFor` — the value that data stands for, kind by kind.

## Main statements

* `Data.induction_on_parts` — induction on data by what stands directly inside it.
* `Data.firstForeign?_eq_none_iff`, `Data.firstForeign?_eq_some_iff` — which object is found first.
* `Value.ofData_by_positions` — what wrapping accepts, what it makes of it, and what it refuses.
-/

namespace StagedChecks

namespace Data

/-- What stands directly inside a collection, from left to right. Nothing is looked at inside a
wrapped value. -/
def parts : Data → List Data
  | .list items | .tuple items => items
  | .map entries => entries.map (·.2)
  | _ => []

/-- The data at a position, which has a place for each collection on the way. -/
def at? (d : Data) (position : List Nat) : Option Data :=
  position.foldlM (fun outer place => outer.parts[place]?) d

/-- Whether a foreign object of some kind stands at a position, and none at an earlier one. -/
def IsFirstForeign (d : Data) (kind : String) (position : List Nat) : Prop :=
  (∃ identity, d.at? position = some (.foreign kind identity)) ∧
    ∀ earlier < position, ∀ e, d.at? earlier = some e → e.isForeign = false

variable {d e : Data} {kind : String} {place : Nat} {position : List Nat}

@[simp] theorem at?_cons (d : Data) (place : Nat) (position : List Nat) :
    d.at? (place :: position) = d.parts[place]?.bind (·.at? position) := rfl

theorem sizeOf_lt_of_mem_parts (member : e ∈ d.parts) : sizeOf e < sizeOf d := by
  cases d with
  | list items | tuple items =>
    have smaller : sizeOf e < sizeOf items := List.sizeOf_lt_of_mem member
    simp
    omega
  | map entries =>
    obtain ⟨entry, held, rfl⟩ := List.mem_map.1 member
    have smaller : sizeOf entry < sizeOf entries := List.sizeOf_lt_of_mem held
    obtain ⟨key, value⟩ := entry
    simp at smaller ⊢
    omega
  | _ => cases member

/-- What holds of data whenever it holds of all that stands directly inside holds of all data. -/
theorem induction_on_parts {motive : Data → Prop}
    (step : ∀ d, (∀ e ∈ d.parts, motive e) → motive d) (d : Data) : motive d :=
  step d fun e member =>
    have := sizeOf_lt_of_mem_parts member
    induction_on_parts step e
termination_by sizeOf d

/-- Data that is no foreign object itself is gone through part by part. -/
theorem firstForeign?_of_not_isForeign (own : d.isForeign = false) :
    d.firstForeign? = d.parts.findSome? firstForeign? := by
  cases d with
  | foreign => cases own
  | list items | tuple items => exact firstForeignInItems?_eq items
  | map entries =>
    rw [parts, List.findSome?_map]
    exact firstForeignInEntries?_eq entries
  | _ => rfl

theorem eq_foreign_of_isForeign (foreign : d.isForeign = true) :
    ∃ kind identity, d = .foreign kind identity := by
  cases d with
  | foreign kind identity => exact ⟨kind, identity, rfl⟩
  | _ => cases foreign

/-- No foreign object is found when none stands at any position. -/
theorem firstForeign?_eq_none_iff :
    d.firstForeign? = none ↔ ∀ position e, d.at? position = some e → e.isForeign = false := by
  induction d using induction_on_parts with
  | step d ih =>
    cases own : d.isForeign with
    | true =>
      obtain ⟨kind, identity, rfl⟩ := eq_foreign_of_isForeign own
      constructor
      · intro unfound
        cases unfound
      · intro clean
        cases clean [] _ rfl
    | false =>
      rw [firstForeign?_of_not_isForeign own, List.findSome?_eq_none_iff]
      constructor
      · intro clean position e here
        cases position with
        | nil =>
          cases here
          exact own
        | cons place position =>
          rw [at?_cons, Option.bind_eq_some_iff] at here
          obtain ⟨part, held, here⟩ := here
          have member := List.mem_of_getElem? held
          exact (ih part member).1 (clean part member) position e here
      · intro clean part member
        obtain ⟨place, held⟩ := List.getElem?_of_mem member
        exact (ih part member).2 fun position e here =>
          clean (place :: position) e (by simp [held, here])

/-- The object that is found stands at a first position. -/
theorem exists_isFirstForeign (found : d.firstForeign? = some kind) :
    ∃ position, d.IsFirstForeign kind position := by
  induction d using induction_on_parts with
  | step d ih =>
    cases own : d.isForeign with
    | true =>
      obtain ⟨kind', identity, rfl⟩ := eq_foreign_of_isForeign own
      cases found
      exact ⟨[], ⟨identity, rfl⟩, fun earlier before => absurd before (List.not_lt_nil earlier)⟩
    | false =>
      rw [firstForeign?_of_not_isForeign own] at found
      obtain ⟨before, part, after, split, found, clean⟩ := List.findSome?_eq_some_iff.1 found
      have held : d.parts[before.length]? = some part := by simp [split]
      obtain ⟨position, ⟨identity, here⟩, first⟩ := ih part (by simp [split]) found
      refine ⟨before.length :: position, ⟨identity, by simp [held, here]⟩, ?_⟩
      intro earlier smaller e stands
      cases earlier with
      | nil =>
        cases stands
        exact own
      | cons place earlier =>
        rw [at?_cons, Option.bind_eq_some_iff] at stands
        obtain ⟨part', held', stands⟩ := stands
        rcases List.cons_lt_cons_iff.1 smaller with left | ⟨rfl, inner⟩
        · -- In the parts to the left nothing is found at all.
          rw [split, List.getElem?_append_left left] at held'
          exact firstForeign?_eq_none_iff.1 (clean part' (List.mem_of_getElem? held')) earlier e
            stands
        · cases held.symm.trans held'
          exact first earlier inner e stands

/-- There is but one first position. -/
theorem IsFirstForeign.kind_eq {kind' : String} {position' : List Nat}
    (first : d.IsFirstForeign kind position) (first' : d.IsFirstForeign kind' position') :
    kind = kind' := by
  obtain ⟨⟨identity, here⟩, clean⟩ := first
  obtain ⟨⟨identity', here'⟩, clean'⟩ := first'
  rcases lt_trichotomy position position' with before | rfl | after
  · cases clean' position before _ here
  · cases here.symm.trans here'
    rfl
  · cases clean position' after _ here'

/-- The object that is found is the one at the first position. -/
theorem firstForeign?_eq_some_iff :
    d.firstForeign? = some kind ↔ ∃ position, d.IsFirstForeign kind position := by
  constructor
  · exact exists_isFirstForeign
  · rintro ⟨position, first⟩
    cases found : d.firstForeign? with
    | none =>
      obtain ⟨identity, here⟩ := first.1
      cases firstForeign?_eq_none_iff.1 found position _ here
    | some kind' =>
      obtain ⟨position', first'⟩ := exists_isFirstForeign found
      rw [first.kind_eq first']

/-- The value that data stands for, kind by kind. A value stands for itself and null for null.
All else stands for a known value of its kind and with itself as content, but for a list, which
becomes a tuple. What stands inside stays as it is. -/
inductive StandsFor : Data → Value → Prop where
  | value (v : Value) : StandsFor v.toData v
  | null : StandsFor .null { state := .null, typeName := "dynamic", raw := .null }
  | bool (b : Bool) : StandsFor (.bool b) { state := .known, typeName := "bool", raw := .bool b }
  | int (n : Int) : StandsFor (.int n) { state := .known, typeName := "number", raw := .int n }
  | float (x : Binary64) :
    StandsFor (.float x) { state := .known, typeName := "number", raw := .float x }
  | str (s : String) : StandsFor (.str s) { state := .known, typeName := "string", raw := .str s }
  | list (items : List Data) :
    StandsFor (.list items) { state := .known, typeName := "list", raw := .tuple items }
  | tuple (items : List Data) :
    StandsFor (.tuple items) { state := .known, typeName := "list", raw := .tuple items }
  | map (entries : List (Key × Data)) :
    StandsFor (.map entries) { state := .known, typeName := "map", raw := .map entries }

/-- All data but foreign objects stands for the value that it is wrapped as, and for no other. -/
theorem standsFor_iff (own : d.isForeign = false) {v : Value} :
    d.StandsFor v ↔ Value.wrap d = v := by
  constructor
  · intro stands
    cases stands <;> rfl
  · rintro rfl
    cases d with
    | foreign => cases own
    | value state typeName raw => exact .value ⟨state, typeName, raw⟩
    | null => exact .null
    | bool b => exact .bool b
    | int n => exact .int n
    | float x => exact .float x
    | str s => exact .str s
    | list items => exact .list items
    | tuple items => exact .tuple items
    | map entries => exact .map entries

end Data

/-- Data is wrapped as the value that it stands for if no foreign object stands at any of its
positions. Otherwise it is refused, with the kind of the object at the first of these positions. A
value that came out of wrapping is wrapped as itself. -/
theorem Value.ofData_by_positions (d : Data) :
    (∀ v, ofData d = .ok v ↔
      (∀ position e, d.at? position = some e → e.isForeign = false) ∧ d.StandsFor v) ∧
    ((∃ fault, ofData d = .error fault) ↔
      ∃ position kind identity, d.at? position = some (.foreign kind identity)) ∧
    (∀ fault, ofData d = .error fault ↔ ∃ kind position, d.IsFirstForeign kind position ∧
      fault = .unsupportedData kind ∧ fault.message = "unsupported value type: " ++ kind) ∧
    ∀ v, ofData d = .ok v → ofData v.toData = .ok v := by
  have refused (fault : Fault) : ofData d = .error fault ↔
      ∃ kind position, d.IsFirstForeign kind position ∧ fault = .unsupportedData kind := by
    simp only [exists_and_right, ← Data.firstForeign?_eq_some_iff]
    cases found : d.firstForeign? <;> simp [ofData, found, eq_comm]
  refine ⟨fun v => ?_, ?_, fun fault => ?_, fun v _ => ofData_toData v⟩
  · rw [ofData_eq_ok_iff, Data.firstForeign?_eq_none_iff]
    exact and_congr_right fun clean => (Data.standsFor_iff (clean [] d rfl)).symm
  · constructor
    · rintro ⟨fault, failed⟩
      obtain ⟨kind, position, ⟨⟨identity, here⟩, -⟩, -⟩ := (refused fault).1 failed
      exact ⟨position, kind, identity, here⟩
    · rintro ⟨position, kind, identity, here⟩
      by_contra accepted
      obtain ⟨v, done⟩ := exists_eq_ok_iff.2 fun fault failed => accepted ⟨fault, failed⟩
      cases Data.firstForeign?_eq_none_iff.1 (ofData_eq_ok_iff.1 done).1 position _ here
  · rw [refused]
    constructor
    · rintro ⟨kind, position, first, rfl⟩
      exact ⟨kind, position, first, rfl, rfl⟩
    · rintro ⟨kind, position, first, rfl, -⟩
      exact ⟨kind, position, first, rfl⟩

example : Value.ofData (.object [("a", .list [.int 1, .tuple [.foreign "set" 0]]),
    ("b", .foreign "bytes" 1)]) = .error (.unsupportedData "set") := rfl

end StagedChecks
