import StagedChecks.Proofs.Grammar
import StagedChecks.Proofs.Indices
import StagedChecks.Proofs.Walk

/-!
# Walks inside plain data

Plain data has no wrapped values in it. There a walk is nothing but indexing, one name after the
other: tables are indexed by their keys and lists and tuples alike by decimal numerals. What is
reached is wrapped again at every step, so that it does not matter how deep a list stands.

## Main definitions

* `Data.isPlain` — data that is no wrapped value and no foreign object.
* `Text.numeral?` — the number that a numeral spells.
* `Data.item?`, `Data.follow?` — what one name, and what several names, find in data.
* `Value.missing` — the report about a name that finds nothing.

## Main statements

* `Value.attribute?_wrap` — an attribute is an item of the data.
* `Value.walk_of_plain` — a walk finds what indexing finds, and reports the first name that it
  does not find.
-/

namespace StagedChecks

namespace Text

/-- The number that a numeral spells. -/
def numeral? (s : String) : Option Nat :=
  if IsNumeral s then some (Nat.ofDigitChars 10 s.toList 0) else none

theorem numeral?_eq_some_iff {s : String} {n : Nat} :
    numeral? s = some n ↔ IsNumeral s ∧ Nat.ofDigitChars 10 s.toList 0 = n := by
  simp [numeral?]

end Text

namespace Index

/-- The digits of ASCII, each taken for its value, are read from left to right. -/
theorem value_of_digits {cs : List Char} (digits : ∀ c ∈ cs, c.isDigit = true) :
    value (cs.filterMap Text.decimalValue?) = Nat.ofDigitChars 10 cs 0 := by
  unfold value
  generalize 0 = start
  induction cs generalizing start with
  | nil => rfl
  | cons c cs ih =>
    obtain ⟨digit, digits⟩ := List.forall_mem_cons.1 digits
    simp only [Char.isDigit, Bool.and_eq_true, decide_eq_true_eq, ge_iff_le,
      UInt32.le_iff_toNat_le] at digit
    rw [List.filterMap_cons_some (Text.decimalValue?_of_ascii c digit.1 digit.2),
      List.foldl_cons, ih digits, Nat.ofDigitChars_cons]
    rfl

/-- A numeral that is not too long is read as the number that it spells. -/
theorem read_of_numeral? {s : String} {n : Nat} (numeral : Text.numeral? s = some n)
    (short : s.length ≤ numeralLimit) : read s = .ok n := by
  obtain ⟨⟨-, digits⟩, rfl⟩ := Text.numeral?_eq_some_iff.1 numeral
  rw [read_of_digits digits, if_neg (Nat.not_lt.2 short), value_of_digits digits]

end Index

/-- Segments are taken for indices when they are numerals. -/
theorem Reference.isDigits_eq_isSome_numeral? {s : String} (segment : isAttribute s = true) :
    Text.isDigits s = (Text.numeral? s).isSome := by
  rw [Bool.eq_iff_iff, Option.isSome_iff_exists]
  simp only [Text.numeral?_eq_some_iff, exists_and_left, exists_eq', and_true]
  constructor
  · intro digits
    refine ⟨?_, isDigit_of_isAttribute segment digits⟩
    rintro rfl
    exact absurd digits (by decide)
  · exact fun ⟨nonempty, digits⟩ => (isAttribute_of_digits nonempty digits).2

namespace Data

/-- Whether data is neither a wrapped value nor a foreign object. -/
def isPlain : Data → Bool
  | .value _ _ _ => false
  | .foreign _ _ => false
  | _ => true

/-- What a name finds in data: an entry of a table by its key, or an item of a list or a tuple by
its place. Nothing else can be indexed. -/
def item? (d : Data) (name : String) : Option Data :=
  match d with
  | .map entries => under? entries name
  | .list items | .tuple items => (Text.numeral? name).bind (items[·]?)
  | _ => none

/-- What names find one after the other, each in what was found before. -/
def follow? (d : Data) (path : List String) : Option Data :=
  path.foldlM item? d

variable {d found : Data} {name : String}

theorem follow?_cons (d : Data) (name : String) (path : List String) :
    d.follow? (name :: path) = (d.item? name).bind (·.follow? path) := rfl

/-- Plain data can be wrapped. -/
theorem ofData_of_plain (plain : d.everywhere isPlain = true) :
    Value.ofData d = .ok (Value.wrap d) := by
  have clean : d.everywhere (!·.isForeign) = true := by
    refine everywhere_imp (fun d here => ?_) d plain
    cases d with
    | value | foreign => cases here
    | _ => rfl
  exact Value.ofData_eq_ok_iff.2 ⟨firstForeign?_of_everywhere d clean, rfl⟩

/-- A name finds the same in plain data as in the content of the value that it is wrapped as. -/
theorem attributeData?_wrap (plain : d.everywhere isPlain = true)
    (segment : Reference.isAttribute name = true)
    (short : (Text.numeral? name).isSome = true → name.length ≤ numeralLimit) :
    Value.attributeData? (Value.wrap d).raw name = .ok (d.item? name) := by
  cases d with
  | value | foreign => cases plain
  | list items | tuple items =>
    simp only [Value.wrap, Value.attributeData?, item?,
      Reference.isDigits_eq_isSome_numeral? segment]
    cases numeral : Text.numeral? name with
    | none => rfl
    | some n =>
      rw [Index.read_of_numeral? numeral (short (by simp [numeral]))]
      rfl
  | _ => rfl

/-- Only null is wrapped as null, and no data is unknown. -/
theorem state_wrap_of_plain (plain : d.everywhere isPlain = true) :
    (Value.wrap d).state = if d.isNull then .null else .known := by
  cases d with
  | value => cases plain
  | _ => rfl

theorem isNull_iff {d : Data} : d.isNull = true ↔ d = .null := by
  cases d <;> simp [isNull]

theorem typeName_wrap (d : Data) : (Value.wrap d).typeName = d.typeName := by
  cases d <;> rfl

/-- The names of the types of plain data. -/
theorem typeName_of_plain (d : Data) : d.everywhere isPlain = true → d.isNull = false →
    d.typeName = match d with
      | .bool _ => "bool"
      | .str _ => "string"
      | .int _ | .float _ => "number"
      | .list _ | .tuple _ => "list"
      | _ => "map" := by
  intro plain solid
  cases d with
  | null => cases solid
  | value | foreign => cases plain
  | _ => rfl

end Data

namespace Value

variable {d next : Data} {name : String}

/-- An attribute of plain data is an item of it, wrapped. -/
theorem attribute?_wrap (plain : d.everywhere Data.isPlain = true)
    (segment : Reference.isAttribute name = true)
    (short : (Text.numeral? name).isSome = true → name.length ≤ numeralLimit) :
    attribute? (wrap d) name = .ok ((d.item? name).map wrap) ∧
      ∀ found ∈ d.item? name, found.everywhere Data.isPlain = true := by
  have here := Data.attributeData?_wrap plain segment short
  have inside : ∀ found ∈ d.item? name, found.everywhere Data.isPlain = true := by
    intro found item
    rw [Option.mem_def.1 item] at here
    exact Data.everywhere_of_attributeData? (Data.everywhere_raw_wrap plain) here
  refine ⟨?_, inside⟩
  unfold attribute?
  rw [here]
  cases item : d.item? name with
  | none => rfl
  | some found =>
    simp [Data.ofData_of_plain (inside found item), bind, Except.bind, pure, Except.pure]

/-- The report about a name that finds nothing in data: the data is null, or its type has no such
attribute. -/
def missing (d : Data) (name : String) : Diagnostic :=
  if d.isNull then nullAttribute name else unsupportedAttribute d.typeName name

/-- A walk inside plain data finds what indexing finds. If it does not come to its end, it stops at
the first name that finds nothing. -/
theorem walk_wrap_cases {path : List String} (plain : d.everywhere Data.isPlain = true)
    (segments : ∀ s ∈ path, Reference.isAttribute s = true)
    (short : ∀ s ∈ path, (Text.numeral? s).isSome = true → s.length ≤ numeralLimit) :
    (∃ found, d.follow? path = some found ∧ found.everywhere Data.isPlain = true ∧
        (wrap d).walk path = .ok (wrap found, [])) ∨
      d.follow? path = none ∧ ∃ before name after last, path = before ++ name :: after ∧
        d.follow? before = some last ∧ last.everywhere Data.isPlain = true ∧
        last.item? name = none ∧ (wrap d).walk path = .ok (.unknown, [missing last name]) := by
  -- Each step comes to wrapped plain data again, from which the rest of the path is followed.
  induction path generalizing d with
  | nil => exact .inl ⟨d, rfl, plain, rfl⟩
  | cons name path ih =>
    obtain ⟨segment, segments⟩ := List.forall_mem_cons.1 segments
    obtain ⟨shortHere, short⟩ := List.forall_mem_cons.1 short
    obtain ⟨here, inside⟩ := attribute?_wrap plain segment shortHere
    have state := Data.state_wrap_of_plain plain
    cases item : d.item? name with
    | none =>
      refine .inr ⟨by simp [Data.follow?_cons, item], [], name, path, d, rfl, rfl, plain, item, ?_⟩
      refine walk_of_stop? ?_ path
      unfold stop? missing
      rw [state, here, item, Data.typeName_wrap]
      cases d.isNull <;> rfl
    | some next =>
      have known : (wrap d).state = .known := by
        cases d with
        | null => cases item
        | _ => exact state
      have has : attribute? (wrap d) name = .ok (some (wrap next)) := by
        rw [here, item, Option.map_some]
      have onward : (wrap d).walk (name :: path) = (wrap next).walk path :=
        walk_of_reaches (.step known has (.here _)) path
      rw [onward, Data.follow?_cons, item, Option.bind_some]
      rcases ih (inside next item) segments short with found |
        ⟨fails, before, last, after, found, rfl, way, inner, stops, done⟩
      · exact .inl found
      · refine .inr ⟨fails, name :: before, last, after, found, rfl, ?_, inner, stops, done⟩
        rw [Data.follow?_cons, item, Option.bind_some, way]

/-- A walk from plain data agrees with indexing. Where every name finds something, the walk comes to
what the last of them finds, in silence. Otherwise it comes to an unknown value, and its only report
is an error about the first name that finds nothing: there is no attribute of that name in a null,
or in a value of the type of what was found before. -/
theorem walk_of_plain {d : Data} {path : List String} (plain : d.everywhere Data.isPlain = true)
    (segments : ∀ s ∈ path, Reference.isAttribute s = true)
    (short : ∀ s ∈ path, (Text.numeral? s).isSome = true → s.length ≤ numeralLimit) :
    ∃ v, ofData d = .ok v ∧
      ((∃ found w, d.follow? path = some found ∧ ofData found = .ok w ∧
          v.walk path = .ok (w, [])) ∨
        d.follow? path = none ∧ ∃ before name after last w, path = before ++ name :: after ∧
          d.follow? before = some last ∧ last.item? name = none ∧ ofData last = .ok w ∧
          (last = .null ∧
              v.walk path = .ok (.unknown, [{
                severity := .error
                summary := "Attempt to get attribute from null value"
                detail := "Cannot access attribute \"" ++ name ++ "\" of a null value." }]) ∨
            last ≠ .null ∧
              w.typeName = (match last with
                | .bool _ => "bool"
                | .str _ => "string"
                | .int _ | .float _ => "number"
                | .list _ | .tuple _ => "list"
                | _ => "map") ∧
              v.walk path = .ok (.unknown, [{
                severity := .error
                summary := "Unsupported attribute"
                detail := "This " ++ w.typeName ++
                  " value does not have an attribute named \"" ++ name ++ "\"." }]))) := by
  refine ⟨wrap d, Data.ofData_of_plain plain, ?_⟩
  rcases walk_wrap_cases plain segments short with ⟨found, way, inside, done⟩ |
    ⟨fails, before, name, after, last, split, way, inside, stops, done⟩
  · exact .inl ⟨found, wrap found, way, Data.ofData_of_plain inside, done⟩
  · refine .inr ⟨fails, before, name, after, last, wrap last, split, way, stops,
      Data.ofData_of_plain inside, ?_⟩
    rw [done, missing, Data.typeName_wrap]
    cases null : last.isNull with
    | true => exact .inl ⟨Data.isNull_iff.1 null, rfl⟩
    | false =>
      have solid : last ≠ .null := fun here => by simp [here, Data.isNull] at null
      exact .inr ⟨solid, Data.typeName_of_plain last inside null, rfl⟩

/-- A list inside a table and a tuple inside the list are indexed alike, zeros in front of a numeral
do not count, and a null is come to like anything else. Behind the end of the list there is nothing,
and nothing more is said of the rest of the path. -/
theorem walk_of_plain_nested :
    let net : Data := .object [("zones", .list [.str "a", .tuple [.int 1, .null]])]
    ∃ v, ofData net = .ok v ∧ v.walk ["zones", "01", "1"] = .ok (.null, []) ∧
      v.walk ["zones", "2", "1"] = .ok (.unknown, [{
        severity := .error
        summary := "Unsupported attribute"
        detail := "This list value does not have an attribute named \"2\"." }]) := by
  intro net
  obtain ⟨v, wrapped, reached⟩ :=
    @walk_of_plain net ["zones", "01", "1"] rfl (by decide) (by decide)
  obtain ⟨v', wrapped', stopped⟩ :=
    @walk_of_plain net ["zones", "2", "1"] rfl (by decide) (by decide)
  cases wrapped.symm.trans wrapped'
  refine ⟨v, wrapped, ?_, ?_⟩
  · rcases reached with ⟨found, w, way, done, walked⟩ | ⟨fails, -⟩
    · cases way
      cases done
      exact walked
    · cases fails
  · rcases stopped with ⟨found, w, way, -⟩ |
      ⟨-, before, name, after, last, w, path, way, stops, typed, done⟩
    · cases way
    · -- Only the second of the names can be the first that finds nothing.
      rcases before with _ | ⟨_, _ | ⟨_, rest⟩⟩
      · cases path
        cases way
        cases stops
      · cases path
        cases way
        cases typed
        rcases done with ⟨null, -⟩ | ⟨-, -, walked⟩
        · cases null
        · exact walked
      · rw [List.cons_append, List.cons_append, List.cons.injEq, List.cons.injEq] at path
        obtain ⟨rfl, rfl, -⟩ := path
        cases way

end Value

end StagedChecks
