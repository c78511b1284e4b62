import StagedChecks.Proofs.Sequencing
import StagedChecks.Value.Attribute

/-!
# Tests at every depth

Data nests through lists, tuples, tables and wrapped values. A test that is passed at every depth
is still passed by the content of the value that data is wrapped as, and by all that an attribute
name finds.

## Main definitions

* `Data.everywhere` — whether a test is passed at every depth.
* `Data.isPending`, `Data.isForeign` — what some data must not hold.
* `Data.IsMade` — data in which every wrapped value was made by wrapping.

## Main statements

* `Data.everywhere_imp` — a weaker test is passed too.
* `Data.everywhere_of_attributeData?` — what an attribute name finds passes the test too.
* `Data.firstForeign?_of_everywhere` — data without foreign objects can be wrapped.
* `Data.IsMade.everywhere_of` — tests that data passes at every depth if it can be wrapped and its
  wrapped values were made by wrapping.
-/

namespace StagedChecks

namespace Data

mutual

/-- Whether all data inside data that is no plain collection passes a test, wrapped values and
what is in them included. No attribute leads to a key, so keys are not tested. -/
def everywhere (p : Data → Bool) : Data → Bool
  | .list items => everywhereInItems p items
  | .tuple items => everywhereInItems p items
  | .map entries => everywhereInEntries p entries
  | .value state typeName raw => p (.value state typeName raw) && everywhere p raw
  | d => p d

/-- Whether some items pass a test at every depth. -/
def everywhereInItems (p : Data → Bool) : List Data → Bool
  | [] => true
  | d :: ds => everywhere p d && everywhereInItems p ds

/-- Whether the values of some entries pass a test at every depth. -/
def everywhereInEntries (p : Data → Bool) : List (Key × Data) → Bool
  | [] => true
  | (_, d) :: es => everywhere p d && everywhereInEntries p es

end

/-- Whether data is a value that will become concrete later. -/
def isPending : Data → Bool
  | .value .unknown _ _ => true
  | _ => false

/-- Whether data is a foreign object. -/
def isForeign : Data → Bool
  | .foreign _ _ => true
  | _ => false

variable {p : Data → Bool}

theorem everywhereInItems_iff {ds : List Data} :
    everywhereInItems p ds = true ↔ ∀ d ∈ ds, everywhere p d = true := by
  induction ds with
  | nil => simp [everywhereInItems]
  | cons d ds ih => simp [everywhereInItems, ih]

theorem everywhereInEntries_iff {es : List (Key × Data)} :
    everywhereInEntries p es = true ↔ ∀ e ∈ es, everywhere p e.2 = true := by
  induction es with
  | nil => simp [everywhereInEntries]
  | cons e es ih => simp [everywhereInEntries, ih]

/-- Data without unknown values at any depth is none itself. -/
theorem not_isPending_of_everywhere {d : Data} (settled : d.everywhere (!·.isPending) = true) :
    d.isPending = false := by
  cases d with
  | value state typeName raw => simp_all [everywhere]
  | _ => rfl

/-- The content of the value that data is wrapped as passes the tests that the data passes. -/
theorem everywhere_raw_wrap {d : Data} (passed : everywhere p d = true) :
    everywhere p (Value.wrap d).raw = true := by
  cases d with
  | value state typeName raw =>
    simp only [everywhere, Bool.and_eq_true] at passed
    exact passed.2
  | list items => simpa [Value.wrap, everywhere] using passed
  | _ => exact passed

/-- What an attribute name finds passes the tests that are passed at every depth. -/
theorem everywhere_of_attributeData? {raw found : Data} {name : String}
    (passed : everywhere p raw = true)
    (here : Value.attributeData? raw name = .ok (some found)) : everywhere p found = true := by
  cases raw with
  | map entries =>
    simp only [everywhere, everywhereInEntries_iff] at passed
    simp only [Value.attributeData?, Except.ok.injEq] at here
    obtain ⟨key, member⟩ := mem_of_under? here
    exact passed _ member
  | tuple items =>
    simp only [everywhere, everywhereInItems_iff] at passed
    simp only [Value.attributeData?] at here
    split at here
    · obtain ⟨index, -, item⟩ := map_eq_ok_iff.1 here
      exact passed _ (List.mem_of_getElem? item)
    · cases here
  | _ => simp [Value.attributeData?] at here

mutual

/-- At every depth a weaker test is passed too. -/
theorem everywhere_imp {q : Data → Bool} (weaker : ∀ d, p d = true → q d = true) :
    (d : Data) → everywhere p d = true → everywhere q d = true
  | .list items, passed | .tuple items, passed => everywhereInItems_imp weaker items passed
  | .map entries, passed => everywhereInEntries_imp weaker entries passed
  | .value _ _ raw, passed => by
    simp only [everywhere, Bool.and_eq_true] at passed ⊢
    exact ⟨weaker _ passed.1, everywhere_imp weaker raw passed.2⟩
  | .null, passed | .bool _, passed | .int _, passed | .float _, passed | .str _, passed
  | .foreign _ _, passed => weaker _ passed

theorem everywhereInItems_imp {q : Data → Bool} (weaker : ∀ d, p d = true → q d = true) :
    (ds : List Data) → everywhereInItems p ds = true → everywhereInItems q ds = true
  | [], _ => rfl
  | d :: ds, passed => by
    simp only [everywhereInItems, Bool.and_eq_true] at passed ⊢
    exact ⟨everywhere_imp weaker d passed.1, everywhereInItems_imp weaker ds passed.2⟩

theorem everywhereInEntries_imp {q : Data → Bool} (weaker : ∀ d, p d = true → q d = true) :
    (es : List (Key × Data)) → everywhereInEntries p es = true → everywhereInEntries q es = true
  | [], _ => rfl
  | (_, d) :: es, passed => by
    simp only [everywhereInEntries, Bool.and_eq_true] at passed ⊢
    exact ⟨everywhere_imp weaker d passed.1, everywhereInEntries_imp weaker es passed.2⟩

end

mutual

theorem firstForeign?_of_everywhere :
    (d : Data) → everywhere (!·.isForeign) d = true → d.firstForeign? = none
  | .list items, passed | .tuple items, passed => firstForeignInItems?_of_everywhere items passed
  | .map entries, passed => firstForeignInEntries?_of_everywhere entries passed
  | .foreign _ _, passed => by simp [everywhere, isForeign] at passed
  | .null, _ | .bool _, _ | .int _, _ | .float _, _ | .str _, _ | .value _ _ _, _ => rfl

theorem firstForeignInItems?_of_everywhere :
    (ds : List Data) → everywhereInItems (!·.isForeign) ds = true → firstForeignInItems? ds = none
  | [], _ => rfl
  | d :: ds, passed => by
    simp only [everywhereInItems, Bool.and_eq_true] at passed
    rw [firstForeignInItems?, firstForeign?_of_everywhere d passed.1,
      firstForeignInItems?_of_everywhere ds passed.2, Option.or_none]

theorem firstForeignInEntries?_of_everywhere : (es : List (Key × Data)) →
    everywhereInEntries (!·.isForeign) es = true → firstForeignInEntries? es = none
  | [], _ => rfl
  | (_, d) :: es, passed => by
    simp only [everywhereInEntries, Bool.and_eq_true] at passed
    rw [firstForeignInEntries?, firstForeign?_of_everywhere d passed.1,
      firstForeignInEntries?_of_everywhere es passed.2, Option.or_none]

end

/-- Data in which every wrapped value is unknown, null or the result of wrapping such data. -/
inductive IsMade : Data → Prop where
  | null : IsMade .null
  | bool (b : Bool) : IsMade (.bool b)
  | int (n : Int) : IsMade (.int n)
  | float (x : Binary64) : IsMade (.float x)
  | str (s : String) : IsMade (.str s)
  | foreign (kind : String) (identity : Nat) : IsMade (.foreign kind identity)
  | list {items : List Data} (each : ∀ d ∈ items, IsMade d) : IsMade (.list items)
  | tuple {items : List Data} (each : ∀ d ∈ items, IsMade d) : IsMade (.tuple items)
  | map {entries : List (Key × Data)} (each : ∀ e ∈ entries, IsMade e.2) :
      IsMade (.map entries)
  | unknownValue (typeName : String) : IsMade (Value.unknown typeName).toData
  | nullValue (typeName : String) : IsMade (Value.null typeName).toData
  | wrapped {d : Data} {v : Value} (made : IsMade d) (accepted : Value.ofData d = .ok v) :
      IsMade v.toData

end Data

namespace Value

/-- Data is wrapped when it holds no foreign object outside wrapped values. -/
theorem ofData_eq_ok_iff {d : Data} {v : Value} :
    ofData d = .ok v ↔ d.firstForeign? = none ∧ wrap d = v := by
  unfold ofData
  cases d.firstForeign? <;> simp

/-- Only an unknown value is wrapped as one. -/
theorem isKnown_wrap (d : Data) : (wrap d).isKnown = !d.isPending := by
  cases d with
  | value state typeName raw => cases state <;> rfl
  | _ => rfl

end Value

namespace Data.IsMade

variable {p : Data → Bool} {d : Data}

/-- Data that can be wrapped passes a test at every depth, if its wrapped values were made by
wrapping and wrapping keeps the test passed. -/
theorem everywhere_of (made : d.IsMade) (accepted : d.firstForeign? = none)
    (own : ∀ e : Data, e.isForeign = false → (∀ v : Value, e ≠ v.toData) → p e = true)
    (unknown : ∀ typeName, (Value.unknown typeName).toData.everywhere p = true)
    (null : ∀ typeName, (Value.null typeName).toData.everywhere p = true)
    (wrap : ∀ e, e.everywhere p = true → (Value.wrap e).toData.everywhere p = true) :
    d.everywhere p = true := by
  induction made with
  | list each ih | tuple each ih =>
    simp only [firstForeign?, firstForeignInItems?_eq, List.findSome?_eq_none_iff] at accepted
    simp only [Data.everywhere, everywhereInItems_iff]
    exact fun item member => ih item member (accepted item member)
  | map each ih =>
    simp only [firstForeign?, firstForeignInEntries?_eq, List.findSome?_eq_none_iff] at accepted
    simp only [Data.everywhere, everywhereInEntries_iff]
    exact fun entry member => ih entry member (accepted entry member)
  | unknownValue typeName => exact unknown typeName
  | nullValue typeName => exact null typeName
  | wrapped made wrapping ih =>
    -- Wrapping looked at the data then, so the value holds nothing that was not looked at.
    obtain ⟨clean, rfl⟩ := Value.ofData_eq_ok_iff.1 wrapping
    exact wrap _ (ih clean)
  | foreign => cases accepted
  | _ => exact own _ rfl nofun

/-- Data that can be wrapped holds no foreign object at any depth if its wrapped values were made
by wrapping. -/
theorem everywhere (made : d.IsMade) (accepted : d.firstForeign? = none) :
    d.everywhere (!·.isForeign) = true := by
  refine made.everywhere_of accepted (fun e own _ => by simp [own]) (fun _ => rfl) (fun _ => rfl) ?_
  intro e passed
  simpa [Value.toData, Data.everywhere, isForeign] using everywhere_raw_wrap passed

end Data.IsMade

end StagedChecks
