import StagedChecks.Proofs.PlainData
import StagedChecks.Proofs.Updates

/-!
# Well-formed values

A value is well-formed when its state, its type name and its content go together at every depth.
Wrapping accepts data whose wrapped values are well-formed exactly if it holds no foreign object
outside of them, and so none at all. From there on nothing can go wrong but the reading of an index:
every attribute of a well-formed value is well-formed, and so is every value that references are
resolved to.

## Main definitions

* `Data.contentName?` — the type names that known values have.
* `Data.isSound` — the test that well-formed data passes at every depth.
* `Data.embedded` — the wrapped values inside data.
* `Value.IsWellFormed` — well-formed values.

## Main statements

* `Value.isWellFormed_iff` — what well-formed values are.
* `Data.everywhere_iff_embedded` — tests at every depth that only wrapped values can fail.
* `Data.isSound_everywhere_iff`, `Data.isPlain_everywhere_iff` — which data is well-formed, or
  plain, at every depth.
* `Value.Reaches.isWellFormed` — what is reached from a well-formed value.
* `Value.isWellFormed_of_isMade` — values that were made by wrapping.
* `Bindings.isSound_of_updateAll` — well-formed bindings stay so.
* `Bindings.isWellFormed_of_scope` — references are resolved to well-formed values.
-/

namespace StagedChecks

namespace Data

/-- The type name of the known values with some content; lists and null are the content of none. -/
def contentName? : Data → Option String
  | .bool _ => some "bool"
  | .int _ => some "number"
  | .float _ => some "number"
  | .str _ => some "string"
  | .tuple _ => some "list"
  | .map _ => some "map"
  | _ => none

/-- Whether data is no foreign object and, if it is a wrapped value, its state, type name and
content go together. -/
def isSound : Data → Bool
  | .value .known typeName raw => raw.contentName? == some typeName
  | .value _ _ raw => raw.isNull
  | .foreign _ _ => false
  | _ => true

mutual

/-- The wrapped values inside data, not counting those inside other ones. -/
def embedded : Data → List Value
  | .list items => embeddedInItems items
  | .tuple items => embeddedInItems items
  | .map entries => embeddedInEntries entries
  | .value state typeName raw => [{ state, typeName, raw }]
  | _ => []

/-- The wrapped values inside some items. -/
def embeddedInItems : List Data → List Value
  | [] => []
  | d :: ds => embedded d ++ embeddedInItems ds

/-- The wrapped values inside the data of some entries. -/
def embeddedInEntries : List (Key × Data) → List Value
  | [] => []
  | (_, d) :: es => embedded d ++ embeddedInEntries es

end

end Data

/-- Whether state, type name and content of a value, and of all values inside it, go together, and
nothing foreign is inside. -/
def Value.IsWellFormed (v : Value) : Prop :=
  v.toData.everywhere Data.isSound = true

instance (v : Value) : Decidable v.IsWellFormed :=
  inferInstanceAs (Decidable (_ = true))

namespace Data

section Embedded

variable {p : Data → Bool}

mutual

/-- Data passes a test at every depth, if only wrapped values and foreign objects can fail it and
the latter do, when it can be wrapped and its wrapped values pass the test. -/
theorem everywhere_iff_embedded (plain : ∀ d, d.isPlain = true → p d = true)
    (foreign : ∀ kind identity, p (.foreign kind identity) = false) : (d : Data) →
    (d.everywhere p = true ↔
      d.firstForeign? = none ∧ ∀ v ∈ d.embedded, v.toData.everywhere p = true)
  | .list items | .tuple items => everywhereInItems_iff_embedded plain foreign items
  | .map entries => everywhereInEntries_iff_embedded plain foreign entries
  | .value _ _ _ => by simp [embedded, Value.toData, firstForeign?]
  | .foreign _ _ => by simp [everywhere, foreign, firstForeign?]
  | .null | .bool _ | .int _ | .float _ | .str _ => by
    simp only [everywhere, firstForeign?, embedded, List.not_mem_nil, false_implies, implies_true,
      and_true, iff_true]
    exact plain _ rfl

theorem everywhereInItems_iff_embedded (plain : ∀ d, d.isPlain = true → p d = true)
    (foreign : ∀ kind identity, p (.foreign kind identity) = false) : (ds : List Data) →
    (everywhereInItems p ds = true ↔
      firstForeignInItems? ds = none ∧ ∀ v ∈ embeddedInItems ds, v.toData.everywhere p = true)
  | [] => by simp [everywhereInItems, firstForeignInItems?, embeddedInItems]
  | d :: ds => by
    simp only [everywhereInItems, Bool.and_eq_true, everywhere_iff_embedded plain foreign d,
      everywhereInItems_iff_embedded plain foreign ds, firstForeignInItems?,
      Option.or_eq_none_iff, embeddedInItems, List.mem_append, or_imp, forall_and]
    exact and_and_and_comm

theorem everywhereInEntries_iff_embedded (plain : ∀ d, d.isPlain = true → p d = true)
    (foreign : ∀ kind identity, p (.foreign kind identity) = false) :
    (es : List (Key × Data)) →
    (everywhereInEntries p es = true ↔
      firstForeignInEntries? es = none ∧
        ∀ v ∈ embeddedInEntries es, v.toData.everywhere p = true)
  | [] => by simp [everywhereInEntries, firstForeignInEntries?, embeddedInEntries]
  | (_, d) :: es => by
    simp only [everywhereInEntries, Bool.and_eq_true, everywhere_iff_embedded plain foreign d,
      everywhereInEntries_iff_embedded plain foreign es, firstForeignInEntries?,
      Option.or_eq_none_iff, embeddedInEntries, List.mem_append, or_imp, forall_and]
    exact and_and_and_comm

end

end Embedded

/-- Data is well-formed at every depth if it can be wrapped and its wrapped values are
well-formed. -/
theorem isSound_everywhere_iff (d : Data) :
    d.everywhere isSound = true ↔ d.firstForeign? = none ∧ ∀ v ∈ d.embedded, v.IsWellFormed := by
  refine everywhere_iff_embedded (fun d plain => ?_) (fun _ _ => rfl) d
  cases d with
  | value | foreign => cases plain
  | _ => rfl

/-- Data is plain at every depth if it can be wrapped and no wrapped value is inside. -/
theorem isPlain_everywhere_iff (d : Data) :
    d.everywhere isPlain = true ↔ d.firstForeign? = none ∧ d.embedded = [] := by
  rw [everywhere_iff_embedded (fun _ plain => plain) (fun _ _ => rfl),
    List.eq_nil_iff_forall_not_mem]
  simp [Value.toData, everywhere, isPlain]

end Data

namespace Value

variable {v found : Value} {d : Data} {path : List String}

theorem isWellFormed_iff_isSound :
    v.IsWellFormed ↔ v.toData.isSound = true ∧ v.raw.everywhere Data.isSound = true :=
  Bool.and_eq_true_iff

/-- A well-formed value is unknown or null and without content, or it is known, of the type that
its content has, and all inside is well-formed. -/
theorem isWellFormed_iff :
    v.IsWellFormed ↔ (v.state ≠ .known ∧ v.raw = .null) ∨
      (v.state = .known ∧ v.raw.contentName? = some v.typeName ∧ v.raw.firstForeign? = none ∧
        ∀ w ∈ v.raw.embedded, w.IsWellFormed) := by
  obtain ⟨state, typeName, raw⟩ := v
  rw [isWellFormed_iff_isSound]
  cases state with
  | known => simp [toData, Data.isSound, Data.isSound_everywhere_iff]
  | unknown | null =>
    -- Without content there is nothing inside that could be amiss.
    cases raw <;> simp [toData, Data.isSound, Data.isNull, Data.everywhere]

theorem isWellFormed_wrap (sound : d.everywhere Data.isSound = true) : (wrap d).IsWellFormed := by
  cases d with
  | null => rfl
  | foreign => cases sound
  | value => exact sound
  | bool | int | float | str => rfl
  | list items | tuple items | map entries =>
    simpa [IsWellFormed, wrap, toData, Data.everywhere, Data.isSound, Data.contentName?,
      Data.typeName] using sound

/-- What is reached from a well-formed value is well-formed. -/
theorem Reaches.isWellFormed (way : v.Reaches path found) (sound : v.IsWellFormed) :
    found.IsWellFormed := by
  refine way.keeps (fun w name d here data => ?_) sound
  exact isWellFormed_wrap
    (Data.everywhere_of_attributeData? (isWellFormed_iff_isSound.1 here).2 data)

end Value

/-- Data whose wrapped values were made by wrapping is well-formed at every depth if it can be
wrapped. -/
theorem Data.IsMade.isSound {d : Data} (made : d.IsMade) (accepted : d.firstForeign? = none) :
    d.everywhere Data.isSound = true := by
  refine made.everywhere_of accepted (fun e own other => ?_) (fun _ => rfl) (fun _ => rfl)
    fun _ => Value.isWellFormed_wrap
  cases e with
  | foreign => cases own
  | value state typeName raw => exact absurd rfl (other ⟨state, typeName, raw⟩)
  | _ => rfl

/-- Values that are unknown, null or the result of wrapping are well-formed, if those inside are
such values too. -/
theorem Value.isWellFormed_of_isMade {v : Value} (made : v.toData.IsMade) : v.IsWellFormed :=
  made.isSound rfl

/-- Whether a fault is about the numeral of an index. -/
def Fault.isOfIndex : Fault → Bool
  | .malformedIndex _ => true
  | .oversizedNumeral _ => true
  | _ => false

theorem Index.isOfIndex_of_read {text : String} {fault : Fault}
    (failed : read text = .error fault) : fault.isOfIndex = true := by
  unfold read at failed
  dsimp only at failed
  split at failed
  · cases failed
    rfl
  · split at failed <;> cases failed
    rfl

namespace Value

variable {v : Value} {name : String} {fault : Fault}

/-- Whether a well-formed value was come to, or a fault of an index. -/
def ComesOutWell : Except Fault (Value × Diagnostics) → Prop
  | .ok (v, _) => v.IsWellFormed
  | .error fault => fault.isOfIndex = true

theorem isOfIndex_of_attributeData? {raw : Data}
    (failed : attributeData? raw name = .error fault) : fault.isOfIndex = true := by
  cases raw with
  | tuple items =>
    simp only [attributeData?] at failed
    split at failed
    · exact Index.isOfIndex_of_read (map_eq_error_iff.1 failed)
    · cases failed
  | _ => cases failed

theorem ComesOutWell.map_reports {x : Except Fault (Value × Diagnostics)} (well : ComesOutWell x)
    (reports : Diagnostics → Diagnostics) :
    ComesOutWell (x.map fun answer => (answer.1, reports answer.2)) := by
  cases x <;> exact well

/-- Of a well-formed value every attribute can be wrapped, so that only an index can be at fault. -/
theorem isOfIndex_of_attribute? (sound : v.IsWellFormed)
    (failed : v.attribute? name = .error fault) : fault.isOfIndex = true := by
  rcases bind_eq_error_iff.1 failed with broken | ⟨d?, data, failed⟩
  · exact isOfIndex_of_attributeData? broken
  cases d? with
  | none => cases failed
  | some d =>
    have inside := Data.everywhere_of_attributeData? (isWellFormed_iff_isSound.1 sound).2 data
    have wrapping : ofData d = .ok (wrap d) :=
      ofData_eq_ok_iff.2 ⟨((Data.isSound_everywhere_iff d).1 inside).1, rfl⟩
    simp only [wrapping] at failed
    cases failed

/-- A walk from a well-formed value comes to one, or to an index that cannot be read. -/
theorem comesOutWell_walk (sound : v.IsWellFormed) (path : List String) :
    ComesOutWell (v.walk path) := by
  rcases v.walk_cases path with ⟨found, way, done⟩ |
    ⟨before, name, after, found, result, rfl, way, stops, done⟩
  · rw [done]
    exact way.isWellFormed sound
  · rw [done]
    rcases stop?_cases stops with ⟨reports, rfl, -⟩ | ⟨fault, rfl, -, broken⟩
    · exact rfl
    · exact isOfIndex_of_attribute? (way.isWellFormed sound) broken

end Value

namespace Bindings

variable {b b' : Bindings} {values instances updates : Table Data} {tables : List (Table Data)}
  {selfRef : Option String} {repetition : Repetition}

/-- Bindings that are built of data with well-formed values are well-formed. -/
theorem isSound_of_ofData
    (made : ∀ e ∈ values ++ instances, ∀ v ∈ e.2.embedded, v.IsWellFormed)
    (built : ofData values instances = .ok b) : b.everywhere Data.isSound = true := by
  obtain ⟨first, second, -⟩ := ofData_eq_ok_iff.1 built
  refine everywhere_of_wrapped (fun e member => ?_) built
  have clean : e.2.firstForeign? = none := (List.mem_append.1 member).elim (first e) (second e)
  exact Value.isWellFormed_wrap ((Data.isSound_everywhere_iff e.2).2 ⟨clean, made e member⟩)

/-- An update with well-formed values keeps bindings well-formed. -/
theorem isSound_of_update (sound : b.everywhere Data.isSound = true)
    (made : ∀ e ∈ updates, ∀ v ∈ e.2.embedded, v.IsWellFormed)
    (updated : b.update updates = .ok b') : b'.everywhere Data.isSound = true := by
  simp only [everywhere, Bool.and_eq_true, List.all_eq_true] at sound
  have kept {table : Table Value} (each : ∀ e ∈ table, e.2.IsWellFormed) :
      ∀ e ∈ Table.mapValues Value.toData table, ∀ v ∈ e.2.embedded, v.IsWellFormed := by
    intro e member v inside
    obtain ⟨entry, old, rfl⟩ := List.mem_map.1 member
    rw [List.mem_singleton.1 inside]
    exact each entry old
  refine isSound_of_ofData (fun e member => ?_) updated
  rcases List.mem_append.1 member with member | member
  · exact (Table.mem_of_mem_merge member).elim (kept sound.1 e) (made e)
  · exact kept sound.2 e member

theorem isSound_of_updateAll (sound : b.everywhere Data.isSound = true)
    (made : ∀ table ∈ tables, ∀ e ∈ table, ∀ v ∈ e.2.embedded, v.IsWellFormed)
    (updated : b.updateAll tables = .ok b') : b'.everywhere Data.isSound = true := by
  induction tables generalizing b with
  | nil =>
    cases updated
    exact sound
  | cons table tables ih =>
    obtain ⟨first, others⟩ := List.forall_mem_cons.1 made
    rw [updateAll_cons, bind_eq_ok_iff] at updated
    obtain ⟨next, step, updated⟩ := updated
    exact ih (isSound_of_update sound first step) others updated

/-- What a subject of well-formed bindings stands for is well-formed, and no subject is at fault. -/
theorem subject_isWellFormed (sound : b.everywhere Data.isSound = true)
    (repeated : repetition.everywhere Data.isSound = true) (selfRef : Option String)
    (name : String) :
    ∃ v reports, b.subject selfRef repetition name = .ok (v, reports) ∧ v.IsWellFormed := by
  rcases b.subject_cases selfRef repetition name with ⟨d, origin, subject⟩ |
    ⟨-, typeName, absence, subject, -⟩
  · have inside := everywhere_of_origin? sound (fun _ => repeated) origin
    have wrapping : Value.ofData d = .ok (Value.wrap d) :=
      Value.ofData_eq_ok_iff.2 ⟨((Data.isSound_everywhere_iff d).1 inside).1, rfl⟩
    exact ⟨_, [], by rw [subject, wrapping]; rfl, Value.isWellFormed_wrap inside⟩
  · exact ⟨_, _, subject, rfl⟩

theorem comesOutWell_resolve (sound : b.everywhere Data.isSound = true)
    (repeated : repetition.everywhere Data.isSound = true) (selfRef : Option String)
    (r : Reference) :
    Value.ComesOutWell (b.resolve selfRef repetition r) := by
  obtain ⟨base, before, found, here⟩ :=
    subject_isWellFormed sound repeated selfRef r.subject
  rw [resolve_of_subject found]
  exact (Value.comesOutWell_walk here r.path).map_reports _

/-- References to well-formed bindings are resolved to well-formed values. The bindings may have
been updated any number of times; all values inside the data that they and the repetition were made
of are to be well-formed. Resolving fails for no data that cannot be wrapped: such data was refused
when the bindings were built. Only the numeral of an index can be at fault. -/
theorem isWellFormed_of_scope {repetition : Option Repetition}
    (made : ∀ table ∈ values :: instances :: tables, ∀ e ∈ table, ∀ v ∈ e.2.embedded,
      v.IsWellFormed)
    (done : progress values instances tables = .ok b)
    (repeated : ∀ d ∈ (repetition.getD {}).fields,
      (∃ v, Value.ofData d = .ok v) ∧ ∀ v ∈ d.embedded, v.IsWellFormed)
    (references : List Reference) :
    (∀ visible reports,
      b.scope selfRef (repetition.getD {}) references = .ok (visible, reports) →
        ∀ e ∈ visible, e.2.IsWellFormed) ∧
    ∀ fault, b.scope selfRef (repetition.getD {}) references = .error fault →
      fault.isOfIndex = true := by
  obtain ⟨first, built, updated⟩ := progress_eq_ok_iff.1 done
  simp only [List.forall_mem_cons] at made
  obtain ⟨madeValues, madeInstances, madeUpdates⟩ := made
  have start := isSound_of_ofData (fun e member =>
    (List.mem_append.1 member).elim (madeValues e) (madeInstances e)) built
  have sound := isSound_of_updateAll start madeUpdates updated
  have fields : (repetition.getD {}).everywhere Data.isSound = true := by
    refine List.all_eq_true.2 fun d member => ?_
    obtain ⟨⟨v, wrapped⟩, inside⟩ := repeated d member
    exact (Data.isSound_everywhere_iff d).2 ⟨(Value.ofData_eq_ok_iff.1 wrapped).1, inside⟩
  have each (r : Reference) := comesOutWell_resolve sound fields selfRef r
  constructor
  · intro visible reports seen e member
    obtain ⟨answer, resolved, rfl, -⟩ := scope_eq_ok_iff.1 seen
    obtain old | entry := Table.mem_of_mem_merge member
    · cases old
    · obtain ⟨r, used, rfl⟩ := List.mem_map.1 entry
      have well := each r
      rwa [resolved r used] at well
  · intro fault failed
    obtain ⟨before, r, after, rfl, -, failed⟩ := scope_eq_error_iff.1 failed
    have well := each r
    rwa [failed] at well

/-- A list inside a list, a pending value inside a table and a null of the repetition are all come
to as well-formed values. -/
theorem isWellFormed_of_scope_nested :
    let net : Data := .object [("zones", .list [.list [.int 1], (Value.unknown "string").toData])]
    let each : Repetition :=
      { eachKey := .str "a", eachValue := .object [("id", Value.null.toData)] }
    let references : List Reference :=
      [⟨"var.net", ["zones", "0"]⟩, ⟨"var.net", ["zones", "1"]⟩, ⟨"each.value", ["id"]⟩]
    ∃ b visible reports, progress [("var.net", .null)] [] [[("var.net", net)]] = .ok b ∧
      b.scope none each references = .ok (visible, reports) ∧
      visible = [("var.net.zones.0", .wrap (.list [.int 1])),
        ("var.net.zones.1", .unknown "string"), ("each.value.id", .null)] ∧
      ∀ e ∈ visible, e.2.IsWellFormed := by
  intro net each references
  have repeated : ∀ d ∈ each.fields,
      (∃ v, Value.ofData d = .ok v) ∧ ∀ v ∈ d.embedded, v.IsWellFormed := by
    simp only [Repetition.fields, List.mem_cons, List.not_mem_nil, or_false, forall_eq_or_imp,
      forall_eq]
    exact ⟨⟨⟨_, rfl⟩, by decide⟩, ⟨⟨_, rfl⟩, by decide⟩, ⟨_, rfl⟩, by decide⟩
  refine ⟨_, _, _, rfl, rfl, rfl, ?_⟩
  exact (@isWellFormed_of_scope _ [("var.net", .null)] [] [[("var.net", net)]] none (some each)
    (by decide) rfl repeated references).1 _ _ rfl

end Bindings

end StagedChecks
