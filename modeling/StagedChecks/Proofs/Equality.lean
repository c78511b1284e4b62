import StagedChecks.Proofs.Keys
import StagedChecks.Proofs.WellFormed
import StagedChecks.Value.Truth

/-!
# Equality of values

Data is compared by what it means. Undivided data means a scalar; lists and tuples mean sequences,
each of their own kind; tables mean functions of what their keys mean; and a wrapped value means its
state, its type name and what its content means. So equality is an equivalence, whatever the order
of keys and however truth values, integers and floating-point numbers stand for each other inside
collections, as data and as keys. As values truth and one differ, by their type names. That is why
equal values have the same truth value or lack it for the same reason.

## Main definitions

* `Meaning` — what data means.
* `Data.meaning` — the meaning of data.

## Main statements

* `Data.same_iff_meaning_eq` — data is equal just when it means the same.
* `Value.toBool_eq_of_same` — equal values agree on their truth value.
* `Value.equivalence_same` — equality of values is an equivalence that respects truth values.
-/

namespace StagedChecks

/-- What data means. Data that means the same is equal. -/
inductive Meaning where
  | scalar (s : Scalar)
  | list (items : List Meaning)
  | tuple (items : List Meaning)
  | map (entries : Key.Meaning → Option Meaning)
  | value (state : Value.State) (typeName : String) (content : Meaning)

namespace Data

section

open scoped Classical

mutual

/-- What data means. -/
noncomputable def meaning : Data → Meaning
  | .null => .scalar .null
  | .bool b => .scalar (.ofBool b)
  | .int n => .scalar (.number n)
  | .float x => .scalar (.ofFloat x)
  | .str s => .scalar (.text s)
  | .list items => .list (meanings items)
  | .tuple items => .tuple (meanings items)
  | .map entries => .map (meaningUnder entries)
  | .value state typeName raw => .value state typeName raw.meaning
  | .foreign _ identity => .scalar (.foreign identity)

/-- What items mean, in order. -/
noncomputable def meanings : List Data → List Meaning
  | [] => []
  | d :: ds => d.meaning :: meanings ds

/-- What the data of a table means under a key, by what the key means. -/
noncomputable def meaningUnder : List (Key × Data) → Key.Meaning → Option Meaning
  | [], _ => none
  | (k, d) :: es, key => if k.meaning = key then some d.meaning else meaningUnder es key

end

end

variable {x y : Data} {k : Key} {seen : List Key} {xs ys es : List (Key × Data)}

theorem held?_cons (e : Key × Data) (es : List (Key × Data)) (k : Key) :
    held? (e :: es) k = if e.1.same k then some e.2 else held? es k := by
  cases here : e.1.same k <;> simp [held?, here]

/-- What stands under a key means what the table means under it. -/
theorem meaningUnder_eq (es : List (Key × Data)) (k : Key) :
    meaningUnder es k.meaning = (held? es k).map meaning := by
  induction es with
  | nil => rfl
  | cons e es ih =>
    obtain ⟨l, d⟩ := e
    rw [held?_cons, meaningUnder, ih]
    by_cases here : l.meaning = k.meaning
    · rw [if_pos here, if_pos ((Key.same_iff_meaning_eq l k).2 here)]
      rfl
    · rw [if_neg here, if_neg (mt (Key.same_iff_meaning_eq l k).1 here)]

theorem isSome_held?_iff : (held? es k).isSome = true ↔ meaningUnder es k.meaning ≠ none := by
  simp [meaningUnder_eq, Option.isSome_iff_ne_none]

/-- A table means something under the keys of its entries only. -/
theorem exists_key_of_meaningUnder {key : Key.Meaning} (found : meaningUnder es key ≠ none) :
    ∃ e ∈ es, e.1.meaning = key := by
  induction es with
  | nil => exact absurd rfl found
  | cons e es ih =>
    obtain ⟨l, d⟩ := e
    by_cases here : l.meaning = key
    · exact ⟨(l, d), List.mem_cons_self, here⟩
    · rw [meaningUnder, if_neg here] at found
      obtain ⟨e, member, same⟩ := ih found
      exact ⟨e, List.mem_cons_of_mem _ member, same⟩

theorem meaningUnder_ne_none {e : Key × Data} (member : e ∈ es) :
    meaningUnder es e.1.meaning ≠ none := by
  induction es with
  | nil => cases member
  | cons e' es ih =>
    obtain ⟨l, d⟩ := e'
    by_cases here : l.meaning = e.1.meaning
    · simp [meaningUnder, here]
    · rw [meaningUnder, if_neg here]
      rcases List.mem_cons.1 member with rfl | member
      · exact absurd rfl here
      · exact ih member

theorem denotes_atom? (x : Data) : Atom.Denotes Meaning.scalar x.atom? x.meaning := by
  cases x with
  | bool b => exact congrArg Meaning.scalar (Atom.meaning_ofBool b).symm
  | int n => exact congrArg Meaning.scalar (Atom.meaning_ofInt n).symm
  | float x => exact Atom.denotes_ofFloat _ x
  | list | tuple | map | value => exact fun s same => by cases same
  | _ => rfl

theorem same_iff_of_undivided (undivided : x.atom? ≠ none ∨ y.atom? ≠ none) :
    same x y = true ↔ x.meaning = y.meaning := by
  have agree : same x y = Atom.agree x.atom? y.atom? := by
    cases x with
    | list | tuple | map | value =>
      cases y with
      | list | tuple | map | value => simp [atom?] at undivided
      | _ => simp only [same]
    | _ => simp only [same]
  rw [agree]
  exact Atom.agree_iff (fun _ _ => Meaning.scalar.inj) (denotes_atom? x) (denotes_atom? y) undivided

theorem sameEntries_cons_iff :
    sameEntries seen ((k, x) :: xs) ys = true ↔
      (k.meaning ∈ seen.map Key.meaning ∨ ∃ y, held? ys k = some y ∧ same x y = true) ∧
        sameEntries (k :: seen) xs ys = true := by
  have old : seen.any k.same = true ↔ k.meaning ∈ seen.map Key.meaning := by
    simp only [List.any_eq_true, List.mem_map, Key.same_iff_meaning_eq]
    exact exists_congr fun l => and_congr_right fun _ => eq_comm
  rw [sameEntries, Bool.and_eq_true, Bool.or_eq_true, old]
  cases held? ys k <;> simp

/-- Two tables mean the same when the second has all that the first has, and no other keys. -/
theorem meaningUnder_eq_iff :
    meaningUnder xs = meaningUnder ys ↔
      (∀ key d, meaningUnder xs key = some d → meaningUnder ys key = some d) ∧
        ∀ e ∈ ys, (held? xs e.1).isSome = true := by
  constructor
  · intro same
    refine ⟨fun key d here => by rw [← same, here], fun e member => ?_⟩
    rw [isSome_held?_iff, same]
    exact meaningUnder_ne_none member
  · rintro ⟨each, keys⟩
    funext key
    cases here : meaningUnder xs key with
    | some d => exact (each key d here).symm
    | none =>
      by_contra there
      obtain ⟨e, member, rfl⟩ := exists_key_of_meaningUnder (Ne.symm there)
      exact isSome_held?_iff.1 (keys e member) here

mutual

-- The induction is on the first data; data of two kinds neither is equal nor means the same.

/-- Data is equal just when it means the same. -/
theorem same_iff_meaning_eq : (x y : Data) → (same x y = true ↔ x.meaning = y.meaning)
  | .list xs, y => by
    cases y with
    | list ys => simp [same, meaning, sameItems_iff xs ys]
    | tuple | map | value => simp [same, meaning, atom?, Atom.agree]
    | float x => exact same_iff_of_undivided (.inr (Atom.ofFloat_ne_none x))
    | _ => exact same_iff_of_undivided (.inr nofun)
  | .tuple xs, y => by
    cases y with
    | tuple ys => simp [same, meaning, sameItems_iff xs ys]
    | list | map | value => simp [same, meaning, atom?, Atom.agree]
    | float x => exact same_iff_of_undivided (.inr (Atom.ofFloat_ne_none x))
    | _ => exact same_iff_of_undivided (.inr nofun)
  | .map xs, y => by
    cases y with
    | map ys => simp [same, meaning, meaningUnder_eq_iff, sameEntries_iff [] xs ys]
    | list | tuple | value => simp [same, meaning, atom?, Atom.agree]
    | float x => exact same_iff_of_undivided (.inr (Atom.ofFloat_ne_none x))
    | _ => exact same_iff_of_undivided (.inr nofun)
  | .value state typeName raw, y => by
    cases y with
    | value state' typeName' raw' =>
      simp [same, meaning, same_iff_meaning_eq raw raw', and_assoc]
    | list | tuple | map => simp [same, meaning, atom?, Atom.agree]
    | float x => exact same_iff_of_undivided (.inr (Atom.ofFloat_ne_none x))
    | _ => exact same_iff_of_undivided (.inr nofun)
  | .float x, y => same_iff_of_undivided (.inl (Atom.ofFloat_ne_none x))
  | .null, y | .bool _, y | .int _, y | .str _, y | .foreign _ _, y =>
    same_iff_of_undivided (.inl nofun)

theorem sameItems_iff : (xs ys : List Data) →
    (sameItems xs ys = true ↔ meanings xs = meanings ys)
  | [], ys => by cases ys <;> simp [sameItems, meanings]
  | x :: xs, ys => by
    cases ys with
    | nil => simp [sameItems, meanings]
    | cons y ys => simp [sameItems, meanings, same_iff_meaning_eq x y, sameItems_iff xs ys]

/-- Entries under keys that were not seen have equals when the other table means the same under
these keys. -/
theorem sameEntries_iff : (seen : List Key) → (xs ys : List (Key × Data)) →
    (sameEntries seen xs ys = true ↔ ∀ key ∉ seen.map Key.meaning, ∀ d,
      meaningUnder xs key = some d → meaningUnder ys key = some d)
  | _, [], _ => by simp [sameEntries, meaningUnder]
  | seen, (k, x) :: xs, ys => by
    have first : (∃ y, held? ys k = some y ∧ same x y = true) ↔
        meaningUnder ys k.meaning = some x.meaning := by
      rw [meaningUnder_eq, Option.map_eq_some_iff]
      exact exists_congr fun y => and_congr_right fun _ => (same_iff_meaning_eq x y).trans eq_comm
    rw [sameEntries_cons_iff, first, sameEntries_iff (k :: seen) xs ys]
    -- Only the first entry of a key counts, on both sides: a key behind it has been seen.
    constructor
    · rintro ⟨head, others⟩ key fresh d here
      by_cases at_head : k.meaning = key
      · subst at_head
        simp only [meaningUnder, if_true] at here
        rw [← here]
        exact head.resolve_left fresh
      · refine others key ?_ d (by simpa [meaningUnder, at_head] using here)
        rw [List.map_cons, List.mem_cons, not_or]
        exact ⟨Ne.symm at_head, fresh⟩
    · intro each
      refine ⟨?_, fun key fresh d here => ?_⟩
      · by_cases old : k.meaning ∈ seen.map Key.meaning
        · exact .inl old
        · exact .inr (each k.meaning old _ (by simp [meaningUnder]))
      · rw [List.map_cons, List.mem_cons, not_or] at fresh
        exact each key fresh.2 d (by simp [meaningUnder, Ne.symm fresh.1, here])

end

/-- Whether data can be read as a truth value, if its text allows. -/
def mayBeTruth : Data → Bool
  | .bool _ => true
  | .str _ => true
  | _ => false

/-- Content of one type that means the same is the same, or it cannot be read as a truth value. -/
theorem eq_or_not_mayBeTruth (names : x.contentName? = y.contentName?)
    (alike : x.meaning = y.meaning) :
    x = y ∨ (x.mayBeTruth = false ∧ y.mayBeTruth = false) := by
  cases x with
  | bool b =>
    cases y with
    | bool b' => cases b <;> cases b' <;> simp_all [meaning, Scalar.ofBool]
    | _ => simp [contentName?] at names
  | str s =>
    cases y with
    | str s' => exact .inl (by simpa [meaning] using alike)
    | _ => simp [contentName?] at names
  | _ =>
    cases y with
    | bool | str => simp [contentName?] at names
    | _ => exact .inr ⟨rfl, rfl⟩

end Data

namespace Value

variable {v w : Value}

theorem same_iff :
    v.same w = true ↔ v.state = w.state ∧ v.typeName = w.typeName ∧
      v.raw.meaning = w.raw.meaning := by
  simp [Value.same, Data.same_iff_meaning_eq, and_assoc]

theorem toBool_of_not_mayBeTruth (known : v.state = .known) (other : v.raw.mayBeTruth = false) :
    v.toBool = .error (.otherType v.typeName) := by
  unfold toBool
  rw [known]
  cases raw : v.raw with
  | bool | str => simp [raw, Data.mayBeTruth] at other
  | _ => rfl

theorem IsWellFormed.contentName?_eq (sound : v.IsWellFormed) (known : v.state = .known) :
    v.raw.contentName? = some v.typeName := by
  rcases isWellFormed_iff.1 sound with ⟨settled, -⟩ | ⟨-, name, -⟩
  · exact absurd known settled
  · exact name

/-- Equal values have the same truth value, or lack it for the same reason. Were their type names
not those of their contents, truth and one could be the contents of equal values. -/
theorem toBool_eq_of_same (sound : v.IsWellFormed) (sound' : w.IsWellFormed)
    (equal : v.same w = true) : v.toBool = w.toBool := by
  obtain ⟨state, typeName, alike⟩ := same_iff.1 equal
  cases here : v.state with
  | unknown | null => simp [toBool, ← state, here]
  | known =>
    have there : w.state = .known := state.symm.trans here
    have names : v.raw.contentName? = w.raw.contentName? := by
      rw [sound.contentName?_eq here, sound'.contentName?_eq there, typeName]
    rcases Data.eq_or_not_mayBeTruth names alike with raw | ⟨other, other'⟩
    · simp [toBool, here, there, raw, typeName]
    · rw [toBool_of_not_mayBeTruth here other, toBool_of_not_mayBeTruth there other', typeName]

/-- Equality of values is an equivalence: values are equal just when their states and their type
names are the same and their contents mean the same. Equal values are known alike and null alike,
and if they and all values inside them were made by wrapping, they have the same truth value or lack
it for the same reason. -/
theorem equivalence_same :
    Equivalence (fun v w : Value => v.same w = true) ∧
    (∀ v w : Value, v.same w = true ↔
      v.state = w.state ∧ v.typeName = w.typeName ∧ v.raw.meaning = w.raw.meaning) ∧
    ∀ v w : Value, v.same w = true → v.isKnown = w.isKnown ∧ v.isNull = w.isNull ∧
      (v.toData.IsMade → w.toData.IsMade → v.toBool = w.toBool) := by
  refine ⟨⟨fun v => ?reflexive, fun equal => ?symmetric, fun first second => ?transitive⟩,
    fun v w => same_iff, fun v w equal => ?alike⟩
  case reflexive => exact same_iff.2 ⟨rfl, rfl, rfl⟩
  case symmetric =>
    obtain ⟨state, typeName, alike⟩ := same_iff.1 equal
    exact same_iff.2 ⟨state.symm, typeName.symm, alike.symm⟩
  case transitive =>
    obtain ⟨state, typeName, alike⟩ := same_iff.1 first
    obtain ⟨state', typeName', alike'⟩ := same_iff.1 second
    exact same_iff.2 ⟨state.trans state', typeName.trans typeName', alike.trans alike'⟩
  case alike =>
    obtain ⟨state, -, -⟩ := same_iff.1 equal
    refine ⟨by rw [isKnown, isKnown, state], by rw [isNull, isNull, state], fun made made' => ?_⟩
    exact toBool_eq_of_same (isWellFormed_of_isMade made) (isWellFormed_of_isMade made') equal

/-- A list and a tuple are wrapped as equal values although truth stands for one in the first, the
keys of the tables inside are in another order, and an integer stands for a floating-point number;
and so do keys: one, truth and the floating-point number one are the same key. -/
theorem equivalence_same_mixed :
    let name : Data := (wrap (.str "x")).toData
    let two : Data := .float (.finite false (2 * unitsPerOne))
    let first : Data := .list [.bool true, .map [(.int 1, .int 2), (.str "b", name)]]
    let second : Data := .tuple [.int 1, .map [(.str "b", name), (.bool true, two)]]
    let third : Data :=
      .list [.int 1, .map [(.float (.finite false unitsPerOne), two), (.str "b", name)]]
    first.IsMade ∧ second.IsMade ∧ third.IsMade ∧
    ∃ u v w, ofData first = .ok u ∧ ofData second = .ok v ∧ ofData third = .ok w ∧
      u.same v = true ∧ v.same w = true ∧ w.same u = true ∧
      u.toBool = v.toBool ∧ v.toBool = .error (.otherType "list") := by
  intro name two first second third
  have nameMade : name.IsMade := .wrapped (.str "x") rfl
  have firstMade : first.IsMade := by
    refine .list (List.forall_mem_cons.2 ⟨.bool _, List.forall_mem_singleton.2 (.map ?_)⟩)
    exact List.forall_mem_cons.2 ⟨.int _, List.forall_mem_singleton.2 nameMade⟩
  have secondMade : second.IsMade := by
    refine .tuple (List.forall_mem_cons.2 ⟨.int _, List.forall_mem_singleton.2 (.map ?_)⟩)
    exact List.forall_mem_cons.2 ⟨nameMade, List.forall_mem_singleton.2 (.float _)⟩
  have thirdMade : third.IsMade := by
    refine .list (List.forall_mem_cons.2 ⟨.int _, List.forall_mem_singleton.2 (.map ?_)⟩)
    exact List.forall_mem_cons.2 ⟨.float _, List.forall_mem_singleton.2 nameMade⟩
  obtain ⟨equivalence, -, alike⟩ := equivalence_same
  have equal : (wrap first).same (wrap second) = true := by decide +kernel
  have equal' : (wrap second).same (wrap third) = true := by decide +kernel
  obtain ⟨-, -, truth⟩ := alike _ _ equal
  exact ⟨firstMade, secondMade, thirdMade, _, _, _, rfl, rfl, rfl, equal, equal',
    equivalence.symm (equivalence.trans equal equal'),
    truth (.wrapped firstMade rfl) (.wrapped secondMade rfl), rfl⟩

/-- Without the type names of wrapping, equal values need not have the same truth value. -/
example : Value.same ⟨.known, "bool", .int 1⟩ (wrap (.bool true)) = true := by decide +kernel

end Value

end StagedChecks
