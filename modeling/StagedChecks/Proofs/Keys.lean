import Mathlib.Data.Rat.Cast.Order
import StagedChecks.Data.Equality

/-!
# What keys mean

Undivided data means a scalar: truth values and numbers of all types mean rational numbers, truth
being one. Keys are made of scalars, tuples and wrapped values, and two keys are equal just when
they mean the same, so that one, truth and the floating-point number one are the same key of a
table.

## Main definitions

* `Scalar` — what undivided data means.
* `Key.meaning` — what a key means.

## Main statements

* `Atom.agree_iff` — undivided data is compared by what it means.
* `Key.same_iff_meaning_eq` — keys are equal just when they mean the same.
-/

namespace StagedChecks

/-- What undivided data means. -/
inductive Scalar where
  | null
  | number (q : ℚ)
  | infinity (negative : Bool)
  | notANumber (origin : Nat)
  | text (s : String)
  | foreign (identity : Nat)

/-- What a truth value means. -/
def Scalar.ofBool (b : Bool) : Scalar :=
  .number (if b then 1 else 0)

/-- What a floating-point number means. -/
def Scalar.ofFloat : Binary64 → Scalar
  | .nan origin => .notANumber origin
  | .infinity negative => .infinity negative
  | .finite negative units =>
    .number ((if negative then -(units : Int) else units : Int) / unitsPerOne)

namespace Atom

/-- What undivided data means, by what it is compared by. -/
def meaning : Atom → Scalar
  | .null => .null
  | .number (.finite units) => .number (units / unitsPerOne)
  | .number (.infinite negative) => .infinity negative
  | .notANumber origin => .notANumber origin
  | .text s => .text s
  | .foreign identity => .foreign identity

theorem unitsPerOne_ne_zero : (unitsPerOne : ℚ) ≠ 0 :=
  Nat.cast_ne_zero.2 (powerOfTwo_pos 1074).ne'

theorem meaning_injective : Function.Injective meaning := by
  intro a b same
  rcases a with _ | (m | _) | _ | _ | _ <;> rcases b with _ | (n | _) | _ | _ | _
  case number.finite.number.finite =>
    have units := (div_left_inj' unitsPerOne_ne_zero).1 (Scalar.number.inj same)
    rw [Int.cast_inj.1 units]
  all_goals cases same <;> rfl

theorem meaning_ofInt (n : Int) : (Atom.number (.ofInt n)).meaning = .number n := by
  rw [Magnitude.ofInt, meaning, Int.cast_mul, Int.cast_natCast,
    mul_div_cancel_right₀ _ unitsPerOne_ne_zero]

theorem meaning_ofBool (b : Bool) : (Atom.ofBool b).meaning = Scalar.ofBool b := by
  rw [ofBool, meaning_ofInt]
  cases b <;> simp [Scalar.ofBool]

/-- Every floating-point number is compared by something that means what it means. -/
theorem exists_ofFloat (x : Binary64) : ∃ a, ofFloat x = some a ∧ Scalar.ofFloat x = a.meaning := by
  cases x <;> exact ⟨_, rfl, rfl⟩

variable {M : Type} {scalar : Scalar → M} {p q : Option Atom} {m n : M}

/-- Whether a meaning is the scalar of what is compared, or no scalar if that is divided. -/
def Denotes (scalar : Scalar → M) (p : Option Atom) (m : M) : Prop :=
  match p with
  | some a => m = scalar a.meaning
  | none => ∀ s, m ≠ scalar s

theorem denotes_ofFloat (scalar : Scalar → M) (x : Binary64) :
    Denotes scalar (ofFloat x) (scalar (Scalar.ofFloat x)) := by
  obtain ⟨a, atom, same⟩ := exists_ofFloat x
  rw [atom, same]
  rfl

theorem ofFloat_ne_none (x : Binary64) : ofFloat x ≠ none := by
  obtain ⟨a, atom, -⟩ := exists_ofFloat x
  simp [atom]

/-- If one of two pieces is undivided, they agree just when they mean the same. -/
theorem agree_iff (inj : Function.Injective scalar) (left : Denotes scalar p m)
    (right : Denotes scalar q n) (undivided : p ≠ none ∨ q ≠ none) :
    agree p q = true ↔ m = n := by
  cases p with
  | none =>
    cases q with
    | none => simp at undivided
    | some b => exact iff_of_false Bool.false_ne_true fun same => left _ (same.trans right)
  | some a =>
    cases q with
    | none => exact iff_of_false Bool.false_ne_true fun same => right _ (same.symm.trans left)
    | some b =>
      cases left
      cases right
      rw [inj.eq_iff, meaning_injective.eq_iff]
      exact beq_iff_eq

end Atom

namespace Key

/-- What a key means. -/
inductive Meaning where
  | scalar (s : Scalar)
  | tuple (items : List Meaning)
  | value (state : Value.State) (typeName : String) (content : Meaning)

mutual

def meaning : Key → Meaning
  | .null => .scalar .null
  | .bool b => .scalar (.ofBool b)
  | .int n => .scalar (.number n)
  | .float x => .scalar (.ofFloat x)
  | .str s => .scalar (.text s)
  | .tuple items => .tuple (meanings items)
  | .value state typeName raw => .value state typeName raw.meaning
  | .foreign _ identity => .scalar (.foreign identity)

/-- What items mean, in order. -/
def meanings : List Key → List Meaning
  | [] => []
  | k :: ks => k.meaning :: meanings ks

end

variable {k l : Key}

theorem denotes_atom? (k : Key) : Atom.Denotes Meaning.scalar k.atom? k.meaning := by
  cases k with
  | bool b => exact congrArg Meaning.scalar (Atom.meaning_ofBool b).symm
  | int n => exact congrArg Meaning.scalar (Atom.meaning_ofInt n).symm
  | float x => exact Atom.denotes_ofFloat _ x
  | tuple | value => exact fun s same => by cases same
  | _ => rfl

theorem same_iff_of_undivided (undivided : k.atom? ≠ none ∨ l.atom? ≠ none) :
    same k l = true ↔ k.meaning = l.meaning := by
  have agree : same k l = Atom.agree k.atom? l.atom? := by
    cases k with
    | tuple | value =>
      cases l with
      | tuple | value => simp [atom?] at undivided
      | _ => simp only [same]
    | _ => simp only [same]
  rw [agree]
  exact Atom.agree_iff (fun _ _ => Meaning.scalar.inj) (denotes_atom? k) (denotes_atom? l) undivided

mutual

/-- Keys are equal just when they mean the same. -/
theorem same_iff_meaning_eq : (k l : Key) → (same k l = true ↔ k.meaning = l.meaning)
  | .tuple ks, l => by
    cases l with
    | tuple ls => simp [same, meaning, sameItems_iff ks ls]
    | value => simp [same, meaning, atom?, Atom.agree]
    | float x => exact same_iff_of_undivided (.inr (Atom.ofFloat_ne_none x))
    | _ => exact same_iff_of_undivided (.inr nofun)
  | .value state typeName raw, l => by
    cases l with
    | value state' typeName' raw' =>
      simp [same, meaning, same_iff_meaning_eq raw raw', and_assoc]
    | tuple => simp [same, meaning, atom?, Atom.agree]
    | float x => exact same_iff_of_undivided (.inr (Atom.ofFloat_ne_none x))
    | _ => exact same_iff_of_undivided (.inr nofun)
  | .float x, l => same_iff_of_undivided (.inl (Atom.ofFloat_ne_none x))
  | .null, l | .bool _, l | .int _, l | .str _, l | .foreign _ _, l =>
    same_iff_of_undivided (.inl nofun)

theorem sameItems_iff : (ks ls : List Key) →
    (sameItems ks ls = true ↔ meanings ks = meanings ls)
  | [], ls => by cases ls <;> simp [sameItems, meanings]
  | k :: ks, ls => by
    cases ls with
    | nil => simp [sameItems, meanings]
    | cons l ls => simp [sameItems, meanings, same_iff_meaning_eq k l, sameItems_iff ks ls]

end

example : (Key.tuple [.int 1, .str "x"]).same (.tuple [.bool true, .str "x"]) = true := by
  decide +kernel

end Key

end StagedChecks
