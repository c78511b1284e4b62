import StagedChecks.Data

/-!
# Equality of data

Truth values and numbers are compared by their exact position on the number line, so that truth
equals one, also as a key. A list never equals a tuple, tables are compared key by key whatever
their order, and wrapped values by state, type name and content. What is not a number equals nothing
when compared by itself; inside a collection it equals the result of the same computation. Foreign
objects are equal when their identities are.

## Main definitions

* `Key.same` — equality of keys.
* `Data.same` — equality inside a collection.
* `Data.equal` — equality of two pieces of data by themselves.
* `Value.same` — equality of values.
-/

namespace StagedChecks

/-- What an undivided piece of data is compared by. -/
inductive Atom where
  | null
  | number (place : Magnitude)
  | notANumber (origin : Nat)
  | text (s : String)
  | foreign (identity : Nat)
  deriving DecidableEq, Repr

/-- What a truth value is compared by: truth by one, its contrary by zero. -/
def Atom.ofBool (b : Bool) : Atom :=
  .number (.ofInt (if b then 1 else 0))

/-- What a floating-point number is compared by. -/
def Atom.ofFloat (x : Binary64) : Option Atom :=
  match x with
  | .nan origin => some (.notANumber origin)
  | x => x.magnitude?.map .number

/-- Whether two pieces are undivided and are compared by the same. -/
def Atom.agree (p q : Option Atom) : Bool :=
  match p, q with
  | some a, some b => a == b
  | _, _ => false

namespace Key

def atom? : Key → Option Atom
  | .null => some .null
  | .bool b => some (.ofBool b)
  | .int n => some (.number (.ofInt n))
  | .float x => Atom.ofFloat x
  | .str s => some (.text s)
  | .foreign _ identity => some (.foreign identity)
  | _ => none

mutual

/-- Equality of keys. -/
def same : Key → Key → Bool
  | .tuple xs, .tuple ys => sameItems xs ys
  | .value s t x, .value s' t' y => s == s' && t == t' && same x y
  | x, y => Atom.agree x.atom? y.atom?

def sameItems : List Key → List Key → Bool
  | [], [] => true
  | x :: xs, y :: ys => same x y && sameItems xs ys
  | _, _ => false

end

end Key

namespace Data

def atom? : Data → Option Atom
  | .null => some .null
  | .bool b => some (.ofBool b)
  | .int n => some (.number (.ofInt n))
  | .float x => Atom.ofFloat x
  | .str s => some (.text s)
  | .foreign _ identity => some (.foreign identity)
  | _ => none

/-- What stands under a key among some entries: the first whose key is equal. -/
def held? (entries : List (Key × Data)) (key : Key) : Option Data :=
  (entries.find? (·.1.same key)).map (·.2)

mutual

/-- Equality inside a collection. -/
def same : Data → Data → Bool
  | .list xs, .list ys => sameItems xs ys
  | .tuple xs, .tuple ys => sameItems xs ys
  | .map xs, .map ys => sameEntries [] xs ys && ys.all fun e => (held? xs e.1).isSome
  | .value s t x, .value s' t' y => s == s' && t == t' && same x y
  | x, y => Atom.agree x.atom? y.atom?

def sameItems : List Data → List Data → Bool
  | [], [] => true
  | x :: xs, y :: ys => same x y && sameItems xs ys
  | _, _ => false

/-- Whether the entries of a table whose keys are not among `seen` have equals in another one. -/
def sameEntries (seen : List Key) : List (Key × Data) → List (Key × Data) → Bool
  | [], _ => true
  | (k, x) :: xs, ys =>
    (seen.any k.same || match held? ys k with
      | some y => same x y
      | none => false) && sameEntries (k :: seen) xs ys

end

/-- Whether data is the result of a computation that is no number. -/
def isNotANumber : Data → Bool
  | .float (.nan _) => true
  | _ => false

/-- Equality of two pieces of data by themselves. -/
def equal (x y : Data) : Bool :=
  same x y && !x.isNotANumber

end Data

/-- Equality of values: of state, type name and content. -/
def Value.same (v w : Value) : Bool :=
  v.state == w.state && v.typeName == w.typeName && v.raw.same w.raw

end StagedChecks
