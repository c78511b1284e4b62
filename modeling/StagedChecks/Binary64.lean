/-!
# Binary floating-point numbers

A finite number of the 64-bit binary format is a whole multiple of the smallest positive one,
`2 ^ (-1074)`. It is kept as that multiple, so that numbers compare exactly, also with integers.

## Main definitions

* `Binary64` — the numbers of the format.
* `Binary64.ofRatio` — the nearest number to a ratio, a tie going to the even neighbour.
* `Magnitude` — the position of a number on the extended line.
* `Binary64.magnitude?` — that position, if the number has one.
-/

namespace StagedChecks

def powerOfTwo (n : Nat) : Nat :=
  Nat.pow 2 n

theorem powerOfTwo_pos (n : Nat) : 0 < powerOfTwo n :=
  Nat.pow_pos (by decide)

/-- How many units of the format make one. -/
def unitsPerOne : Nat :=
  powerOfTwo 1074

/-- A floating-point number. A result that is not a number remembers which computation it came
from, because only then can one be told from another. -/
inductive Binary64 where
  | nan (origin : Nat)
  | infinity (negative : Bool)
  | finite (negative : Bool) (units : Nat)
  deriving DecidableEq, Repr, Inhabited

/-- A position on the number line, in units of the format, or one of its two ends. -/
inductive Magnitude where
  | finite (units : Int)
  | infinite (negative : Bool)
  deriving DecidableEq, Repr

namespace Magnitude

def ofInt (n : Int) : Magnitude :=
  .finite (n * unitsPerOne)

def lt : Magnitude → Magnitude → Bool
  | .finite x, .finite y => x < y
  | .finite _, .infinite negative => !negative
  | .infinite negative, .finite _ => negative
  | .infinite x, .infinite y => x && !y

end Magnitude

namespace Binary64

/-- The position of a number; what is not a number has none. -/
def magnitude? : Binary64 → Option Magnitude
  | .nan _ => none
  | .infinity negative => some (.infinite negative)
  | .finite negative units => some (.finite (if negative then -(units : Int) else units))

/-- The integer nearest to a quotient, the even one of two. -/
def roundQuotient (num den : Nat) : Nat :=
  let below := num / den
  let twice := 2 * (num % den)
  if twice < den || (twice == den && below % 2 == 0) then below else below + 1

/-- The distance between a magnitude of so many units and the next larger one of the format. -/
def spacing (units : Nat) : Nat :=
  powerOfTwo (units.log2 - 52)

/-- The number nearest to a ratio, or the infinity beyond the largest one. -/
def ofRatio (negative : Bool) (num den : Nat) : Binary64 :=
  let scaled := num * unitsPerOne
  let step := spacing (scaled / den)
  let units := roundQuotient scaled (den * step) * step
  if units < powerOfTwo 1024 * unitsPerOne then .finite negative units else .infinity negative

end Binary64

end StagedChecks
