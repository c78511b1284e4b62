import StagedChecks.Binary64

/-!
# Floating-point numbers as decimal text

A number is written with the fewest digits that read back as it, the nearest such decimal being
taken. Magnitudes from `0.0001` up to `10 ^ 16` are written positionally, others with an exponent.

## Main definitions

* `Decimal` — a sign, an integer and a power of ten.
* `Binary64.ofDecimal` — the number nearest to a decimal.
* `Binary64.shortest` — the digits and the power of ten that a number is written with.
* `Binary64.toText`, `Binary64.ofText?` — writing and reading.
-/

namespace StagedChecks

/-- The decimal `± digits * 10 ^ exponent`. -/
structure Decimal where
  negative : Bool
  digits : Nat
  exponent : Int
  deriving DecidableEq, Repr

def decimalLength (n : Nat) : Nat :=
  (Nat.toDigits 10 n).length

namespace Binary64

/-- The number nearest to a decimal. Powers of ten far outside the format are cut off first. -/
def ofDecimal (d : Decimal) : Binary64 :=
  let size := decimalLength d.digits + d.exponent
  if d.digits = 0 || size < -400 then .finite d.negative 0
  else if size > 400 then .infinity d.negative
  else
    ofRatio d.negative (d.digits * Nat.pow 10 d.exponent.toNat) (Nat.pow 10 (-d.exponent).toNat)

/-- Among the multiples of `10 ^ exponent` that round to a magnitude, the nearest to it. The ends
of the interval that rounds to the magnitude count when its significand is even. -/
def onGrid? (units : Nat) (exponent : Int) : Option Nat :=
  let scale := Nat.pow 10 (-exponent).toNat
  let step := 4 * unitsPerOne * Nat.pow 10 exponent.toNat
  let centre := 4 * units * scale
  let low := (4 * units - 2 * spacing (units - 1)) * scale
  let high := (4 * units + 2 * spacing units) * scale
  let even := units / spacing units % 2 == 0
  let fits (n : Nat) : Bool :=
    if even then low ≤ n * step && n * step ≤ high else low < n * step && n * step < high
  let below := centre / step
  let rest := centre - below * step
  let nearBelow := 2 * rest < step || (2 * rest == step && below % 2 == 0)
  match fits below, fits (below + 1) with
  | true, true => some (if nearBelow then below else below + 1)
  | true, false => some below
  | false, true => some (below + 1)
  | false, false => none

/-- The place of the leading digit of a positive magnitude: it is at least `10 ^ (place - 1)` and
less than `10 ^ place`. -/
def leadingPlace (units : Nat) : Int :=
  (decimalLength (units * Nat.pow 10 400 / unitsPerOne) : Int) - 400

/-- The shortest decimal that reads back as a positive magnitude; seventeen digits suffice. -/
def shortest (units : Nat) : Nat × Int :=
  let grids := (List.range 17).map fun count => leadingPlace units - (count + 1 : Nat)
  (grids.findSome? fun exponent => (onGrid? units exponent).map (·, exponent)).getD (0, 0)

/-- Digits with a decimal point after `place` of them, zeros filling the gaps. -/
def positional (digits : List Char) (place : Int) : List Char :=
  if place ≤ 0 then ['0', '.'] ++ List.replicate (-place).toNat '0' ++ digits
  else if digits.length ≤ place.toNat then
    digits ++ List.replicate (place.toNat - digits.length) '0' ++ ['.', '0']
  else digits.take place.toNat ++ '.' :: digits.drop place.toNat

/-- Digits with the point after the first one, followed by an exponent of at least two digits. -/
def scientific (digits : List Char) (place : Int) : List Char :=
  let fraction := if digits.length ≤ 1 then [] else '.' :: digits.drop 1
  let power := Nat.toDigits 10 (place - 1).natAbs
  let sign := if place - 1 < 0 then '-' else '+'
  digits.take 1 ++ fraction ++ ['e', sign] ++
    List.replicate (2 - power.length) '0' ++ power

def magnitudeText (units : Nat) : List Char :=
  if units = 0 then ['0', '.', '0']
  else
    let (number, exponent) := shortest units
    let digits := Nat.toDigits 10 number
    let place := digits.length + exponent
    let significant := (digits.reverse.dropWhile (· == '0')).reverse
    if -4 < place && place ≤ 16 then positional significant place
    else scientific significant place

def toText : Binary64 → String
  | .nan _ => "nan"
  | .infinity negative => if negative then "-inf" else "inf"
  | .finite negative units =>
    String.ofList ((if negative then ['-'] else []) ++ magnitudeText units)

/-- Reads an exponent with its mark, or nothing at all. -/
def readExponent? : List Char → Option Int
  | [] => some 0
  | mark :: cs =>
    if mark = 'e' || mark = 'E' then
      let (negative, digits) :=
        match cs with
        | '-' :: digits => (true, digits)
        | '+' :: digits => (false, digits)
        | digits => (false, digits)
      if digits.isEmpty || !digits.all Char.isDigit then none
      else
        let power := Nat.ofDigitChars 10 digits 0
        some (if negative then -(power : Int) else power)
    else none

/-- Reads digits with an optional fraction and an optional exponent. -/
def readMagnitude? (negative : Bool) (cs : List Char) : Option Decimal :=
  let whole := cs.takeWhile Char.isDigit
  let rest := cs.dropWhile Char.isDigit
  let (fraction, rest) :=
    match rest with
    | '.' :: rest => (rest.takeWhile Char.isDigit, rest.dropWhile Char.isDigit)
    | rest => ([], rest)
  if whole.isEmpty && fraction.isEmpty then none
  else (readExponent? rest).map fun exponent =>
    ⟨negative, Nat.ofDigitChars 10 (whole ++ fraction) 0, exponent - fraction.length⟩

def readDecimal? : List Char → Option Decimal
  | '-' :: cs => readMagnitude? true cs
  | '+' :: cs => readMagnitude? false cs
  | cs => readMagnitude? false cs

/-- Reads a number as `toText` writes it. What is not a number comes from `origin`. -/
def ofText? (origin : Nat) (text : String) : Option Binary64 :=
  if text = "nan" then some (.nan origin)
  else if text = "inf" then some (.infinity false)
  else if text = "-inf" then some (.infinity true)
  else (readDecimal? text.toList).map ofDecimal

end Binary64

end StagedChecks
