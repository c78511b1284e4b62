import StagedChecks.Binary64.Decimal
import StagedChecks.Data

/-!
# Reading JSON

A document is read as data: objects become tables, in which the last value of a repeated key counts
at the place of its first. Besides the standard numbers, `NaN`, `Infinity` and `-Infinity` are
read. Integers are exact, up to a limit on their digits that is noticed as soon as the numeral
ends; numbers with a fraction or an exponent are floating-point numbers.

## Main definitions

* `Json.read` — the data of a document.
* `Json.Failure` — why there is none.
-/

namespace StagedChecks.Json

inductive Failure where
  | malformed
  /-- The text holds an integer with this many digits. -/
  | oversizedInteger (digits : Nat)
  deriving DecidableEq, Repr

/-- What a reader makes of the front of a text, and the rest of it. -/
abbrev Reading (α : Type) := Except Failure (α × List Char)

def isSpace (c : Char) : Bool :=
  c == ' ' || c == '\t' || c == '\n' || c == '\r'

/-- A text from its first character that is no white space. -/
def skipSpace (cs : List Char) : List Char :=
  cs.dropWhile isSpace

/-! ## Strings -/

def hexValue? (c : Char) : Option Nat :=
  if c.isDigit then some (c.toNat - 48)
  else if 'a' ≤ c ∧ c ≤ 'f' then some (c.toNat - 87)
  else if 'A' ≤ c ∧ c ≤ 'F' then some (c.toNat - 55)
  else none

def hexCode? (a b c d : Char) : Option Nat := do
  let a ← hexValue? a
  let b ← hexValue? b
  let c ← hexValue? c
  let d ← hexValue? d
  return ((a * 16 + b) * 16 + c) * 16 + d

/-- The character that a short escape stands for. -/
def shortEscape? (c : Char) : Option Char :=
  match c with
  | '"' => some '"'
  | '\\' => some '\\'
  | '/' => some '/'
  | 'b' => some '\x08'
  | 'f' => some '\x0c'
  | 'n' => some '\n'
  | 'r' => some '\r'
  | 't' => some '\t'
  | _ => none

def isHighHalf (code : Nat) : Bool :=
  0xd800 ≤ code && code ≤ 0xdbff

def isLowHalf (code : Nat) : Bool :=
  0xdc00 ≤ code && code ≤ 0xdfff

/-- A code as a character; a half that stands alone has none and is replaced. -/
def charOfCode (code : Nat) : Char :=
  if isHighHalf code || isLowHalf code then '\ufffd' else Char.ofNat code

def joinHalves : List Nat → List Char
  | [] => []
  | [code] => [charOfCode code]
  | high :: low :: codes =>
    if isHighHalf high && isLowHalf low then
      Char.ofNat (0x10000 + (high - 0xd800) * 0x400 + (low - 0xdc00)) :: joinHalves codes
    else charOfCode high :: joinHalves (low :: codes)

/-- Reads the codes of a string up to its closing quote, after those in `done`, newest first. -/
def readCodes (done : List Nat) : List Char → Reading (List Nat)
  | [] => .error .malformed
  | '"' :: cs => .ok (done.reverse, cs)
  | '\\' :: 'u' :: a :: b :: c :: d :: cs =>
    match hexCode? a b c d with
    | some code => readCodes (code :: done) cs
    | none => .error .malformed
  | '\\' :: c :: cs =>
    match shortEscape? c with
    | some c => readCodes (c.toNat :: done) cs
    | none => .error .malformed
  | c :: cs => if c.toNat < 0x20 then .error .malformed else readCodes (c.toNat :: done) cs

/-- Reads a string after its opening quote. -/
def readString (cs : List Char) : Reading String :=
  (readCodes [] cs).map fun (codes, rest) => (String.ofList (joinHalves codes), rest)

/-! ## Numbers -/

/-- Reads the digits before a fraction: a zero alone, or digits that begin with another one. -/
def readWhole : List Char → List Char × List Char
  | '0' :: cs => (['0'], cs)
  | cs => (cs.takeWhile Char.isDigit, cs.dropWhile Char.isDigit)

/-- Reads the digits of a fraction with its point, or nothing. -/
def readFraction : List Char → List Char × List Char
  | '.' :: cs =>
    let digits := cs.takeWhile Char.isDigit
    if digits.isEmpty then ([], '.' :: cs) else (digits, cs.dropWhile Char.isDigit)
  | cs => ([], cs)

/-- Reads an exponent with its mark, if there is one. -/
def readExponent (cs : List Char) : Option (Int × List Char) :=
  match cs with
  | [] => none
  | mark :: rest =>
    if mark = 'e' || mark = 'E' then
      let (negative, rest) :=
        match rest with
        | '-' :: rest => (true, rest)
        | '+' :: rest => (false, rest)
        | rest => (false, rest)
      let digits := rest.takeWhile Char.isDigit
      let power : Nat := Nat.ofDigitChars 10 digits 0
      if digits.isEmpty then none
      else some (if negative then -(power : Int) else power, rest.dropWhile Char.isDigit)
    else none

def readMagnitude (negative : Bool) (cs : List Char) : Reading Data :=
  let (whole, rest) := readWhole cs
  let (fraction, rest) := readFraction rest
  if whole.isEmpty then .error .malformed
  else
    match readExponent rest with
    | some (exponent, rest) => .ok (decimal whole fraction exponent, rest)
    | none =>
      if !fraction.isEmpty then .ok (decimal whole fraction 0, rest)
      else if numeralLimit < whole.length then .error (.oversizedInteger whole.length)
      else
        let n : Nat := Nat.ofDigitChars 10 whole 0
        .ok (.int (if negative then -(n : Int) else n), rest)
where
  /-- The floating-point number of some digits. -/
  decimal (whole fraction : List Char) (exponent : Int) : Data :=
    .float (.ofDecimal
      ⟨negative, Nat.ofDigitChars 10 (whole ++ fraction) 0, exponent - fraction.length⟩)

/-! ## Values -/

/-- Reads a number or one of the words that stand for data. -/
def readAtom : List Char → Reading Data
  | 'n' :: 'u' :: 'l' :: 'l' :: cs => .ok (.null, cs)
  | 't' :: 'r' :: 'u' :: 'e' :: cs => .ok (.bool true, cs)
  | 'f' :: 'a' :: 'l' :: 's' :: 'e' :: cs => .ok (.bool false, cs)
  | 'N' :: 'a' :: 'N' :: cs => .ok (.float (.nan 0), cs)
  | 'I' :: 'n' :: 'f' :: 'i' :: 'n' :: 'i' :: 't' :: 'y' :: cs =>
    .ok (.float (.infinity false), cs)
  | '-' :: 'I' :: 'n' :: 'f' :: 'i' :: 'n' :: 'i' :: 't' :: 'y' :: cs =>
    .ok (.float (.infinity true), cs)
  | '-' :: cs => readMagnitude true cs
  | cs => readMagnitude false cs

mutual

/-- Reads a value, with `fuel` for the parts inside it. -/
def readValue : Nat → List Char → Reading Data
  | 0, _ => .error .malformed
  | fuel + 1, cs =>
    match cs with
    | '"' :: cs => (readString cs).map fun (s, rest) => (.str s, rest)
    | '[' :: cs =>
      match skipSpace cs with
      | ']' :: rest => .ok (.list [], rest)
      | cs => readItems fuel [] cs
    | '\x7b' :: cs =>
      match skipSpace cs with
      | '\x7d' :: rest => .ok (.object [], rest)
      | cs => readEntries fuel [] cs
    | cs => readAtom cs

/-- Reads the items of an array after those in `done`, newest first. -/
def readItems : Nat → List Data → List Char → Reading Data
  | 0, _, _ => .error .malformed
  | fuel + 1, done, cs =>
    match readValue fuel cs with
    | .error failure => .error failure
    | .ok (d, rest) =>
      match skipSpace rest with
      | ',' :: rest => readItems fuel (d :: done) (skipSpace rest)
      | ']' :: rest => .ok (.list (d :: done).reverse, rest)
      | _ => .error .malformed

/-- Reads the entries of an object after those in `done`. -/
def readEntries : Nat → Table Data → List Char → Reading Data
  | 0, _, _ => .error .malformed
  | fuel + 1, done, cs =>
    match cs with
    | '"' :: cs =>
      match readString cs with
      | .error failure => .error failure
      | .ok (key, rest) =>
        match skipSpace rest with
        | ':' :: rest =>
          match readValue fuel (skipSpace rest) with
          | .error failure => .error failure
          | .ok (d, rest) =>
            match skipSpace rest with
            | ',' :: rest => readEntries fuel (Table.put done key d) (skipSpace rest)
            | '\x7d' :: rest => .ok (.object (Table.put done key d), rest)
            | _ => .error .malformed
        | _ => .error .malformed
    | _ => .error .malformed

end

/-- The data of a document. Two steps for each character are more than reading it takes. -/
def read (text : String) : Except Failure Data :=
  let cs := text.toList
  match readValue (2 * cs.length + 2) (skipSpace cs) with
  | .error failure => .error failure
  | .ok (d, rest) => if (skipSpace rest).isEmpty then .ok d else .error .malformed

end StagedChecks.Json
