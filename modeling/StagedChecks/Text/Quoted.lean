import StagedChecks.Text.Unprintable

/-!
# Quoted text

Text is shown between quotation marks, with an escape for each character that would not show.
Single marks are used unless the text holds a single mark and no double one.

## Main definitions

* `Text.quoted` — the quoted form.
* `Text.quotedUpTo` — the same, cut after a number of characters.
-/

namespace StagedChecks.Text

/-- The lowercase hexadecimal digit of a number below sixteen. -/
def hexDigit (n : Nat) : Char :=
  if n < 10 then Char.ofNat (48 + n) else Char.ofNat (87 + n)

/-- The last `width` hexadecimal digits of a number. -/
def hexDigits : (width n : Nat) → List Char
  | 0, _ => []
  | width + 1, n => hexDigits width (n / 16) ++ [hexDigit (n % 16)]

/-- The escape of a character by its code point, in the shortest of three widths. -/
def codeEscape (c : Char) : List Char :=
  if c.toNat < 0x100 then '\\' :: 'x' :: hexDigits 2 c.toNat
  else if c.toNat < 0x10000 then '\\' :: 'u' :: hexDigits 4 c.toNat
  else '\\' :: 'U' :: hexDigits 8 c.toNat

/-- How a character is written between two marks. -/
def quotedChar (mark c : Char) : List Char :=
  if c = mark || c = '\\' then ['\\', c]
  else if c = '\t' then ['\\', 't']
  else if c = '\n' then ['\\', 'n']
  else if c = '\r' then ['\\', 'r']
  else if isUnprintable c then codeEscape c
  else [c]

/-- The mark that a text is quoted with. -/
def quoteMark (text : String) : Char :=
  if text.contains '\'' && !text.contains '"' then '"' else '\''

def quotedChars (text : String) : List Char :=
  let mark := quoteMark text
  mark :: text.toList.flatMap (quotedChar mark) ++ [mark]

/-- The quoted form of a text. -/
def quoted (text : String) : String :=
  String.ofList (quotedChars text)

/-- The first `limit` characters of the quoted form. -/
def quotedUpTo (limit : Nat) (text : String) : String :=
  String.ofList ((quotedChars text).take limit)

end StagedChecks.Text
