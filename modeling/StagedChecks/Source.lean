import StagedChecks.Text.Integer

/-!
# Places in configuration files

## Main definitions

* `Source.Position` — a place by line, column and byte offset.
* `Source.Range` — the stretch of a file between two places.
* `Source.Range.text` — how a range is written: file name, then both places without their offsets.
* `Source.Range.render` — the same, where lines and columns can be shown.

## Main statements

* `Source.Range.render_eq` — a range of short lines and columns is shown as it is written, another
  one is not shown.
-/

namespace StagedChecks.Source

/-- A place in a file. Lines and columns count from one, bytes from zero. -/
structure Position where
  line : Int := 1
  column : Int := 1
  byte : Int := 0
  deriving DecidableEq, Repr, Inhabited

/-- A stretch of a file. -/
structure Range where
  filename : String := ""
  start : Position := {}
  stop : Position := {}
  deriving DecidableEq, Repr, Inhabited

def Position.text (p : Position) : String :=
  Text.integer p.line ++ "," ++ Text.integer p.column

def Position.render (p : Position) : Except Fault String :=
  return (← Text.showInteger p.line) ++ "," ++ (← Text.showInteger p.column)

/-- Whether line and column can be shown. -/
def Position.isShort (p : Position) : Bool :=
  Text.isShort p.line && Text.isShort p.column

def Range.text (r : Range) : String :=
  r.filename ++ ":" ++ r.start.text ++ "-" ++ r.stop.text

def Range.render (r : Range) : Except Fault String :=
  return r.filename ++ ":" ++ (← r.start.render) ++ "-" ++ (← r.stop.render)

/-- Whether the lines and columns of a range can be shown. -/
def Range.isShort (r : Range) : Bool :=
  r.start.isShort && r.stop.isShort

theorem Position.render_eq (p : Position) :
    p.render = if p.isShort then .ok p.text else .error .oversizedInteger := by
  cases line : Text.isShort p.line <;> cases column : Text.isShort p.column <;>
    simp [render, isShort, text, Text.showInteger, line, column, bind, Except.bind, pure,
      Except.pure]

theorem Range.render_eq (r : Range) :
    r.render = if r.isShort then .ok r.text else .error .oversizedInteger := by
  cases start : r.start.isShort <;> cases stop : r.stop.isShort <;>
    simp [render, isShort, text, Position.render_eq, start, stop, bind, Except.bind, pure,
      Except.pure]

end StagedChecks.Source
