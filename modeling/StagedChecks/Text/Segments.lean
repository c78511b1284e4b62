/-!
# Text divided at dots

A text has one segment more than it has dots.

## Main definitions

* `Text.segments` — the first segment and the others.
* `Text.joined` — segments put together with dots between them.

## Main statements

* `Text.joined_append` — segments may be joined in two steps.
* `Text.joined_segments` — dividing a text and joining the segments gives it back.
-/

namespace StagedChecks.Text

/-- The characters before the first dot, and those between and after dots. -/
def splitDots : List Char → List Char × List (List Char)
  | [] => ([], [])
  | c :: cs =>
    let (first, others) := splitDots cs
    if c = '.' then ([], first :: others) else (c :: first, others)

/-- The first segment of a text and the others. -/
def segments (text : String) : String × List String :=
  let (first, others) := splitDots text.toList
  (String.ofList first, others.map String.ofList)

/-- Segments put together with dots between them. -/
def joined (first : String) : List String → String
  | [] => first
  | next :: others => first ++ "." ++ joined next others

@[simp] theorem joined_nil (first : String) : joined first [] = first := rfl

@[simp] theorem joined_cons (first next : String) (others : List String) :
    joined first (next :: others) = first ++ "." ++ joined next others := rfl

theorem joined_append (first : String) (others more : List String) :
    joined first (others ++ more) = joined (joined first others) more := by
  induction others generalizing first with
  | nil => rfl
  | cons next others ih =>
    cases more with
    | nil => simp
    | cons s more => simp [ih, String.append_assoc]

theorem toList_joined_splitDots (cs : List Char) :
    (joined (String.ofList (splitDots cs).1) ((splitDots cs).2.map String.ofList)).toList = cs := by
  induction cs with
  | nil => rfl
  | cons c cs ih =>
    by_cases h : c = '.'
    · simp [splitDots, h, ih]
    · revert ih
      cases rest : (splitDots cs).2 with
      | nil => intro ih; simpa [splitDots, h, rest, joined] using ih
      | cons s ss => intro ih; simpa [splitDots, h, rest, joined] using ih

/-- Dividing a text and joining the segments gives it back. -/
theorem joined_segments (text : String) : joined (segments text).1 (segments text).2 = text := by
  apply String.toList_injective
  exact toList_joined_splitDots text.toList

end StagedChecks.Text
