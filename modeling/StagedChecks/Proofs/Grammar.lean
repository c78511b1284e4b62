import StagedChecks.Proofs.Traversal

/-!
# The grammar of traversals

A traversal is a word and then words or numerals, with single dots between them; its root says how
many parts there must be and how the first of them may be called. The reader accepts all of these
and, beyond them, parts behind which there is one line break.

## Main definitions

* `Text.IsWord`, `Text.IsNumeral` — the parts of traversals.
* `Reference.Allows` — the parts that may follow a root.
* `Reference.Spells` — the traversals of some kinds of parts.
* `Reference.MayBreak` — texts of one kind, perhaps with a line break behind them.

## Main statements

* `Reference.isName_iff`, `Reference.isIndex_iff` — the segments that are accepted.
* `Reference.ofSegments_returns_iff_allows` — the roots and parts that are accepted.
* `Reference.parse_returns_iff_spells` — the traversals that are accepted, and those of the grammar
  among them.
-/

namespace StagedChecks

namespace Text

/-- A letter of ASCII or an underscore, and then letters, digits, underscores and hyphens. -/
def IsWord (s : String) : Prop :=
  ∃ c cs, s.toList = c :: cs ∧ (c.isAlpha = true ∨ c = '_') ∧
    ∀ d ∈ cs, d.isAlphanum = true ∨ d = '_' ∨ d = '-'

/-- One or more digits of ASCII. -/
def IsNumeral (s : String) : Prop :=
  s ≠ "" ∧ ∀ c ∈ s.toList, c.isDigit = true

instance (s : String) : Decidable (IsNumeral s) :=
  decidable_of_iff ((!s.isEmpty && s.toList.all Char.isDigit) = true) (by simp [IsNumeral])

theorem IsWord.not_mem {s : String} (word : IsWord s) : '\n' ∉ s.toList := by
  obtain ⟨c, cs, chars, start, rest⟩ := word
  rw [chars]
  intro member
  rcases List.mem_cons.1 member with rfl | member
  · revert start
    decide
  · exact absurd (rest _ member) (by decide)

theorem IsNumeral.not_mem {s : String} (numeral : IsNumeral s) : '\n' ∉ s.toList := by
  intro member
  exact absurd (numeral.2 _ member) (by decide)

/-- Joining adds no characters but dots. -/
theorem mem_joined_iff {first : String} {others : List String} {c : Char} (noDot : c ≠ '.') :
    c ∈ (joined first others).toList ↔ ∃ s ∈ first :: others, c ∈ s.toList := by
  induction others generalizing first with
  | nil => simp
  | cons next others ih => simp [ih, noDot]

end Text

namespace Reference

open Text (IsWord IsNumeral)

/-- What may stand behind a dot. -/
def IsPart (s : String) : Prop :=
  IsWord s ∨ IsNumeral s

/-- The parts that may follow a root. Each of the roots that are listed has a rule of its own. -/
inductive Allows : String → List String → Prop where
  | self (parts : List String) : Allows "self" parts
  | count (more : List String) : Allows "count" ("index" :: more)
  | each {name : String} (known : name ∈ ["key", "value"]) (more : List String) :
      Allows "each" (name :: more)
  | path {name : String} (known : name ∈ ["module", "root", "cwd"]) (more : List String) :
      Allows "path" (name :: more)
  | terraform (more : List String) : Allows "terraform" ("workspace" :: more)
  | data (type name : String) (more : List String) : Allows "data" (type :: name :: more)
  | other {root : String} (free : root ∉ ["self", "count", "each", "path", "terraform", "data"])
      (name : String) (more : List String) : Allows root (name :: more)

/-- Texts that are made of a root of one kind and of parts of another, with dots between them. -/
inductive Spells (word part : String → Prop) : String → Prop where
  | intro {root : String} {parts : List String} (begins : word root)
      (follow : ∀ s ∈ parts, part s) (allowed : Allows root parts) :
      Spells word part (Text.joined root parts)

/-- Texts of one kind, perhaps with one line break behind them. -/
def MayBreak (p : String → Prop) (s : String) : Prop :=
  p s ∨ ∃ front, p front ∧ s = front ++ "\n"

variable {s t root : String} {parts : List String}

theorem IsPart.not_mem (part : IsPart s) : '\n' ∉ s.toList :=
  part.elim IsWord.not_mem IsNumeral.not_mem

/-- A kind of texts without line breaks is told from its characters, of which one line break at the
end does not count. -/
theorem mayBreak_iff {p : String → Prop} (whole : ∀ s, p s → '\n' ∉ s.toList) :
    MayBreak p s ↔ p (String.ofList (dropFinalBreak s.toList)) := by
  unfold MayBreak dropFinalBreak
  by_cases last : s.toList.getLast? = some '\n'
  · obtain ⟨front, chars⟩ := List.getLast?_eq_some_iff.1 last
    obtain rfl : s = String.ofList front ++ "\n" := String.toList_injective (by simp [chars])
    simp only [last, if_true]
    constructor
    -- The text has a line break in it, so only what stands before that can be of the kind.
    · rintro (broken | ⟨front', here, same⟩)
      · exact absurd (List.mem_of_getLast? last) (whole _ broken)
      · have := congrArg String.toList same
        simp_all
    · intro here
      exact .inr ⟨_, by simpa using here, rfl⟩
  · simp only [last, if_false, String.ofList_toList]
    constructor
    · rintro (here | ⟨front, -, rfl⟩)
      · exact here
      · simp at last
    · exact .inl

theorem isNameChars_iff {cs : List Char} :
    isNameChars cs = true ↔ IsWord (String.ofList cs) := by
  cases cs with
  | nil => simp [isNameChars, IsWord]
  | cons c cs =>
    simp only [isNameChars, isNameStart, isNameRest, IsWord, String.toList_ofList, List.cons.injEq,
      Bool.and_eq_true, Bool.or_eq_true, beq_iff_eq, List.all_eq_true, or_assoc]
    constructor
    · intro chars
      exact ⟨c, cs, ⟨rfl, rfl⟩, chars⟩
    · rintro ⟨_, _, ⟨rfl, rfl⟩, chars⟩
      exact chars

theorem isIndexChars_iff {cs : List Char} :
    isIndexChars cs = true ↔ IsNumeral (String.ofList cs) := by
  cases cs with
  | nil => simp [isIndexChars, IsNumeral]
  | cons c cs => simp [isIndexChars, IsNumeral]

/-- Names are words, perhaps with a line break behind them. -/
theorem isName_iff : isName s = true ↔ MayBreak IsWord s := by
  rw [mayBreak_iff fun _ => IsWord.not_mem, ← isNameChars_iff, isName]

/-- Indices are numerals, perhaps with a line break behind them. -/
theorem isIndex_iff : isIndex s = true ↔ MayBreak IsNumeral s := by
  rw [mayBreak_iff fun _ => IsNumeral.not_mem, ← isIndexChars_iff, isIndex]

theorem isAttribute_iff : isAttribute s = true ↔ MayBreak IsPart s := by
  rw [mayBreak_iff fun _ => IsPart.not_mem, isAttribute, Bool.or_eq_true, isName_iff, isIndex_iff,
    mayBreak_iff fun _ => IsWord.not_mem, mayBreak_iff fun _ => IsNumeral.not_mem, IsPart]

theorem MayBreak.of_not_mem {p : String → Prop} (may : MayBreak p s) (whole : '\n' ∉ s.toList) :
    p s := by
  rcases may with here | ⟨front, -, rfl⟩
  · exact here
  · simp at whole

/-- The parts that may follow a root are those that it makes a reference with. -/
theorem ofSegments_returns_iff_allows :
    (∃ r, ofSegments root parts = .ok r) ↔ Allows root parts := by
  constructor
  · rintro ⟨r, made⟩
    rcases ofSegments_eq_ok_iff.1 made with ⟨rfl, -⟩ | ⟨rfl, type, name, more, rfl, -⟩ |
      ⟨self, data, name, more, rfl, -, allowed⟩
    · exact .self parts
    · exact .data type name more
    · -- The first part is one of the attributes of the root if these are fixed, and free otherwise.
      by_cases count : root = "count"
      · subst count
        obtain rfl : name = "index" := by simpa using allowed _ rfl
        exact .count more
      by_cases each : root = "each"
      · subst each
        exact .each (allowed _ rfl) more
      by_cases path : root = "path"
      · subst path
        exact .path (allowed _ rfl) more
      by_cases terraform : root = "terraform"
      · subst terraform
        obtain rfl : name = "workspace" := by simpa using allowed _ rfl
        exact .terraform more
      · exact .other (by simp [self, data, count, each, path, terraform]) name more
  · intro allows
    cases allows with
    | self => exact ⟨_, rfl⟩
    | count => exact ⟨_, rfl⟩
    | terraform => exact ⟨_, rfl⟩
    | data => exact ⟨_, rfl⟩
    | each known | path known => exact ⟨_, by simp [ofSegments, fixedAttributes?, known]; rfl⟩
    | other free name more =>
      simp only [List.mem_cons, List.not_mem_nil, or_false, not_or] at free
      obtain ⟨self, count, each, path, terraform, data⟩ := free
      have fixed : fixedAttributes? root = none := by
        unfold fixedAttributes?
        split <;> simp_all
      exact ⟨_, by simp [ofSegments, fixed, self, data]; rfl⟩

theorem Spells.imp {word part word' part' : String → Prop} (spelled : Spells word part t)
    (words : ∀ s, word s → word' s) (ofParts : ∀ s, part s → part' s) : Spells word' part' t := by
  cases spelled with
  | intro begins follow allowed =>
    exact .intro (words _ begins) (fun s member => ofParts s (follow s member)) allowed

/-- A text is divided at its dots in one way, so that it is enough to look at its segments. -/
theorem spells_iff {word part : String → Prop} (words : ∀ s, word s → '.' ∉ s.toList)
    (ofParts : ∀ s, part s → '.' ∉ s.toList) :
    Spells word part t ↔ word (Text.segments t).1 ∧ (∀ s ∈ (Text.segments t).2, part s) ∧
      Allows (Text.segments t).1 (Text.segments t).2 := by
  constructor
  · rintro ⟨begins, follow, allowed⟩
    rw [Text.segments_joined (words _ begins) fun s member => ofParts s (follow s member)]
    exact ⟨begins, follow, allowed⟩
  · rintro ⟨begins, follow, allowed⟩
    have spelled := Spells.intro begins follow allowed
    rwa [Text.joined_segments] at spelled

/-- What is accepted is spelled with words and parts behind which a line break may stand. -/
theorem parse_returns_iff_spells_mayBreak :
    (∃ r, parse t = .ok r) ↔ Spells (MayBreak IsWord) (MayBreak IsPart) t := by
  have noDot (s : String) (part : MayBreak IsPart s) : '.' ∉ s.toList :=
    not_mem_of_isAttribute (isAttribute_iff.2 part)
  have words (s : String) (word : MayBreak IsWord s) : MayBreak IsPart s :=
    word.imp .inl fun ⟨front, here, same⟩ => ⟨front, .inl here, same⟩
  rw [spells_iff (fun s word => noDot s (words s word)) noDot]
  simp only [parse_eq_ok_iff, exists_and_left, ofSegments_returns_iff_allows, isName_iff,
    isAttribute_iff]

/-- Without line breaks nothing stands behind the parts. -/
theorem spells_iff_of_mayBreak :
    Spells IsWord IsPart t ↔ Spells (MayBreak IsWord) (MayBreak IsPart) t ∧ '\n' ∉ t.toList := by
  constructor
  · intro spelled
    refine ⟨spelled.imp (fun _ => .inl) (fun _ => .inl), ?_⟩
    cases spelled with
    | intro begins follow allowed =>
      rw [Text.mem_joined_iff (by decide)]
      rintro ⟨s, member, broken⟩
      rcases List.mem_cons.1 member with rfl | member
      · exact begins.not_mem broken
      · exact (follow s member).not_mem broken
  · rintro ⟨⟨begins, follow, allowed⟩, whole⟩
    simp only [Text.mem_joined_iff (show '\n' ≠ '.' by decide), not_exists, not_and] at whole
    obtain ⟨first, others⟩ := List.forall_mem_cons.1 whole
    exact .intro (begins.of_not_mem first)
      (fun s member => (follow s member).of_not_mem (others s member)) allowed

/-- The traversals of the grammar are those that are accepted and have no line break in them. Those
that are accepted are spelled by the same grammar, except that one line break may stand behind each
part. -/
theorem parse_returns_iff_spells (t : String) :
    (Spells IsWord IsPart t ↔ (∃ r, parse t = .ok r) ∧ '\n' ∉ t.toList) ∧
      ((∃ r, parse t = .ok r) ↔ Spells (MayBreak IsWord) (MayBreak IsPart) t) := by
  refine ⟨?_, parse_returns_iff_spells_mayBreak⟩
  rw [parse_returns_iff_spells_mayBreak]
  exact spells_iff_of_mayBreak

/-- A line break at the end is accepted, though the grammar has none. -/
theorem parse_returns_iff_spells_break :
    (∃ r, parse "var.a\n" = .ok r) ∧ ¬ Spells IsWord IsPart "var.a\n" ∧
      Spells (MayBreak IsWord) (MayBreak IsPart) "var.a\n" := by
  obtain ⟨grammar, accepted⟩ := parse_returns_iff_spells "var.a\n"
  have read : ∃ r, parse "var.a\n" = .ok r := ⟨⟨"var.a\n", []⟩, rfl⟩
  exact ⟨read, fun spelled => (grammar.1 spelled).2 (by decide), accepted.1 read⟩

end Reference

end StagedChecks
