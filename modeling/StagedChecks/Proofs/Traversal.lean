import StagedChecks.Reference

/-!
# Traversals and references

Reading a traversal loses nothing: its segments go to the subject and the path in their order, and
the reference shows the same text again. So different traversals are different references, and the
references among some traversals are the well-formed ones of them, each kept once.

## Main definitions

* `Reference.Readable` — segments that make a reference.

## Main statements

* `Text.segments_eq_iff` — the segments of a text.
* `Reference.ofSegments_eq_ok_iff` — the references that segments make.
* `Reference.parse_returns_iff` — the traversals that are read.
* `Reference.traversal_of_parse` — a reference that was read shows the text it was read from.
* `Reference.parse_append` — a well-formed traversal goes on with any attribute.
* `Reference.parse_divides` — where the segments of a traversal go.
* `Reference.mem_analyse_iff` — the references that are found.
* `Reference.map_traversal_analyse` — their order.
* `Reference.analyse_reports_eq_nil_iff` — when there is nothing to report.
-/

namespace StagedChecks

section Duplicates

variable {α β : Type} [DecidableEq α] [DecidableEq β]

theorem nodup_eraseDups (xs : List α) : xs.eraseDups.Nodup := by
  -- `eraseDups` goes on with a filtered tail, so the recursion is on the length.
  match xs with
  | [] => simp
  | x :: xs =>
    rw [List.eraseDups_cons, List.nodup_cons, List.mem_eraseDups]
    exact ⟨by simp, nodup_eraseDups _⟩
termination_by xs.length
decreasing_by exact Nat.lt_succ_of_le (List.length_filter_le ..)

/-- Reading items and dropping repeated results keeps the items that can be read and drops the
repeated ones, if every item is told by its result. -/
theorem map_eraseDups_filterMap {read : α → Option β} {write : β → α}
    (inverse : ∀ x y, read x = some y → write y = x) (xs : List α) :
    (xs.filterMap read).eraseDups.map write =
      (xs.filter fun x => (read x).isSome).eraseDups := by
  match xs with
  | [] => rfl
  | x :: xs =>
    cases found : read x with
    | none => simpa [found] using map_eraseDups_filterMap inverse xs
    | some y =>
      -- Dropping the result of `x` from the results drops `x` itself from the items.
      have others : (xs.filterMap read).filter (fun z => !z == y) =
          (xs.filter fun z => !z == x).filterMap read := by
        rw [List.filter_filterMap, List.filterMap_filter]
        congr 1
        funext z
        by_cases same : z = x
        · simp [same, found]
        · cases other : read z with
          | none => simp
          | some w =>
            have : w ≠ y := by
              rintro rfl
              exact same ((inverse z w other).symm.trans (inverse x w found))
            simp [same, this]
      have ih := map_eraseDups_filterMap inverse (xs.filter fun z => !z == x)
      simp only [List.filterMap_cons, List.filter_cons, found, Option.isSome_some, if_true,
        List.eraseDups_cons, List.map_cons, inverse x y found, others, ih, List.filter_filter,
        Bool.and_comm]
termination_by xs.length
decreasing_by
  · simp
  · exact Nat.lt_succ_of_le (List.length_filter_le ..)

end Duplicates

namespace Text

theorem splitDots_of_not_mem {cs : List Char} (whole : '.' ∉ cs) : splitDots cs = (cs, []) := by
  induction cs with
  | nil => rfl
  | cons c cs ih =>
    simp only [List.mem_cons, not_or] at whole
    simp [splitDots, ih whole.2, Ne.symm whole.1]

theorem splitDots_append (cs : List Char) {ds : List Char} (whole : '.' ∉ ds) :
    splitDots (cs ++ '.' :: ds) = ((splitDots cs).1, (splitDots cs).2 ++ [ds]) := by
  induction cs with
  | nil => simp [splitDots, splitDots_of_not_mem whole]
  | cons c cs ih => by_cases dot : c = '.' <;> simp [splitDots, ih, dot]

theorem splitDots_of_dot {cs : List Char} (whole : '.' ∉ cs) (ds : List Char) :
    splitDots (cs ++ '.' :: ds) = (cs, (splitDots ds).1 :: (splitDots ds).2) := by
  induction cs with
  | nil => simp [splitDots]
  | cons c cs ih =>
    simp only [List.mem_cons, not_or] at whole
    simp [splitDots, ih whole.2, Ne.symm whole.1]

theorem not_mem_splitDots (cs : List Char) :
    '.' ∉ (splitDots cs).1 ∧ ∀ ds ∈ (splitDots cs).2, '.' ∉ ds := by
  induction cs with
  | nil => simp [splitDots]
  | cons c cs ih =>
    by_cases dot : c = '.'
    · simpa [splitDots, dot] using ih
    · simpa [splitDots, dot, Ne.symm dot] using ih

/-- A dot and a text without one add a segment. -/
theorem segments_append (t : String) {s : String} (whole : '.' ∉ s.toList) :
    segments (t ++ "." ++ s) = ((segments t).1, (segments t).2 ++ [s]) := by
  have chars : (t ++ "." ++ s).toList = t.toList ++ '.' :: s.toList := by simp
  simp [segments, chars, splitDots_append _ whole]

theorem segments_joined {first : String} {others : List String} (whole : '.' ∉ first.toList)
    (wholes : ∀ s ∈ others, '.' ∉ s.toList) : segments (joined first others) = (first, others) := by
  induction others generalizing first with
  | nil => simp [segments, splitDots_of_not_mem whole]
  | cons next others ih =>
    obtain ⟨nextWhole, wholes⟩ := List.forall_mem_cons.1 wholes
    have rest := ih nextWhole wholes
    simp only [segments, Prod.mk.injEq] at rest
    simp [segments, splitDots_of_dot whole, rest]

/-- Segments are the only texts without dots that are joined to a text. -/
theorem segments_eq_iff {text first : String} {others : List String} :
    segments text = (first, others) ↔
      joined first others = text ∧ ∀ s ∈ first :: others, '.' ∉ s.toList := by
  constructor
  · intro divided
    obtain ⟨whole, wholes⟩ := not_mem_splitDots text.toList
    have both := joined_segments text
    rw [divided] at both
    refine ⟨both, ?_⟩
    cases divided
    simpa [whole] using wholes
  · rintro ⟨rfl, wholes⟩
    exact segments_joined (wholes first List.mem_cons_self)
      fun s member => wholes s (List.mem_cons_of_mem _ member)

end Text

namespace Reference

/-- A traversal is read in two steps: its segments are looked at one by one, then put together. -/
theorem parse_eq_ok_iff {t : String} {r : Reference} :
    parse t = .ok r ↔ isName (Text.segments t).1 = true ∧
      (∀ s ∈ (Text.segments t).2, isAttribute s = true) ∧
      ofSegments (Text.segments t).1 (Text.segments t).2 = .ok r := by
  rw [← List.all_eq_true]
  cases name : isName (Text.segments t).1 with
  | false => simp [parse, name]
  | true =>
    cases attributes : (Text.segments t).2.all isAttribute <;> simp [parse, name, attributes]

/-- The references that segments make: `self` stands alone, data sources have two names after the
root, and all else has one, which must be allowed where the root has a fixed set of them. -/
theorem ofSegments_eq_ok_iff {root : String} {others : List String} {r : Reference} :
    ofSegments root others = .ok r ↔
      (root = "self" ∧ r = ⟨root, others⟩) ∨
      (root = "data" ∧ ∃ type name path, others = type :: name :: path ∧
        r = ⟨Text.joined root [type, name], path⟩) ∨
      (root ≠ "self" ∧ root ≠ "data" ∧ ∃ name path, others = name :: path ∧
        r = ⟨Text.joined root [name], path⟩ ∧
        ∀ allowed, fixedAttributes? root = some allowed → name ∈ allowed) := by
  have made : ∀ r' : Reference, (Except.ok r' : Except Malformed Reference) = .ok r ↔ r = r' :=
    fun r' => by rw [Except.ok.injEq, eq_comm]
  by_cases self : root = "self"
  · subst self
    simp [ofSegments, fixedAttributes?, made]
  by_cases data : root = "data"
  · subst data
    rcases others with _ | ⟨type, _ | ⟨name, path⟩⟩ <;>
      simp [ofSegments, fixedAttributes?, made, and_assoc]
  cases others with
  | nil => cases fixed : fixedAttributes? root <;> simp [ofSegments, fixed, self, data]
  | cons name path =>
    cases fixed : fixedAttributes? root with
    | none => simp [ofSegments, fixed, self, data, made, and_assoc]
    | some allowed =>
      by_cases member : name ∈ allowed <;>
        simp [ofSegments, fixed, self, data, member, made, and_assoc]

/-- Segments that can be read: a name and then attributes, enough of them to name a value, the first
of which is allowed where the root has a fixed set of them. -/
structure Readable (root : String) (others : List String) : Prop where
  name : isName root = true
  attributes : ∀ s ∈ others, isAttribute s = true
  enough : root = "self" ∨ (if root = "data" then 2 else 1) ≤ others.length
  allowed : ∀ allowed, fixedAttributes? root = some allowed → ∃ name ∈ others.head?, name ∈ allowed

theorem ofSegments_returns_iff {root : String} {others : List String} :
    (∃ r, ofSegments root others = .ok r) ↔
      (root = "self" ∨ (if root = "data" then 2 else 1) ≤ others.length) ∧
        ∀ allowed, fixedAttributes? root = some allowed →
          ∃ name ∈ others.head?, name ∈ allowed := by
  simp only [ofSegments_eq_ok_iff]
  by_cases self : root = "self"
  · subst self
    simp [fixedAttributes?]
  by_cases data : root = "data"
  · subst data
    rcases others with _ | ⟨type, _ | ⟨name, path⟩⟩ <;> simp [fixedAttributes?, and_assoc]
  · cases others <;> simp [self, data, and_assoc]

/-- The traversals that are read are those of readable segments. -/
theorem parse_returns_iff {t : String} :
    (∃ r, parse t = .ok r) ↔ Readable (Text.segments t).1 (Text.segments t).2 := by
  simp only [parse_eq_ok_iff, exists_and_left, ofSegments_returns_iff]
  exact ⟨fun ⟨name, attributes, enough, allowed⟩ => ⟨name, attributes, enough, allowed⟩,
    fun ⟨name, attributes, enough, allowed⟩ => ⟨name, attributes, enough, allowed⟩⟩

theorem traversal_of_ofSegments {root : String} {others : List String} {r : Reference}
    (made : ofSegments root others = .ok r) : r.traversal = Text.joined root others := by
  rcases ofSegments_eq_ok_iff.1 made with ⟨-, rfl⟩ | ⟨-, type, name, path, rfl, rfl⟩ |
    ⟨-, -, name, path, rfl, rfl, -⟩
  · rfl
  · exact (Text.joined_append root [type, name] path).symm
  · exact (Text.joined_append root [name] path).symm

/-- A reference that was read shows the text it was read from. -/
theorem traversal_of_parse {t : String} {r : Reference} (read : parse t = .ok r) :
    r.traversal = t := by
  rw [traversal_of_ofSegments (parse_eq_ok_iff.1 read).2.2, Text.joined_segments]

/-- No segment has a dot in it. -/
theorem not_mem_of_isAttribute {s : String} (segment : isAttribute s = true) :
    '.' ∉ s.toList := by
  intro dot
  have inside : '.' ∈ dropFinalBreak s.toList := by
    unfold dropFinalBreak
    split
    · rename_i last
      obtain ⟨front, chars⟩ := List.getLast?_eq_some_iff.1 last
      rw [chars] at dot ⊢
      simpa using dot
    · exact dot
  simp only [isAttribute, isName, isIndex, Bool.or_eq_true] at segment
  rcases segment with name | index
  · cases chars : dropFinalBreak s.toList with
    | nil => simp [chars] at inside
    | cons c cs =>
      simp only [chars, isNameChars, Bool.and_eq_true, List.all_eq_true] at name
      rcases List.mem_cons.1 (chars ▸ inside) with rfl | member
      · exact absurd name.1 (by decide)
      · exact absurd (name.2 _ member) (by decide)
  · simp only [isIndexChars, Bool.and_eq_true, List.all_eq_true] at index
    exact absurd (index.2 _ inside) (by decide)

theorem ofSegments_append {root : String} {others more : List String} {r : Reference}
    (made : ofSegments root others = .ok r) :
    ofSegments root (others ++ more) = .ok ⟨r.subject, r.path ++ more⟩ := by
  rw [ofSegments_eq_ok_iff] at made ⊢
  rcases made with ⟨self, rfl⟩ | ⟨data, type, name, path, rfl, rfl⟩ |
    ⟨self, data, name, path, rfl, rfl, allowed⟩
  · exact .inl ⟨self, rfl⟩
  · exact .inr (.inl ⟨data, type, name, path ++ more, rfl, rfl⟩)
  · exact .inr (.inr ⟨self, data, name, path ++ more, rfl, rfl, allowed⟩)

/-- A well-formed traversal goes on with any attribute. -/
theorem parse_append {t s : String} {r : Reference} (read : parse t = .ok r)
    (segment : isAttribute s = true) :
    parse (t ++ "." ++ s) = .ok ⟨r.subject, r.path ++ [s]⟩ := by
  obtain ⟨name, attributes, made⟩ := parse_eq_ok_iff.1 read
  rw [parse_eq_ok_iff, Text.segments_append t (not_mem_of_isAttribute segment)]
  refine ⟨name, ?_, ofSegments_append made⟩
  simpa [or_imp, forall_and, segment] using attributes

theorem parse?_eq_some_iff {t : String} {r : Reference} : parse? t = some r ↔ parse t = .ok r := by
  unfold parse?
  cases parse t <;> simp [Except.toOption]

/-- The references that are found are those of the well-formed traversals. -/
theorem mem_analyse_iff {ts : List String} {r : Reference} :
    r ∈ (analyse ts).1 ↔ ∃ t ∈ ts, parse t = .ok r := by
  simp [analyse, parse?_eq_some_iff]

theorem map_traversal_analyse (ts : List String) :
    (analyse ts).1.map traversal = (ts.filter fun t => (parse? t).isSome).eraseDups :=
  map_eraseDups_filterMap
    (fun _ _ found => traversal_of_parse (parse?_eq_some_iff.1 found)) ts

theorem nodup_map_traversal_analyse (ts : List String) :
    ((analyse ts).1.map traversal).Nodup := by
  rw [map_traversal_analyse]
  exact nodup_eraseDups _

theorem reports_eq_nil_iff {t : String} : reports t = [] ↔ (parse? t).isSome := by
  unfold reports parse?
  cases parse t <;> simp [Except.toOption]

theorem analyse_reports_eq_nil_iff {ts : List String} :
    (analyse ts).2 = [] ↔ ∀ t ∈ ts, (parse? t).isSome := by
  simp [analyse, reports_eq_nil_iff]

theorem isPlaceless_of_analyse {ts : List String} : ∀ d ∈ (analyse ts).2, d.isPlaceless = true := by
  intro d member
  obtain ⟨t, -, member⟩ := List.mem_flatMap.1 member
  unfold reports at member
  cases read : parse t <;> simp_all [Malformed.diagnostic]

/-- A traversal of readable segments is read as one reference, with nothing to report; any other is
reported once. The reference shows that traversal and no other, its subject is as many of the
segments as its root asks for, and its path is the others. -/
theorem parse_divides (t : String) :
    ∃ root others, Text.joined root others = t ∧ (∀ s ∈ root :: others, '.' ∉ s.toList) ∧
      ((Readable root others ∧ ∃ r, parse? t = some r ∧ reports t = [] ∧ r.traversal = t ∧
          (∀ t', parse? t' = some r → t' = t) ∧
          ((root = "self" ∧ r.subject = root ∧ r.path = others) ∨
            (root = "data" ∧ ∃ type name, others = type :: name :: r.path ∧
              r.subject = Text.joined root [type, name]) ∨
            (root ≠ "self" ∧ root ≠ "data" ∧ ∃ name, others = name :: r.path ∧
              r.subject = Text.joined root [name] ∧
              (root = "count" → name = "index") ∧
              (root = "each" → name = "key" ∨ name = "value") ∧
              (root = "path" → name = "module" ∨ name = "root" ∨ name = "cwd") ∧
              (root = "terraform" → name = "workspace")))) ∨
        (¬ Readable root others ∧ parse? t = none ∧
          ∃ d, reports t = [d] ∧ d.severity = .error ∧ d.summary = "Invalid reference")) := by
  obtain ⟨shown, wholes⟩ := Text.segments_eq_iff.1 (Eq.refl (Text.segments t))
  refine ⟨(Text.segments t).1, (Text.segments t).2, shown, wholes, ?_⟩
  rw [← parse_returns_iff]
  cases read : parse t with
  | error m =>
    refine .inr ⟨by simp, by simp [parse?, read, Except.toOption], m.diagnostic, ?_, rfl, rfl⟩
    simp [reports, read]
  | ok r =>
    have found := parse?_eq_some_iff.2 read
    have silent : reports t = [] := reports_eq_nil_iff.2 (by simp [found])
    refine .inl ⟨⟨r, rfl⟩, r, found, silent, traversal_of_parse read, ?_, ?_⟩
    · intro t' same
      rw [← traversal_of_parse (parse?_eq_some_iff.1 same), traversal_of_parse read]
    · rcases ofSegments_eq_ok_iff.1 (parse_eq_ok_iff.1 read).2.2 with ⟨self, rfl⟩ |
        ⟨data, type, name, path, others, rfl⟩ | ⟨self, data, name, path, others, rfl, allowed⟩
      · exact .inl ⟨self, rfl, rfl⟩
      · exact .inr (.inl ⟨data, type, name, others, rfl⟩)
      · refine .inr (.inr ⟨self, data, name, others, rfl, ?_⟩)
        refine ⟨?_, ?_, ?_, ?_⟩ <;> intro fixed <;>
          simpa using allowed _ (congrArg fixedAttributes? fixed)

example : parse? "data.aws_ami.web.tags.0" = some ⟨"data.aws_ami.web", ["tags", "0"]⟩ := by
  decide

end Reference

end StagedChecks
