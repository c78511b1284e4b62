import StagedChecks.Proofs.Sequencing
import StagedChecks.Proofs.Writing

/-!
# Reading strings and numbers

The readers of strings, of numbers and of words take just the texts that the grammar gives these.
What is behind a text does not matter as long as the text does not go on there. An integer with too
many digits is noticed where it ends.

## Main definitions

* `Json.Explains` — what a result of a reader says about the text that was read.
* `Json.NoDigit` — what stops the reading of digits.

## Main statements

* `Json.readString_eq_ok_iff` — the strings.
* `Json.explains_readAtom` — what is read is written there.
* `Json.readMagnitude_of_integer`, `Json.readMagnitude_of_float` — the numbers that are written are
  read.
-/

namespace StagedChecks.Json

/-- What the reader of a value says about a text: it begins with a value of the data that was found,
or it comes to an integer with too many digits. That something is out of place says nothing. -/
def Explains (cs : List Char) : Reading Data → Prop
  | .ok (d, rest) => ∃ n w, Writes n w ∧ n.IsBounded ∧ n.data = d ∧ cs = w ++ rest
  | .error (.oversizedInteger k) => Stalls k cs
  | .error .malformed => True

/-- No digit comes first. -/
def NoDigit (cs : List Char) : Prop :=
  ∀ c more, cs = c :: more → c.isDigit = false

variable {cs ds rest part : List Char} {codes done : List Nat} {s : String} {n : Node} {e : Int}
  {negative : Bool}

theorem explains_ok (written : Writes n cs) (bounded : n.IsBounded) (rest : List Char) :
    Explains (cs ++ rest) (.ok (n.data, rest)) :=
  ⟨n, cs, written, bounded, rfl, rfl⟩

/-! ## White space -/

theorem skipSpace_spaces_append (blank : IsSpaces ds) (cs : List Char) :
    skipSpace (ds ++ cs) = skipSpace cs :=
  List.dropWhile_append_of_pos blank

theorem skipSpace_of_isSpaces (blank : IsSpaces cs) : skipSpace cs = [] := by
  have skipped := skipSpace_spaces_append blank []
  rwa [List.append_nil] at skipped

theorem Begins.skipSpace_eq (begins : Begins cs) : skipSpace cs = cs := by
  obtain ⟨c, more, rfl, first⟩ := begins
  have black : ¬isSpace c = true := fun space => by simp [isBoundary, space] at first
  exact List.dropWhile_cons_of_neg black

theorem skipSpace_before {c : Char} (blank : IsSpaces ds) (black : isSpace c = false)
    (cs : List Char) : skipSpace (ds ++ c :: cs) = c :: cs := by
  rw [skipSpace_spaces_append blank]
  exact List.dropWhile_cons_of_neg (by simp [black])

theorem exists_spaces (cs : List Char) : ∃ blank, IsSpaces blank ∧ cs = blank ++ skipSpace cs :=
  ⟨cs.takeWhile isSpace, List.all_eq_true.1 List.all_takeWhile,
    List.takeWhile_append_dropWhile.symm⟩

/-! ## Strings -/

theorem readCodes_of_writes (written : WritesCodes codes cs) (done : List Nat) (rest : List Char) :
    readCodes done (cs ++ '"' :: rest) = .ok (done.reverse ++ codes, rest) := by
  induction written generalizing done with
  | nil => simp [readCodes]
  | @plain c codes cs printable noQuote noEscape more ih =>
    have small : ¬c.toNat < 0x20 := by omega
    rw [List.cons_append, readCodes] <;> simp_all
  | @escape e c codes cs short more ih =>
    have noCode : e ≠ 'u' := by
      rintro rfl
      simp [shortEscape?] at short
    rw [List.cons_append, List.cons_append, readCodes] <;> simp_all
  | code hex more ih => simp [readCodes, hex, ih]

/-- What is read of a string is what is written up to its closing quote. -/
theorem exists_codes_of_readCodes (done : List Nat) (cs : List Char)
    (read : readCodes done cs = .ok (codes, rest)) :
    ∃ more w, WritesCodes more w ∧ codes = done.reverse ++ more ∧ cs = w ++ '"' :: rest := by
  fun_induction readCodes done cs with
  | case1 | case4 | case6 | case7 => cases read
  | case2 =>
    cases read
    exact ⟨[], [], .nil, by simp, rfl⟩
  | case3 done a b c d cs code hex ih =>
    obtain ⟨more, w, written, rfl, rfl⟩ := ih read
    exact ⟨_, _, .code hex written, by simp, rfl⟩
  | case5 done c cs _ c' short ih =>
    obtain ⟨more, w, written, rfl, rfl⟩ := ih read
    exact ⟨_, _, .escape short written, by simp, rfl⟩
  | case8 done c cs noQuote noCode noEscape printable ih =>
    -- A backslash would be the last character, and then there is no closing quote.
    have plain : c ≠ '\\' := by
      rintro rfl
      cases cs with
      | nil => cases read
      | cons d cs => exact noEscape d cs rfl rfl
    obtain ⟨more, w, written, rfl, rfl⟩ := ih read
    exact ⟨_, _, .plain (by omega) noQuote plain written, by simp, rfl⟩

/-- A string is read behind its opening quote exactly when it is written there. -/
theorem readString_eq_ok_iff :
    readString cs = .ok (s, rest) ↔ ∃ w, WritesString s ('"' :: w) ∧ cs = w ++ rest := by
  simp only [readString, map_eq_ok_iff, Prod.exists, Prod.mk.injEq]
  constructor
  · rintro ⟨codes, rest, read, rfl, rfl⟩
    obtain ⟨more, w, written, rfl, rfl⟩ := exists_codes_of_readCodes [] cs read
    exact ⟨w ++ ['"'], .intro written, by simp⟩
  · rintro ⟨w, written, rfl⟩
    generalize quoted : '"' :: w = q at written
    obtain @⟨codes, cs, inside⟩ := written
    cases quoted
    exact ⟨codes, rest, by simpa using readCodes_of_writes inside [] rest, rfl, rfl⟩

/-- Strings are always read to an end or found out of place. -/
theorem readCodes_ne_oversized (done : List Nat) (cs : List Char) (k : Nat) :
    readCodes done cs ≠ .error (.oversizedInteger k) := by
  fun_induction readCodes done cs <;> simp_all

/-! ## Digits -/

theorem IsDigits.append (given : IsDigits cs) (digits : ∀ c ∈ ds, c.isDigit = true) :
    IsDigits (cs ++ ds) :=
  ⟨List.append_ne_nil_of_left_ne_nil given.1 ds, List.forall_mem_append.2 ⟨given.2, digits⟩⟩

theorem takeWhile_digits (digits : ∀ c ∈ ds, c.isDigit = true) (ends : NoDigit rest) :
    (ds ++ rest).takeWhile Char.isDigit = ds ∧ (ds ++ rest).dropWhile Char.isDigit = rest := by
  rw [List.takeWhile_append_of_pos digits, List.dropWhile_append_of_pos digits]
  cases rest with
  | nil => simp
  | cons c more => simp [ends c more rfl]

theorem exists_digits (cs : List Char) :
    ∃ ds rest, (∀ c ∈ ds, c.isDigit = true) ∧ NoDigit rest ∧ cs = ds ++ rest := by
  refine ⟨cs.takeWhile Char.isDigit, cs.dropWhile Char.isDigit,
    List.all_eq_true.1 List.all_takeWhile, ?_, List.takeWhile_append_dropWhile.symm⟩
  intro c more same
  simpa [same] using List.head?_dropWhile_not Char.isDigit cs

theorem readWhole_of_isWhole (whole : IsWhole ds) (ends : NoDigit rest) :
    readWhole (ds ++ rest) = (ds, rest) := by
  rcases whole with rfl | ⟨⟨given, digits⟩, first⟩
  · rfl
  · obtain ⟨taken, left⟩ := takeWhile_digits digits ends
    unfold readWhole
    split
    next same =>
      obtain ⟨c, ds, rfl⟩ := List.exists_cons_of_ne_nil given
      cases same
      exact absurd rfl first
    next => rw [taken, left]

/-- The digits before a fraction are read as far as they go, unless they are a zero. -/
theorem readWhole_cases (cs : List Char) :
    (readWhole cs).1 = [] ∨ ∃ ds rest, IsWhole ds ∧ cs = ds ++ rest ∧ readWhole cs = (ds, rest) ∧
      (ds = ['0'] ∨ NoDigit rest) := by
  unfold readWhole
  split
  next cs => exact .inr ⟨['0'], cs, .inl rfl, rfl, rfl, .inl rfl⟩
  next noZero =>
    obtain ⟨ds, rest, digits, ends, rfl⟩ := exists_digits cs
    obtain ⟨taken, left⟩ := takeWhile_digits digits ends
    rw [taken, left]
    cases ds with
    | nil => exact .inl rfl
    | cons d ds =>
      refine .inr ⟨d :: ds, rest, .inr ⟨⟨List.cons_ne_nil _ _, digits⟩, ?_⟩, rfl, rfl, .inr ends⟩
      rintro ⟨⟩
      exact noZero _ rfl

/-! ## Fractions and exponents -/

theorem readFraction_of_writes (written : WritesFraction ds part)
    (ends : ∀ c more, rest = c :: more → c.isDigit = false ∧ c ≠ '.') :
    readFraction (part ++ rest) = (ds, rest) := by
  cases written with
  | none =>
    unfold readFraction
    split
    next same => exact absurd rfl (ends _ _ same).2
    next => rfl
  | some given =>
    obtain ⟨taken, left⟩ := takeWhile_digits given.2 fun c more same => (ends c more same).1
    simp [readFraction, taken, left, given.1]

/-- A fraction is read if one is written. -/
theorem readFraction_cases (cs : List Char) :
    ∃ ds part rest, WritesFraction ds part ∧ cs = part ++ rest ∧ readFraction cs = (ds, rest) ∧
      (part = [] →
        ∀ ds' part' more, WritesFraction ds' part' → rest = part' ++ more → part' = []) := by
  unfold readFraction
  split
  next cs =>
    obtain ⟨ds, rest, digits, ends, rfl⟩ := exists_digits cs
    obtain ⟨taken, left⟩ := takeWhile_digits digits ends
    simp only [taken, left]
    cases ds with
    | nil =>
      refine ⟨[], [], _, .none, rfl, rfl, ?_⟩
      rintro - ds' part' more (_ | ⟨given, digits⟩) same
      · rfl
      · obtain ⟨c, ds', rfl⟩ := List.exists_cons_of_ne_nil given
        cases same
        simpa [digits c] using ends c _ rfl
    | cons d ds =>
      exact ⟨d :: ds, '.' :: d :: ds, rest, .some ⟨List.cons_ne_nil _ _, digits⟩, rfl, rfl, nofun⟩
  next noPoint =>
    refine ⟨[], [], cs, .none, rfl, rfl, ?_⟩
    rintro - ds' part' more (_ | ⟨given, digits⟩) same
    · rfl
    · exact absurd same (noPoint _)

theorem readExponent_of_writes (written : WritesExponent e part) (given : part ≠ [])
    (ends : NoDigit rest) : readExponent (part ++ rest) = some (e, rest) := by
  cases written with
  | none => exact absurd rfl given
  | @positive mark sign ds marks signs digits =>
    obtain ⟨taken, left⟩ := takeWhile_digits digits.2 ends
    rcases signs with rfl | rfl
    · obtain ⟨d, ds, rfl⟩ := List.exists_cons_of_ne_nil digits.1
      have unsigned : d ≠ '-' ∧ d ≠ '+' := by
        have digit := digits.2 d (List.mem_cons_self ..)
        constructor <;> rintro rfl <;> exact absurd digit (by decide)
      simp_all [readExponent]
    · simp [readExponent, marks, taken, left, digits.1]
  | negative marks digits =>
    obtain ⟨taken, left⟩ := takeWhile_digits digits.2 ends
    simp [readExponent, marks, taken, left, digits.1]

theorem exists_exponent_of_readExponent (read : readExponent cs = some (e, rest)) :
    ∃ part, WritesExponent e part ∧ part ≠ [] ∧ cs = part ++ rest := by
  unfold readExponent at read
  split at read
  next => cases read
  next mark more =>
    split at read
    next marks =>
      simp only [Bool.or_eq_true, decide_eq_true_eq] at marks
      split at read
      next negative unsigned signed =>
        obtain ⟨ds, rest, digits, ends, rfl⟩ := exists_digits unsigned
        obtain ⟨taken, left⟩ := takeWhile_digits digits ends
        simp only [taken, left] at read
        split at read
        next => cases read
        next some =>
          have given : IsDigits ds := ⟨by simpa using some, digits⟩
          cases read
          split at signed <;> cases signed
          · exact ⟨_, .negative marks given, List.cons_ne_nil _ _, rfl⟩
          · exact ⟨_, .positive marks (.inr rfl) given, List.cons_ne_nil _ _, rfl⟩
          · exact ⟨_, .positive marks (.inl rfl) given, List.cons_ne_nil _ _, rfl⟩
    next => cases read

/-- No exponent is read only where none is written, not even before more digits. -/
theorem readExponent_eq_none_iff :
    readExponent cs = none ↔
      ∀ e part more, WritesExponent e part → cs = part ++ more → part = [] := by
  constructor
  · intro read e part more written same
    refine Decidable.byContradiction fun some => ?_
    obtain ⟨ds, rest, digits, ends, rfl⟩ := exists_digits more
    obtain ⟨e', longer⟩ : ∃ e', WritesExponent e' (part ++ ds) := by
      cases written with
      | none => exact absurd rfl some
      | positive marks signs given =>
        rw [List.append_assoc]
        exact ⟨_, .positive marks signs (given.append digits)⟩
      | negative marks given => exact ⟨_, .negative marks (given.append digits)⟩
    have found := readExponent_of_writes longer (by simp [some]) ends
    simp [List.append_assoc, ← same, read] at found
  · intro none
    rcases read : readExponent cs with _ | ⟨e, rest⟩
    · rfl
    · obtain ⟨part, written, given, same⟩ := exists_exponent_of_readExponent read
      exact absurd (none e part rest written same) given

/-! ## Numbers -/

/-- A number from the digits before its fraction, those of the fraction, and what is behind. -/
theorem readMagnitude_eq {fs rest' : List Char} (front : readWhole cs = (ds, rest)) (some : ds ≠ [])
    (fraction : readFraction rest = (fs, rest')) :
    readMagnitude negative cs =
      match readExponent rest' with
      | .some (e, rest) => .ok (readMagnitude.decimal negative ds fs e, rest)
      | .none =>
        if fs ≠ [] then .ok (readMagnitude.decimal negative ds fs 0, rest')
        else if numeralLimit < ds.length then .error (.oversizedInteger ds.length)
        else .ok ((Node.integer negative ds).data, rest') := by
  simp only [readMagnitude, front, fraction, List.isEmpty_iff, some, if_false, Node.data]
  split <;> simp_all

/-- The data of an integer, and a failure if it has too many digits. -/
theorem readMagnitude_of_integer (whole : IsWhole ds) (ends : EndsInteger rest) :
    readMagnitude negative (ds ++ rest) =
      if numeralLimit < ds.length then .error (.oversizedInteger ds.length)
      else .ok ((Node.integer negative ds).data, rest) := by
  have fraction : readFraction rest = ([], rest) := by
    obtain ⟨ds', part, rest', written, rfl, read, -⟩ := readFraction_cases rest
    obtain rfl := ends.fraction _ _ _ written rfl
    cases written
    exact read
  rw [readMagnitude_eq (readWhole_of_isWhole whole ends.digit) whole.isDigits.1 fraction,
    readExponent_eq_none_iff.2 ends.exponent]
  simp

theorem WritesFraction.noDigit (written : WritesFraction ds part) (ends : NoDigit rest) :
    NoDigit (part ++ rest) := by
  intro c more same
  cases written with
  | none => exact ends c more same
  | some => cases same; decide

theorem WritesExponent.not_number (written : WritesExponent e part)
    (ends : ∀ c more, rest = c :: more → c.isDigit = false ∧ c ≠ '.') (c : Char) (more : List Char)
    (same : part ++ rest = c :: more) : c.isDigit = false ∧ c ≠ '.' := by
  cases written with
  | none => exact ends c more same
  | positive marks => cases same; obtain rfl | rfl := marks <;> decide
  | negative marks => cases same; obtain rfl | rfl := marks <;> decide

theorem readMagnitude_of_float {front fraction mark : List Char} (whole : IsWhole front)
    (fractional : WritesFraction ds fraction) (exponential : WritesExponent e mark)
    (noInteger : fraction ++ mark ≠ []) (ends : Ends rest) :
    readMagnitude negative (front ++ (fraction ++ (mark ++ rest))) =
      .ok (readMagnitude.decimal negative front ds e, rest) := by
  have stop (c : Char) (more : List Char) (same : rest = c :: more) : c.isDigit = false ∧ c ≠ '.' :=
    ⟨(ends.not_number c more same).1, (ends.not_number c more same).2.1⟩
  have first := exponential.not_number stop
  rw [readMagnitude_eq
    (readWhole_of_isWhole whole (fractional.noDigit fun c more same => (first c more same).1))
    whole.isDigits.1 (readFraction_of_writes fractional first)]
  by_cases marked : mark = []
  · subst marked
    cases exponential
    cases fractional with
    | none => exact absurd rfl noInteger
    | some digits =>
      simp [readExponent_eq_none_iff.2 ends.endsInteger.exponent, digits.1]
  · simp [readExponent_of_writes exponential marked fun c more same => (stop c more same).1]

/-- What is read of a number behind its sign is written there. -/
theorem explains_readMagnitude (negative : Bool) (cs : List Char) :
    Explains (sign negative ++ cs) (readMagnitude negative cs) := by
  obtain none | ⟨ds, cs, whole, rfl, front, ends⟩ := readWhole_cases cs
  · simp [readMagnitude, none, Explains]
  obtain ⟨fs, part, rest, fractional, rfl, fraction, noFraction⟩ := readFraction_cases cs
  rw [readMagnitude_eq front whole.isDigits.1 fraction]
  rcases exponent : readExponent rest with _ | ⟨e, rest'⟩
  · cases fractional with
    | none =>
      by_cases large : numeralLimit < ds.length
      · have long : ds ≠ ['0'] := by
          rintro rfl
          exact absurd large (by decide)
        have stalls := Stalls.integer negative whole rfl large
          ⟨ends.resolve_left long, noFraction rfl, readExponent_eq_none_iff.1 exponent⟩
        simpa [large, Explains] using stalls
      · have bounded : (Node.integer negative ds).IsBounded :=
          Node.isBounded_integer_iff.2 (Nat.le_of_not_lt large)
        simpa [large] using explains_ok (.integer negative whole) bounded rest
    | some digits =>
      have written := Writes.float negative whole (.some digits) .none (by simp)
      simpa [digits.1, readMagnitude.decimal, Node.data] using
        explains_ok written (Node.isBounded_float _) rest
  · obtain ⟨mark, exponential, marked, rfl⟩ := exists_exponent_of_readExponent exponent
    have written := Writes.float negative whole fractional exponential (by simp [marked])
    simpa [readMagnitude.decimal, Node.data] using
      explains_ok written (Node.isBounded_float _) rest'

/-! ## Words -/

/-- What begins with a sign or a digit is read as a number. -/
theorem readAtom_of_isWhole (whole : IsWhole ds) (rest : List Char) :
    readAtom (sign negative ++ ds ++ rest) = readMagnitude negative (ds ++ rest) := by
  obtain ⟨given, digits⟩ := whole.isDigits
  obtain ⟨d, ds, rfl⟩ := List.exists_cons_of_ne_nil given
  have digit := digits d (List.mem_cons_self ..)
  cases negative with
  | true =>
    rw [sign, if_pos rfl, List.append_assoc, List.singleton_append, readAtom]
    intro cs same
    cases (List.cons.inj same).1
    exact absurd digit (by decide)
  | false =>
    rw [sign, if_neg Bool.false_ne_true, List.nil_append, readAtom]
    all_goals
      intro cs same
      cases (List.cons.inj same).1
      exact absurd digit (by decide)

theorem explains_word (known : (n, cs) ∈ words) (rest : List Char) :
    Explains (cs ++ rest) (.ok (n.data, rest)) :=
  explains_ok (.word known) (isBounded_of_mem_words known) rest

/-- What is read of a number or a word is written there. -/
theorem explains_readAtom (cs : List Char) : Explains cs (readAtom cs) := by
  unfold readAtom
  split
  next cs => exact explains_word (List.mem_of_getElem? (i := 0) rfl) cs
  next cs => exact explains_word (List.mem_of_getElem? (i := 1) rfl) cs
  next cs => exact explains_word (List.mem_of_getElem? (i := 2) rfl) cs
  next cs => exact explains_word (List.mem_of_getElem? (i := 3) rfl) cs
  next cs => exact explains_word (List.mem_of_getElem? (i := 4) rfl) cs
  next cs => exact explains_word (List.mem_of_getElem? (i := 5) rfl) cs
  next cs _ => exact explains_readMagnitude true cs
  next => exact explains_readMagnitude false cs

end StagedChecks.Json
