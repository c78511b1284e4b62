import StagedChecks.Proofs.Reading

/-!
# Reading documents

What the reader finds is written at the front of the text, and so is an integer with too many digits
that it came to. With this and the reading of what is written, the texts that are read are those of
documents whose integers are within the limit, and the data that is found is that of the document.

## Main definitions

* `Json.ExplainsItems`, `Json.ExplainsMembers` — what a result of a reader says about the inside of
  an array or an object.

## Main statements

* `Json.explains_readValue` — what is read is written there.
* `Json.read_eq_ok_iff` — the documents that are read, and their data.
* `Json.read_eq_oversized_iff` — the texts that come to an integer with too many digits.
-/

namespace StagedChecks.Json

/-- What the reader of the items of an array says about a text, where `done` are the items before,
newest first. -/
def ExplainsItems (done : List Data) (cs : List Char) : Reading Data → Prop
  | .ok (d, rest) => ∃ (i : Item) (items : List Item) (w : List Char),
      (∀ j ∈ i :: items, j.IsWritten) ∧ Separated ((i :: items).map Item.written) w ∧
      d = .list (done.reverse ++ (i :: items).map (·.node.data)) ∧ cs = w ++ ']' :: rest
  | .error (.oversizedInteger k) => ∃ (items : List Item) (lead tail : List Char),
      (∀ i ∈ items, i.IsWritten) ∧ Led (items.map Item.written) lead ∧ Stalls k tail ∧
      cs = lead ++ tail
  | .error .malformed => True

/-- What the reader of the members of an object says about a text, where `done` are the entries
before. -/
def ExplainsMembers (done : Table Data) (cs : List Char) : Reading Data → Prop
  | .ok (d, rest) => ∃ (m : Member) (members : List Member) (w : List Char),
      (∀ m' ∈ m :: members, m'.IsWritten) ∧ Separated ((m :: members).map Member.text) w ∧
      d = .object (Table.merge done ((m :: members).map Member.entry)) ∧ cs = w ++ '\x7d' :: rest
  | .error (.oversizedInteger k) => ∃ (members : List Member) (lead label tail : List Char)
      (name : String), (∀ m ∈ members, m.IsWritten) ∧ Led (members.map Member.text) lead ∧
      WritesLabel name label ∧ Stalls k tail ∧ cs = lead ++ label ++ tail
  | .error .malformed => True

variable {n : Node} {cs ds rest before after : List Char} {fuel k : Nat} {text : String} {d : Data}

theorem Separated.cons (part : List Char) {parts : List (List Char)} (blank : IsSpaces before)
    (some : parts ≠ []) (separated : Separated parts cs) :
    Separated (part :: parts) (part ++ before ++ ',' :: cs) := by
  cases separated with
  | none => exact absurd rfl some
  | @some lead last after parts led blank' =>
    have led' : Led (part :: parts) _ := .cons (List.forall_mem_nil _) blank led
    have separated : Separated ((part :: parts) ++ [last]) _ := .some led' blank'
    simpa using separated

theorem Separated.spaces_append {parts : List (List Char)} (blank : IsSpaces ds)
    (separated : Separated parts cs) : Separated parts (ds ++ cs) := by
  cases separated with
  | none blank' => exact .none (blank.append blank')
  | some led blank' =>
    simpa only [List.append_assoc] using Separated.some (led.spaces_append blank) blank'

/-- The items of an array from the first of them on. -/
theorem ExplainsItems.cons {done : List Data} {i : Item} {reading : Reading Data}
    (written : i.IsWritten) (blank : IsSpaces before) (blank' : IsSpaces after)
    (explains : ExplainsItems (i.node.data :: done) cs reading) :
    ExplainsItems done (i.written ++ before ++ ',' :: (after ++ cs)) reading := by
  rcases reading with (_ | k) | ⟨d, rest⟩
  · trivial
  · obtain ⟨items, lead, tail, each, led, stalls, rfl⟩ := explains
    have led' : Led (i.written :: _) _ :=
      .cons (List.forall_mem_nil _) blank (led.spaces_append blank')
    exact ⟨i :: items, _, tail, List.forall_mem_cons.2 ⟨written, each⟩, led', stalls, by simp⟩
  · obtain ⟨j, items, w, each, separated, rfl, rfl⟩ := explains
    have separated' := (separated.spaces_append blank').cons i.written blank (by simp)
    exact ⟨i, j :: items, _, List.forall_mem_cons.2 ⟨written, each⟩, separated', by simp, by simp⟩

/-- The members of an object from the first of them on. -/
theorem ExplainsMembers.cons {entries : Table Data} {m : Member} {reading : Reading Data}
    (written : m.IsWritten) (blank : IsSpaces before) (blank' : IsSpaces after)
    (explains : ExplainsMembers (Table.put entries m.name m.node.data) cs reading) :
    ExplainsMembers entries (m.text ++ before ++ ',' :: (after ++ cs)) reading := by
  rcases reading with (_ | k) | ⟨d, rest⟩
  · trivial
  · obtain ⟨members, lead, label, tail, name, each, led, named, stalls, rfl⟩ := explains
    have led' : Led (m.text :: _) _ :=
      .cons (List.forall_mem_nil _) blank (led.spaces_append blank')
    exact ⟨m :: members, _, label, tail, name, List.forall_mem_cons.2 ⟨written, each⟩, led', named,
      stalls, by simp⟩
  · obtain ⟨m', members, w, each, separated, rfl, rfl⟩ := explains
    have separated' := (separated.spaces_append blank').cons m.text blank (by simp)
    exact ⟨m, m' :: members, _, List.forall_mem_cons.2 ⟨written, each⟩, separated', rfl, by simp⟩

/-- One more item is explained by what is behind it. -/
theorem explains_readItems_succ (value : ∀ cs, Explains cs (readValue fuel cs))
    (more : ∀ done cs, ExplainsItems done cs (readItems fuel done cs)) (done : List Data)
    (cs : List Char) : ExplainsItems done cs (readItems (fuel + 1) done cs) := by
  have first := value cs
  rw [readItems]
  rcases read : readValue fuel cs with (_ | k) | ⟨d, rest⟩ <;> rw [read] at first
  · trivial
  · exact ⟨[], [], cs, by simp, .nil (List.forall_mem_nil _), first, rfl⟩
  obtain ⟨n, w, written, bounded, rfl, rfl⟩ := first
  have item : (Item.mk n w).IsWritten := ⟨written, bounded⟩
  obtain ⟨before, blank, split⟩ := exists_spaces rest
  dsimp only
  split
  next rest' same =>
    obtain ⟨after, blank', split'⟩ := exists_spaces rest'
    have here := (more (n.data :: done) (skipSpace rest')).cons item blank blank'
    rwa [← split', List.append_assoc, ← same, ← split] at here
  next rest' same =>
    rw [split, same]
    exact ⟨⟨n, w⟩, [], w ++ before, by simpa using item, .some (.nil (List.forall_mem_nil _)) blank,
      by simp, by simp⟩
  next => trivial

theorem readString_ne_oversized (cs : List Char) (k : Nat) :
    readString cs ≠ .error (.oversizedInteger k) :=
  fun read => readCodes_ne_oversized [] cs k (map_eq_error_iff.1 read)

/-- The name of a member and its colon are read, or something is out of place there. -/
theorem readEntries_cases (fuel : Nat) (entries : Table Data) (cs : List Char) :
    readEntries (fuel + 1) entries cs = .error .malformed ∨
      ∃ name label tail, WritesLabel name label ∧ cs = label ++ tail ∧
        readEntries (fuel + 1) entries cs = goOn fuel entries name (readValue fuel tail) := by
  rw [readEntries.eq_def]
  dsimp only
  split
  next cs =>
    rcases read : readString cs with (_ | k) | ⟨name, rest⟩
    · exact .inl rfl
    · exact absurd read (readString_ne_oversized cs k)
    obtain ⟨w, string, rfl⟩ := readString_eq_ok_iff.1 read
    obtain ⟨before, blank, split⟩ := exists_spaces rest
    dsimp only
    split
    next rest' same =>
      obtain ⟨after, blank', split'⟩ := exists_spaces rest'
      rw [same, split'] at split
      exact .inr ⟨name, _, skipSpace rest', .intro string blank blank', by simp [split], rfl⟩
    next => exact .inl rfl
  next => exact .inl rfl

/-- One more member is explained by what is behind it. -/
theorem explains_readEntries_succ (value : ∀ cs, Explains cs (readValue fuel cs))
    (more : ∀ entries cs, ExplainsMembers entries cs (readEntries fuel entries cs))
    (entries : Table Data) (cs : List Char) :
    ExplainsMembers entries cs (readEntries (fuel + 1) entries cs) := by
  obtain bad | ⟨name, label, tail, named, rfl, step⟩ := readEntries_cases fuel entries cs
  · rw [bad]
    trivial
  rw [step]
  have first := value tail
  rcases read : readValue fuel tail with (_ | k) | ⟨d, rest⟩ <;> rw [read] at first
  · trivial
  · exact ⟨[], [], label, tail, name, by simp, .nil (List.forall_mem_nil _), named, first, rfl⟩
  obtain ⟨n, w, written, bounded, rfl, rfl⟩ := first
  have member : (Member.mk name n label w).IsWritten := ⟨named, written, bounded⟩
  obtain ⟨before, blank, split⟩ := exists_spaces rest
  rw [goOn]
  split
  next rest' same =>
    obtain ⟨after, blank', split'⟩ := exists_spaces rest'
    have here := (more (Table.put entries name n.data) (skipSpace rest')).cons member blank blank'
    rwa [← split', Member.text, List.append_assoc, List.append_assoc, ← same, ← split] at here
  next rest' same =>
    rw [split, same]
    exact ⟨⟨name, n, label, w⟩, [], label ++ w ++ before, by simpa using member,
      .some (.nil (List.forall_mem_nil _)) blank, rfl, by simp⟩
  next => trivial

theorem ExplainsItems.array {reading : Reading Data} (blank : IsSpaces before)
    (explains : ExplainsItems [] cs reading) : Explains ('[' :: (before ++ cs)) reading := by
  rcases reading with (_ | k) | ⟨d, rest⟩
  · trivial
  · obtain ⟨items, lead, tail, each, led, stalls, rfl⟩ := explains
    have here := Stalls.array each (led.spaces_append blank) stalls
    rwa [List.cons_append, List.append_assoc] at here
  · obtain ⟨i, items, w, each, separated, rfl, rfl⟩ := explains
    have written := Writes.array (fun j here => (each j here).1) (separated.spaces_append blank)
    have bounded := Node.isBounded_array_iff.2 (List.forall_mem_map.2 fun j here => (each j here).2)
    exact ⟨_, _, written, bounded, data_array _, by simp⟩

theorem ExplainsMembers.object {reading : Reading Data} (blank : IsSpaces before)
    (explains : ExplainsMembers [] cs reading) : Explains ('\x7b' :: (before ++ cs)) reading := by
  rcases reading with (_ | k) | ⟨d, rest⟩
  · trivial
  · obtain ⟨members, lead, label, tail, name, each, led, named, stalls, rfl⟩ := explains
    have here := Stalls.object each (led.spaces_append blank) named stalls
    simpa [Explains] using here
  · obtain ⟨m, members, w, each, separated, rfl, rfl⟩ := explains
    have written := Writes.object (fun m' here => (each m' here).1)
      (fun m' here => (each m' here).2.1) (separated.spaces_append blank)
    have bounded : (Node.object ((m :: members).map fun m => (m.name, m.node))).IsBounded :=
      Node.isBounded_object_iff.2 (List.forall_mem_map.2 fun m' here => (each m' here).2.2)
    exact ⟨_, _, written, bounded, data_object _, by simp⟩

theorem explains_readValue_succ (items : ∀ done cs, ExplainsItems done cs (readItems fuel done cs))
    (members : ∀ entries cs, ExplainsMembers entries cs (readEntries fuel entries cs))
    (cs : List Char) : Explains cs (readValue (fuel + 1) cs) := by
  rw [readValue.eq_def]
  dsimp only
  split
  next cs =>
    rcases read : readString cs with (_ | k) | ⟨s, rest⟩
    · trivial
    · exact absurd read (readString_ne_oversized cs k)
    · obtain ⟨w, string, rfl⟩ := readString_eq_ok_iff.1 read
      exact explains_ok (.text string) (by simp [Node.IsBounded, Node.numerals]) rest
  next cs =>
    obtain ⟨before, blank, same⟩ := exists_spaces cs
    split
    next rest close =>
      rw [same, close]
      have none : ∀ i ∈ ([] : List Item), Writes i.node i.written := List.forall_mem_nil _
      simpa [Node.data, Node.dataOfItems] using
        explains_ok (.array none (.none blank)) (by simp) rest
    next => simpa [← same] using (items [] (skipSpace cs)).array blank
  next cs =>
    obtain ⟨before, blank, same⟩ := exists_spaces cs
    split
    next rest close =>
      rw [same, close]
      have none : ∀ m ∈ ([] : List Member), Writes m.node m.written := List.forall_mem_nil _
      simpa [Node.data, Node.dataOfMembers, Table.ofPairs] using
        explains_ok (.object (List.forall_mem_nil _) none (.none blank)) (by simp) rest
    next => simpa [← same] using (members [] (skipSpace cs)).object blank
  next => exact explains_readAtom cs

/-- What the reader finds at the front of a text is written there, and so is an integer with too
many digits that it came to. -/
theorem explains_readValue (fuel : Nat) :
    (∀ cs, Explains cs (readValue fuel cs)) ∧
      (∀ done cs, ExplainsItems done cs (readItems fuel done cs)) ∧
      ∀ entries cs, ExplainsMembers entries cs (readEntries fuel entries cs) := by
  -- The readers call each other with less fuel, so one induction carries all three.
  induction fuel with
  | zero => exact ⟨fun _ => trivial, fun _ _ => trivial, fun _ _ => trivial⟩
  | succ fuel ih =>
    obtain ⟨value, items, members⟩ := ih
    exact ⟨explains_readValue_succ items members, explains_readItems_succ value items,
      explains_readEntries_succ value members⟩

/-! ## Documents -/

/-- A document is read exactly when it is one and its integers are within the limit; its data is
what is written. -/
theorem read_eq_ok_iff :
    read text = .ok d ↔ ∃ n, WritesDocument n text ∧ n.IsBounded ∧ n.data = d := by
  unfold read
  constructor
  · intro done
    obtain ⟨before, blank, split⟩ := exists_spaces text.toList
    have value := (explains_readValue (2 * text.toList.length + 2)).1 (skipSpace text.toList)
    dsimp only at done
    split at done
    next => cases done
    next d rest found =>
      rw [found] at value
      obtain ⟨n, w, written, bounded, rfl, same⟩ := value
      obtain ⟨after, blank', split'⟩ := exists_spaces rest
      split at done
      next closed =>
        cases done
        rw [List.isEmpty_iff.1 closed, List.append_nil] at split'
        subst split'
        have whole : text.toList = before ++ w ++ rest := by rw [split, same, List.append_assoc]
        exact ⟨n, ⟨before, w, rest, blank, written, blank', whole⟩, bounded, rfl⟩
      next => cases done
  · rintro ⟨n, ⟨before, cs, after, blank, written, blank', same⟩, bounded, rfl⟩
    have start : skipSpace text.toList = cs ++ after := by
      rw [same, List.append_assoc, skipSpace_spaces_append blank,
        (written.begins.append after).skipSpace_eq]
    have enough : cs.length ≤ 2 * text.toList.length + 2 := by
      simp only [same, List.length_append]
      omega
    simp [start, written.isRead bounded blank'.ends enough, skipSpace_of_isSpaces blank']

/-- A document is given up for an integer with too many digits exactly when its text comes to
one. -/
theorem read_eq_oversized_iff :
    read text = .error (.oversizedInteger k) ↔ StallsDocument k text := by
  unfold read
  constructor
  · intro given
    obtain ⟨before, blank, split⟩ := exists_spaces text.toList
    have value := (explains_readValue (2 * text.toList.length + 2)).1 (skipSpace text.toList)
    dsimp only at given
    split at given
    next failure found =>
      cases given
      rw [found] at value
      exact ⟨before, _, blank, value, split⟩
    next => split at given <;> cases given
  · rintro ⟨before, cs, blank, stalls, same⟩
    have start : skipSpace text.toList = cs := by
      rw [same, skipSpace_spaces_append blank, stalls.begins.skipSpace_eq]
    have enough : 2 * cs.length ≤ 2 * text.toList.length + 2 := by
      simp only [same, List.length_append]
      omega
    simp [start, readValue_of_stalls stalls enough]

theorem WritesDocument.bounded_or_stalls (written : WritesDocument n text) :
    n.IsBounded ∨ ∃ k, StallsDocument k text := by
  obtain ⟨before, cs, after, blank, value, blank', same⟩ := written
  refine (value.bounded_or_stalls blank'.ends).imp_right ?_
  rintro ⟨k, stalls⟩
  exact ⟨k, before, _, blank, stalls, by simp [same]⟩

theorem WritesDocument.not_stalls (written : WritesDocument n text) (bounded : n.IsBounded)
    (k : Nat) : ¬StallsDocument k text := by
  intro stalls
  have read := read_eq_ok_iff.2 ⟨n, written, bounded, rfl⟩
  simp [read_eq_oversized_iff.2 stalls] at read

/-- A text that is written in two ways has the same data in both. -/
theorem WritesDocument.data_eq {n' : Node} (written : WritesDocument n text) (bounded : n.IsBounded)
    (written' : WritesDocument n' text) : n'.data = n.data := by
  have bounded' : n'.IsBounded :=
    written'.bounded_or_stalls.resolve_right fun ⟨k, stalls⟩ => written.not_stalls bounded k stalls
  have read := read_eq_ok_iff.2 ⟨n, written, bounded, rfl⟩
  have read' := read_eq_ok_iff.2 ⟨n', written', bounded', rfl⟩
  exact Except.ok.inj (read'.symm.trans read)

end StagedChecks.Json
