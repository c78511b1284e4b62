import StagedChecks.Proofs.Scanning

/-!
# Reading what is written

A value is read wherever it is written, unless it has an integer with too many digits. Such an
integer is noticed before anything that is out of place behind it.

## Main definitions

* `Json.IsRead` — a value is read wherever it is written.
* `Json.goOn` — how the reader of an object goes on behind the value of a member.

## Main statements

* `Json.readItems_of_led`, `Json.readEntries_of_led` — the items of an array and the members of an
  object are read one after the other.
* `Json.Writes.isRead` — values without large integers are read where they are written.
* `Json.readValue_of_stalls` — a large integer is noticed.
-/

namespace StagedChecks.Json

/-- A value is read wherever it is written, with fuel for its characters. -/
def IsRead (n : Node) (cs : List Char) : Prop :=
  ∀ ⦃fuel : Nat⦄ ⦃rest : List Char⦄, Ends rest → cs.length ≤ fuel →
    readValue fuel (cs ++ rest) = .ok (n.data, rest)

/-- What a member adds to a table. -/
def Member.entry (m : Member) : String × Data :=
  (m.name, m.node.data)

variable {n : Node} {cs ds rest lead tail before after : List Char} {fuel k : Nat} {name : String}
  {d : Data} {items : List Item} {members : List Member}

theorem data_array (items : List Item) :
    (Node.array (items.map Item.node)).data = .list (items.map (·.node.data)) := by
  rw [Node.data, Node.dataOfItems_eq, List.map_map]
  rfl

theorem data_object (members : List Member) :
    (Node.object (members.map fun m => (m.name, m.node))).data =
      .object (Table.ofPairs (members.map Member.entry)) := by
  rw [Node.data, Node.dataOfMembers_eq, Table.mapValues, List.map_map]
  rfl

theorem Begins.ne_cons (begins : Begins cs) {c : Char} (boundary : isBoundary c = true) :
    cs ≠ c :: rest := by
  obtain ⟨c', more, rfl, first⟩ := begins
  rintro ⟨⟩
  simp [boundary] at first

theorem Begins.length_pos (begins : Begins cs) : 0 < cs.length := by
  obtain ⟨c, more, rfl, -⟩ := begins
  exact Nat.succ_pos _

/-! ## One step of a reader -/

theorem readValue_array (begins : Begins (skipSpace cs)) :
    readValue (fuel + 1) ('[' :: cs) = readItems fuel [] (skipSpace cs) := by
  rw [readValue]
  split
  next same => exact absurd same (begins.ne_cons (by decide))
  next => rfl

theorem readValue_object (begins : Begins (skipSpace cs)) :
    readValue (fuel + 1) ('\x7b' :: cs) = readEntries fuel [] (skipSpace cs) := by
  rw [readValue]
  split
  next same => exact absurd same (begins.ne_cons (by decide))
  next => rfl

theorem readItems_comma (done : List Data)
    (read : readValue fuel cs = .ok (d, before ++ ',' :: rest)) (blank : IsSpaces before) :
    readItems (fuel + 1) done cs = readItems fuel (d :: done) (skipSpace rest) := by
  simp [readItems, read, skipSpace_before (c := ',') blank rfl]

theorem readItems_close (done : List Data)
    (read : readValue fuel cs = .ok (d, before ++ ']' :: rest)) (blank : IsSpaces before) :
    readItems (fuel + 1) done cs = .ok (.list (done.reverse ++ [d]), rest) := by
  simp [readItems, read, skipSpace_before (c := ']') blank rfl]

/-- What the reader of the members of an object makes of the value of one that has a name. -/
def goOn (fuel : Nat) (entries : Table Data) (name : String) : Reading Data → Reading Data
  | .error failure => .error failure
  | .ok (d, rest) =>
    match skipSpace rest with
    | ',' :: rest => readEntries fuel (Table.put entries name d) (skipSpace rest)
    | '\x7d' :: rest => .ok (.object (Table.put entries name d), rest)
    | _ => .error .malformed

/-- Behind the name of a member its value is read. -/
theorem readEntries_label (entries : Table Data) (named : WritesLabel name ds)
    (begins : Begins cs) :
    readEntries (fuel + 1) entries (ds ++ cs) = goOn fuel entries name (readValue fuel cs) := by
  obtain @⟨quoted, before, after, string, blank, blank'⟩ := named
  obtain ⟨w, rfl⟩ : ∃ w, quoted = '"' :: w := by
    cases string
    exact ⟨_, rfl⟩
  have read : readString (w ++ (before ++ ':' :: (after ++ cs))) =
      .ok (name, before ++ ':' :: (after ++ cs)) :=
    readString_eq_ok_iff.2 ⟨w, string, rfl⟩
  have start : skipSpace (after ++ cs) = cs := by
    rw [skipSpace_spaces_append blank', begins.skipSpace_eq]
  simp only [readEntries, List.cons_append, List.append_assoc, read,
    skipSpace_before (c := ':') blank rfl, start]
  rfl

theorem readEntries_comma (entries : Table Data) (named : WritesLabel name ds) (begins : Begins cs)
    (read : readValue fuel cs = .ok (d, before ++ ',' :: rest)) (blank : IsSpaces before) :
    readEntries (fuel + 1) entries (ds ++ cs) =
      readEntries fuel (Table.put entries name d) (skipSpace rest) := by
  simp [readEntries_label entries named begins, read, goOn, skipSpace_before (c := ',') blank rfl]

theorem readEntries_close (entries : Table Data) (named : WritesLabel name ds) (begins : Begins cs)
    (read : readValue fuel cs = .ok (d, before ++ '\x7d' :: rest)) (blank : IsSpaces before) :
    readEntries (fuel + 1) entries (ds ++ cs) = .ok (.object (Table.put entries name d), rest) := by
  simp [readEntries_label entries named begins, read, goOn,
    skipSpace_before (c := '\x7d') blank rfl]

/-! ## What is written is read -/

theorem Led.length_le {parts : List (List Char)} (led : Led parts cs) :
    parts.length ≤ cs.length := by
  induction led with
  | nil => exact Nat.zero_le _
  | cons _ _ _ ih => simp; omega

/-- Behind some parts begins what stands behind them, or the first of them. -/
theorem Led.begins {parts : List (List Char)} (led : Led parts lead)
    (each : ∀ part ∈ parts, Begins part) (begins : Begins tail) :
    Begins (skipSpace (lead ++ tail)) := by
  cases led with
  | nil blank => rwa [skipSpace_spaces_append blank, begins.skipSpace_eq]
  | @cons before part after cs parts blank blank' more =>
    have first := (each part (List.mem_cons_self ..)).append (after ++ ',' :: (cs ++ tail))
    simpa [skipSpace_spaces_append blank, first.skipSpace_eq] using first

/-- The items before a place in an array are read one after the other. -/
theorem readItems_of_led (led : Led (items.map Item.written) lead)
    (each : ∀ i ∈ items, Begins i.written ∧ IsRead i.node i.written) (begins : Begins tail)
    (done : List Data) (enough : lead.length ≤ items.length + fuel) :
    readItems (items.length + fuel) done (skipSpace (lead ++ tail)) =
      readItems fuel ((items.map (·.node.data)).reverse ++ done) tail := by
  induction items generalizing lead done with
  | nil =>
    obtain @⟨_, blank⟩ := led
    simp [skipSpace_spaces_append blank, begins.skipSpace_eq]
  | cons i items ih =>
    obtain ⟨⟨first, read⟩, each⟩ := List.forall_mem_cons.1 each
    cases led with
    | @cons before _ after cs _ blank blank' more =>
      -- The comma pays for the fuel that the item takes.
      simp only [List.length_append, List.length_cons] at enough
      have text : skipSpace (before ++ i.written ++ after ++ ',' :: cs ++ tail) =
          i.written ++ (after ++ ',' :: (cs ++ tail)) := by
        have here := first.append (after ++ ',' :: (cs ++ tail))
        simpa [skipSpace_spaces_append blank] using here.skipSpace_eq
      have here : readValue (items.length + fuel) (i.written ++ (after ++ ',' :: (cs ++ tail))) =
          .ok (i.node.data, after ++ ',' :: (cs ++ tail)) :=
        read ((ends_cons (by decide) _).spaces_append blank') (by omega)
      rw [List.length_cons, Nat.add_right_comm, text, readItems_comma done here blank',
        ih more each _ (by omega)]
      simp

theorem WritesLabel.begins (named : WritesLabel name cs) : Begins cs := by
  obtain @⟨_, _, _, ⟨_⟩, -, -⟩ := named
  exact ⟨_, _, rfl, by decide⟩

/-- The members before a place in an object are read one after the other. -/
theorem readEntries_of_led (led : Led (members.map Member.text) lead)
    (each : ∀ m ∈ members, WritesLabel m.name m.label ∧ Begins m.written ∧ IsRead m.node m.written)
    (begins : Begins tail) (entries : Table Data) (enough : lead.length ≤ members.length + fuel) :
    readEntries (members.length + fuel) entries (skipSpace (lead ++ tail)) =
      readEntries fuel (Table.merge entries (members.map Member.entry)) tail := by
  induction members generalizing lead entries with
  | nil =>
    obtain @⟨_, blank⟩ := led
    simp [skipSpace_spaces_append blank, begins.skipSpace_eq]
  | cons m members ih =>
    obtain ⟨⟨named, first, read⟩, each⟩ := List.forall_mem_cons.1 each
    cases led with
    | @cons before _ after cs _ blank blank' more =>
      simp only [List.length_append, List.length_cons, Member.text] at enough
      have text : skipSpace (before ++ m.text ++ after ++ ',' :: cs ++ tail) =
          m.label ++ (m.written ++ (after ++ ',' :: (cs ++ tail))) := by
        have here := named.begins.append (m.written ++ (after ++ ',' :: (cs ++ tail)))
        simpa [skipSpace_spaces_append blank, Member.text] using here.skipSpace_eq
      have here : readValue (members.length + fuel) (m.written ++ (after ++ ',' :: (cs ++ tail))) =
          .ok (m.node.data, after ++ ',' :: (cs ++ tail)) :=
        read ((ends_cons (by decide) _).spaces_append blank') (by omega)
      rw [List.length_cons, Nat.add_right_comm, text,
        readEntries_comma entries named (first.append _) here blank', ih more each _ (by omega)]
      rfl

/-- An array is read when its items are. -/
theorem readValue_of_items {last : Item} (led : Led (items.map Item.written) lead)
    (each : ∀ i ∈ items ++ [last], Begins i.written ∧ IsRead i.node i.written)
    (blank : IsSpaces after) (enough : lead.length + last.written.length + 1 ≤ fuel) :
    readValue (fuel + 1) ('[' :: (lead ++ (last.written ++ (after ++ ']' :: rest)))) =
      .ok (.list ((items ++ [last]).map (·.node.data)), rest) := by
  obtain ⟨each, first, read⟩ : (∀ i ∈ items, Begins i.written ∧ IsRead i.node i.written) ∧
      Begins last.written ∧ IsRead last.node last.written :=
    ⟨fun i here => each i (by simp [here]), each last (by simp)⟩
  have shorter := led.length_le
  rw [List.length_map] at shorter
  obtain ⟨fuel, rfl⟩ : ∃ f, fuel = items.length + (f + 1) := ⟨fuel - items.length - 1, by omega⟩
  have here : readValue fuel (last.written ++ (after ++ ']' :: rest)) =
      .ok (last.node.data, after ++ ']' :: rest) :=
    read ((ends_cons (by decide) _).spaces_append blank) (by omega)
  have begins := first.append (after ++ ']' :: rest)
  have parts : ∀ part ∈ items.map Item.written, Begins part :=
    List.forall_mem_map.2 fun i here => (each i here).1
  rw [readValue_array (led.begins parts begins), readItems_of_led led each begins [] (by omega),
    readItems_close _ here blank]
  simp

/-- An object is read when the values of its members are. -/
theorem readValue_of_members {last : Member} (led : Led (members.map Member.text) lead)
    (each : ∀ m ∈ members ++ [last],
      WritesLabel m.name m.label ∧ Begins m.written ∧ IsRead m.node m.written)
    (blank : IsSpaces after) (enough : lead.length + last.text.length + 1 ≤ fuel) :
    readValue (fuel + 1) ('\x7b' :: (lead ++ (last.text ++ (after ++ '\x7d' :: rest)))) =
      .ok (.object (Table.ofPairs ((members ++ [last]).map Member.entry)), rest) := by
  obtain ⟨each, named, first, read⟩ :
      (∀ m ∈ members, WritesLabel m.name m.label ∧ Begins m.written ∧ IsRead m.node m.written) ∧
        WritesLabel last.name last.label ∧ Begins last.written ∧ IsRead last.node last.written :=
    ⟨fun m here => each m (by simp [here]), each last (by simp)⟩
  have shorter := led.length_le
  rw [List.length_map] at shorter
  simp only [Member.text, List.length_append] at enough
  obtain ⟨fuel, rfl⟩ : ∃ f, fuel = members.length + (f + 1) :=
    ⟨fuel - members.length - 1, by omega⟩
  have here : readValue fuel (last.written ++ (after ++ '\x7d' :: rest)) =
      .ok (last.node.data, after ++ '\x7d' :: rest) :=
    read ((ends_cons (by decide) _).spaces_append blank) (by omega)
  have begins := named.begins.append (last.written ++ (after ++ '\x7d' :: rest))
  have parts : ∀ part ∈ members.map Member.text, Begins part :=
    List.forall_mem_map.2 fun m here => (each m here).1.begins.append _
  rw [Member.text, List.append_assoc, readValue_object (led.begins parts begins),
    readEntries_of_led led each begins [] (by omega),
    readEntries_close _ named (first.append _) here blank]
  simp [Table.ofPairs, Table.merge, Member.entry]

/-- A number is read where a value is looked for. -/
theorem readValue_of_isWhole {negative : Bool} (whole : IsWhole ds) (rest : List Char) :
    readValue (fuel + 1) (sign negative ++ ds ++ rest) = readMagnitude negative (ds ++ rest) := by
  rw [← readAtom_of_isWhole whole]
  obtain ⟨given, digits⟩ := whole.isDigits
  obtain ⟨d, ds, rfl⟩ := List.exists_cons_of_ne_nil given
  have digit := digits d (List.mem_cons_self ..)
  cases negative with
  | true => rfl
  | false =>
    rw [sign, if_neg Bool.false_ne_true, List.nil_append, readValue]
    all_goals
      intro cs same
      cases (List.cons.inj same).1
      exact absurd digit (by decide)

theorem readValue_of_mem_words (known : (n, cs) ∈ words) (rest : List Char) :
    readValue (fuel + 1) (cs ++ rest) = .ok (n.data, rest) := by
  have each : ∀ w ∈ words, readValue (fuel + 1) (w.2 ++ rest) = .ok (w.1.data, rest) := by
    simp [words, readValue, readAtom, Node.data]
  exact each _ known

theorem readValue_of_writesString {s : String} (string : WritesString s cs) (rest : List Char) :
    readValue (fuel + 1) (cs ++ rest) = .ok (.str s, rest) := by
  obtain ⟨w, rfl⟩ : ∃ w, cs = '"' :: w := by
    cases string
    exact ⟨_, rfl⟩
  have read : readString (w ++ rest) = .ok (s, rest) := readString_eq_ok_iff.2 ⟨w, string, rfl⟩
  simp [readValue, read, Except.map]

theorem Begins.isRead (begins : Begins cs)
    (read : ∀ fuel rest, Ends rest → cs.length ≤ fuel + 1 →
      readValue (fuel + 1) (cs ++ rest) = .ok (n.data, rest)) : IsRead n cs := by
  obtain ⟨c, more, rfl, -⟩ := begins
  rintro (_ | fuel) rest ends enough
  · cases enough
  · exact read fuel rest ends enough

/-- A value without integers of too many digits is read wherever it is written. -/
theorem Writes.isRead (written : Writes n cs) (bounded : n.IsBounded) : IsRead n cs := by
  refine written.begins.isRead ?_
  induction written with
  | word known => exact fun fuel rest ends enough => readValue_of_mem_words known rest
  | integer negative whole =>
    intro fuel rest ends enough
    have short := Nat.not_lt.2 (Node.isBounded_integer_iff.1 bounded)
    rw [readValue_of_isWhole whole, readMagnitude_of_integer whole ends.endsInteger, if_neg short]
  | float negative whole fractional exponential noInteger =>
    intro fuel rest ends enough
    simp only [List.append_assoc]
    rw [← List.append_assoc (sign negative), readValue_of_isWhole whole,
      readMagnitude_of_float whole fractional exponential noInteger ends]
    rfl
  | text string => exact fun fuel rest ends enough => readValue_of_writesString string rest
  | @array items cs each parts ih =>
    intro fuel rest ends enough
    rw [Node.isBounded_array_iff, List.forall_mem_map] at bounded
    have reads (i : Item) (here : i ∈ items) : Begins i.written ∧ IsRead i.node i.written :=
      ⟨(each i here).begins, (each i here).begins.isRead (ih i here (bounded i here))⟩
    generalize same : items.map Item.written = texts at parts
    cases parts with
    | none blank =>
      obtain rfl := List.map_eq_nil_iff.1 same
      simp [readValue, skipSpace_before (c := ']') blank rfl, Node.data, Node.dataOfItems]
    | @some lead _ _ _ led blank =>
      obtain ⟨items, one, rfl, rfl, one'⟩ := List.map_eq_append_iff.1 same
      obtain ⟨last, rfl, rfl⟩ := List.map_eq_singleton_iff.1 one'
      simp only [List.length_append, List.length_cons] at enough
      have short : lead.length + last.written.length + 1 ≤ fuel := by omega
      rw [data_array]
      simpa using readValue_of_items led reads blank short
  | @object members cs labels each parts ih =>
    intro fuel rest ends enough
    rw [Node.isBounded_object_iff, List.forall_mem_map] at bounded
    have reads (m : Member) (here : m ∈ members) :
        WritesLabel m.name m.label ∧ Begins m.written ∧ IsRead m.node m.written :=
      ⟨labels m here, (each m here).begins,
        (each m here).begins.isRead (ih m here (bounded m here))⟩
    generalize same : members.map Member.text = texts at parts
    cases parts with
    | none blank =>
      obtain rfl := List.map_eq_nil_iff.1 same
      simp [readValue, skipSpace_before (c := '\x7d') blank rfl, Node.data, Node.dataOfMembers,
        Table.ofPairs]
    | @some lead _ _ _ led blank =>
      obtain ⟨members, one, rfl, rfl, one'⟩ := List.map_eq_append_iff.1 same
      obtain ⟨last, rfl, rfl⟩ := List.map_eq_singleton_iff.1 one'
      simp only [List.length_append, List.length_cons] at enough
      have short : lead.length + last.text.length + 1 ≤ fuel := by omega
      rw [data_object]
      simpa using readValue_of_members led reads blank short

/-! ## A large integer is noticed -/

/-- The reader stops at the first integer with too many digits. -/
theorem readValue_of_stalls (stalls : Stalls k cs) (enough : 2 * cs.length ≤ fuel) :
    readValue fuel cs = .error (.oversizedInteger k) := by
  induction stalls generalizing fuel with
  | integer negative whole size large ends =>
    have given := (whole.begins negative).length_pos
    simp only [List.length_append] at enough given
    obtain ⟨fuel, rfl⟩ : ∃ f, fuel = f + 1 := ⟨fuel - 1, by omega⟩
    rw [readValue_of_isWhole whole, readMagnitude_of_integer whole ends, size, if_pos large]
  | @array items lead tail each led here ih =>
    have shorter := led.length_le
    simp only [List.length_append, List.length_cons, List.length_map] at enough shorter
    obtain ⟨fuel, rfl⟩ : ∃ f, fuel = items.length + (f + 1) + 1 :=
      ⟨fuel - items.length - 2, by omega⟩
    have reads (i : Item) (here : i ∈ items) : Begins i.written ∧ IsRead i.node i.written :=
      ⟨(each i here).1.begins, (each i here).1.isRead (each i here).2⟩
    have parts : ∀ part ∈ items.map Item.written, Begins part :=
      List.forall_mem_map.2 fun i here => (reads i here).1
    rw [List.cons_append, readValue_array (led.begins parts here.begins),
      readItems_of_led led reads here.begins [] (by omega), readItems, ih (by omega)]
  | @object members lead label tail name each led named here ih =>
    have shorter := led.length_le
    simp only [List.length_append, List.length_cons, List.length_map] at enough shorter
    obtain ⟨fuel, rfl⟩ : ∃ f, fuel = members.length + (f + 1) + 1 :=
      ⟨fuel - members.length - 2, by omega⟩
    have reads (m : Member) (here : m ∈ members) :
        WritesLabel m.name m.label ∧ Begins m.written ∧ IsRead m.node m.written :=
      ⟨(each m here).1, (each m here).2.1.begins, (each m here).2.1.isRead (each m here).2.2⟩
    have parts : ∀ part ∈ members.map Member.text, Begins part :=
      List.forall_mem_map.2 fun m here => (reads m here).1.begins.append _
    have begins := named.begins.append tail
    rw [List.append_assoc, List.cons_append, readValue_object (led.begins parts begins),
      readEntries_of_led led reads begins [] (by omega), readEntries_label _ named here.begins,
      ih (by omega), goOn]

end StagedChecks.Json
