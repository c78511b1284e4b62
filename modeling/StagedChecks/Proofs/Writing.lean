import StagedChecks.Json

/-!
# How JSON is written

A grammar of JSON that knows nothing of its reader. A value is kept as it is written, with the
digits of its integers and with every member of its objects; what it stands for follows from that.
Beside the texts of values there are those that begin like one and come to an integer with too many
digits before anything is out of place.

## Main definitions

* `Json.Node` — a value as it is written, and `Json.Node.data`, the data it stands for.
* `Json.Writes` — the texts of a value.
* `Json.Stalls` — texts that come to an integer with too many digits.
* `Json.WritesDocument`, `Json.StallsDocument` — the same with white space around.

## Main statements

* `Json.Node.get?_ofPairs_dataOfMembers` — the data of an object holds the last member of a name.
* `Json.Writes.bounded_or_stalls` — every integer of a value is within the limit, or its text comes
  to one that is not.
-/

namespace StagedChecks.Json

/-- A value as it is written. The members of an object keep their order and their repetitions. -/
inductive Node where
  | null
  | bool (b : Bool)
  | integer (negative : Bool) (digits : List Char)
  | float (x : Binary64)
  | text (s : String)
  | array (items : List Node)
  | object (members : List (String × Node))

namespace Node

mutual

/-- The data that a value stands for. -/
def data : Node → Data
  | .null => .null
  | .bool b => .bool b
  | .integer negative digits =>
    let n : Nat := Nat.ofDigitChars 10 digits 0
    .int (if negative then -(n : Int) else n)
  | .float x => .float x
  | .text s => .str s
  | .array items => .list (dataOfItems items)
  | .object members => .object (Table.ofPairs (dataOfMembers members))

def dataOfItems : List Node → List Data
  | [] => []
  | n :: ns => n.data :: dataOfItems ns

def dataOfMembers : List (String × Node) → List (String × Data)
  | [] => []
  | (key, n) :: ms => (key, n.data) :: dataOfMembers ms

end

mutual

/-- The digits of each integer in a value. -/
def numerals : Node → List (List Char)
  | .integer _ digits => [digits]
  | .array items => numeralsOfItems items
  | .object members => numeralsOfMembers members
  | _ => []

def numeralsOfItems : List Node → List (List Char)
  | [] => []
  | n :: ns => n.numerals ++ numeralsOfItems ns

def numeralsOfMembers : List (String × Node) → List (List Char)
  | [] => []
  | (_, n) :: ms => n.numerals ++ numeralsOfMembers ms

end

/-- No integer in the value has too many digits. -/
def IsBounded (n : Node) : Prop :=
  ∀ digits ∈ n.numerals, digits.length ≤ numeralLimit

/-- The value of the last member of an object that has a name. -/
def member? (key : String) : Node → Option Node
  | .object members => (members.filter fun m => m.1 = key).getLast?.map (·.2)
  | _ => none

theorem dataOfItems_eq (ns : List Node) : dataOfItems ns = ns.map data := by
  induction ns with
  | nil => rfl
  | cons n ns ih => rw [dataOfItems, ih, List.map_cons]

theorem dataOfMembers_eq (ms : List (String × Node)) :
    dataOfMembers ms = Table.mapValues data ms := by
  induction ms with
  | nil => rfl
  | cons m ms ih => rw [dataOfMembers, ih]; rfl

theorem numeralsOfItems_eq (ns : List Node) : numeralsOfItems ns = ns.flatMap numerals := by
  induction ns with
  | nil => rfl
  | cons n ns ih => rw [numeralsOfItems, ih, List.flatMap_cons]

theorem numeralsOfMembers_eq (ms : List (String × Node)) :
    numeralsOfMembers ms = ms.flatMap (numerals ·.2) := by
  induction ms with
  | nil => rfl
  | cons m ms ih => rw [numeralsOfMembers, ih, List.flatMap_cons]

variable {b : Bool} {key : String} {items : List Node} {members : List (String × Node)} {n : Node}

@[simp] theorem isBounded_integer_iff {negative : Bool} {digits : List Char} :
    (integer negative digits).IsBounded ↔ digits.length ≤ numeralLimit := by
  simp [IsBounded, numerals]

@[simp] theorem isBounded_float (x : Binary64) : (float x).IsBounded := by
  simp [IsBounded, numerals]

@[simp] theorem isBounded_array_iff : (array items).IsBounded ↔ ∀ n ∈ items, n.IsBounded := by
  simp only [IsBounded, numerals, numeralsOfItems_eq, List.mem_flatMap]
  exact ⟨fun all n here digits within => all digits ⟨n, here, within⟩,
    fun all digits ⟨n, here, within⟩ => all n here digits within⟩

@[simp] theorem isBounded_object_iff :
    (object members).IsBounded ↔ ∀ m ∈ members, m.2.IsBounded := by
  simp only [IsBounded, numerals, numeralsOfMembers_eq, List.mem_flatMap]
  exact ⟨fun all m here digits within => all digits ⟨m, here, within⟩,
    fun all digits ⟨m, here, within⟩ => all m here digits within⟩

/-- What the table of an object holds under a name is the data of the last member of that name. -/
theorem get?_ofPairs_dataOfMembers :
    Table.get? (Table.ofPairs (dataOfMembers members)) key =
      ((object members).member? key).map data := by
  rw [Table.get?_ofPairs, dataOfMembers_eq, Table.mapValues, ← List.map_reverse, member?,
    ← List.head?_reverse, ← List.filter_reverse, ← Table.get?_eq_head?_filter]
  exact Table.get?_mapValues data members.reverse key

end Node

/-! ## The parts of texts -/

def IsSpaces (cs : List Char) : Prop :=
  ∀ c ∈ cs, isSpace c = true

def IsDigits (cs : List Char) : Prop :=
  cs ≠ [] ∧ ∀ c ∈ cs, c.isDigit = true

/-- The digits of a whole number: a zero alone, or digits that begin with another one. -/
def IsWhole (digits : List Char) : Prop :=
  digits = ['0'] ∨ IsDigits digits ∧ digits.head? ≠ some '0'

/-- Perhaps a point and the digits behind it. -/
inductive WritesFraction : List Char → List Char → Prop where
  | none : WritesFraction [] []
  | some {digits : List Char} (given : IsDigits digits) : WritesFraction digits ('.' :: digits)

/-- Perhaps a mark and the exponent behind it. -/
inductive WritesExponent : Int → List Char → Prop where
  | none : WritesExponent 0 []
  | positive {mark : Char} {sign digits : List Char} (marks : mark = 'e' ∨ mark = 'E')
      (signs : sign = [] ∨ sign = ['+']) (given : IsDigits digits) :
      WritesExponent (Nat.ofDigitChars 10 digits 0 : Nat) (mark :: sign ++ digits)
  | negative {mark : Char} {digits : List Char} (marks : mark = 'e' ∨ mark = 'E')
      (given : IsDigits digits) :
      WritesExponent (-(Nat.ofDigitChars 10 digits 0 : Nat)) (mark :: '-' :: digits)

/-- The codes of the characters between the quotes of a string. -/
inductive WritesCodes : List Nat → List Char → Prop where
  | nil : WritesCodes [] []
  | plain {c : Char} {codes : List Nat} {cs : List Char} (printable : 0x20 ≤ c.toNat)
      (noQuote : c ≠ '"') (noEscape : c ≠ '\\') (more : WritesCodes codes cs) :
      WritesCodes (c.toNat :: codes) (c :: cs)
  | escape {e c : Char} {codes : List Nat} {cs : List Char} (short : shortEscape? e = some c)
      (more : WritesCodes codes cs) : WritesCodes (c.toNat :: codes) ('\\' :: e :: cs)
  | code {a b c d : Char} {code : Nat} {codes : List Nat} {cs : List Char}
      (hex : hexCode? a b c d = some code) (more : WritesCodes codes cs) :
      WritesCodes (code :: codes) ('\\' :: 'u' :: a :: b :: c :: d :: cs)

/-- The texts of a string, with their quotes. -/
inductive WritesString : String → List Char → Prop where
  | intro {codes : List Nat} {cs : List Char} (inside : WritesCodes codes cs) :
      WritesString (String.ofList (joinHalves codes)) ('"' :: cs ++ ['"'])

/-- The name of a member and the colon behind it, up to where its value begins. -/
inductive WritesLabel : String → List Char → Prop where
  | intro {name : String} {quoted before after : List Char} (string : WritesString name quoted)
      (blank : IsSpaces before) (blank' : IsSpaces after) :
      WritesLabel name (quoted ++ before ++ ':' :: after)

/-- Parts with a comma behind each of them, and with white space around. -/
inductive Led : List (List Char) → List Char → Prop where
  | nil {cs : List Char} (blank : IsSpaces cs) : Led [] cs
  | cons {before part after cs : List Char} {parts : List (List Char)} (blank : IsSpaces before)
      (blank' : IsSpaces after) (more : Led parts cs) :
      Led (part :: parts) (before ++ part ++ after ++ ',' :: cs)

/-- Parts with commas between them, and with white space around. -/
inductive Separated : List (List Char) → List Char → Prop where
  | none {cs : List Char} (blank : IsSpaces cs) : Separated [] cs
  | some {lead last after : List Char} {parts : List (List Char)} (led : Led parts lead)
      (blank : IsSpaces after) : Separated (parts ++ [last]) (lead ++ last ++ after)

/-! ## Values -/

/-- The words that stand for data. -/
def words : List (Node × List Char) :=
  [(.null, ['n', 'u', 'l', 'l']), (.bool true, ['t', 'r', 'u', 'e']),
    (.bool false, ['f', 'a', 'l', 's', 'e']), (.float (.nan 0), ['N', 'a', 'N']),
    (.float (.infinity false), ['I', 'n', 'f', 'i', 'n', 'i', 't', 'y']),
    (.float (.infinity true), ['-', 'I', 'n', 'f', 'i', 'n', 'i', 't', 'y'])]

def sign (negative : Bool) : List Char :=
  if negative then ['-'] else []

/-- An item of an array with its text. -/
structure Item where
  node : Node
  written : List Char

/-- A member of an object with the text before its value and that of its value. -/
structure Member where
  name : String
  node : Node
  label : List Char
  written : List Char

def Member.text (m : Member) : List Char :=
  m.label ++ m.written

/-- The texts of a value. -/
inductive Writes : Node → List Char → Prop where
  | word {n : Node} {cs : List Char} (known : (n, cs) ∈ words) : Writes n cs
  | integer (negative : Bool) {digits : List Char} (whole : IsWhole digits) :
      Writes (.integer negative digits) (sign negative ++ digits)
  | float (negative : Bool) {front digits fraction mark : List Char} {e : Int}
      (whole : IsWhole front) (fractional : WritesFraction digits fraction)
      (exponential : WritesExponent e mark) (noInteger : fraction ++ mark ≠ []) :
      Writes (.float (.ofDecimal
          ⟨negative, Nat.ofDigitChars 10 (front ++ digits) 0, e - digits.length⟩))
        (sign negative ++ front ++ fraction ++ mark)
  | text {s : String} {cs : List Char} (string : WritesString s cs) : Writes (.text s) cs
  | array {items : List Item} {cs : List Char} (each : ∀ i ∈ items, Writes i.node i.written)
      (parts : Separated (items.map Item.written) cs) :
      Writes (.array (items.map Item.node)) ('[' :: cs ++ [']'])
  | object {members : List Member} {cs : List Char}
      (labels : ∀ m ∈ members, WritesLabel m.name m.label)
      (each : ∀ m ∈ members, Writes m.node m.written)
      (parts : Separated (members.map Member.text) cs) :
      Writes (.object (members.map fun m => (m.name, m.node))) ('\x7b' :: cs ++ ['\x7d'])

/-- The text of an item is one of its value, in which no integer has too many digits. -/
def Item.IsWritten (i : Item) : Prop :=
  Writes i.node i.written ∧ i.node.IsBounded

/-- The texts of a member are those of its name and its value, in which no integer has too many
digits. -/
def Member.IsWritten (m : Member) : Prop :=
  WritesLabel m.name m.label ∧ Writes m.node m.written ∧ m.node.IsBounded

/-- What stands behind an integer: no more digits, and neither a fraction nor an exponent. -/
structure EndsInteger (rest : List Char) : Prop where
  digit : ∀ c cs, rest = c :: cs → c.isDigit = false
  fraction : ∀ digits part cs, WritesFraction digits part → rest = part ++ cs → part = []
  exponent : ∀ e part cs, WritesExponent e part → rest = part ++ cs → part = []

/-- Texts that begin like a value and come to an integer with `k` digits, which are too many, before
anything is out of place. -/
inductive Stalls (k : Nat) : List Char → Prop where
  | integer (negative : Bool) {digits rest : List Char} (whole : IsWhole digits)
      (size : digits.length = k) (large : numeralLimit < k) (ends : EndsInteger rest) :
      Stalls k (sign negative ++ digits ++ rest)
  | array {items : List Item} {lead tail : List Char} (each : ∀ i ∈ items, i.IsWritten)
      (led : Led (items.map Item.written) lead) (here : Stalls k tail) :
      Stalls k ('[' :: lead ++ tail)
  | object {members : List Member} {lead label tail : List Char} {name : String}
      (each : ∀ m ∈ members, m.IsWritten) (led : Led (members.map Member.text) lead)
      (named : WritesLabel name label) (here : Stalls k tail) :
      Stalls k ('\x7b' :: lead ++ label ++ tail)

/-- The texts of a document, which is a value with white space around it. -/
def WritesDocument (n : Node) (text : String) : Prop :=
  ∃ before cs after, IsSpaces before ∧ Writes n cs ∧ IsSpaces after ∧
    text.toList = before ++ cs ++ after

/-- Texts that begin like a document and come to an integer with `k` digits, which are too many,
before anything is out of place. -/
def StallsDocument (k : Nat) (text : String) : Prop :=
  ∃ before cs, IsSpaces before ∧ Stalls k cs ∧ text.toList = before ++ cs

/-! ## How texts begin and end -/

/-- What stands behind values. -/
def isBoundary (c : Char) : Bool :=
  isSpace c || c == ',' || c == ']' || c == '\x7d'

/-- Nothing that would go on with a value comes first. -/
def Ends (cs : List Char) : Prop :=
  ∀ c more, cs = c :: more → isBoundary c = true

/-- What can begin a value or a member comes first. -/
def Begins (cs : List Char) : Prop :=
  ∃ c more, cs = c :: more ∧ isBoundary c = false

variable {n : Node} {cs ds rest : List Char} {parts : List (List Char)} {k : Nat}

theorem IsSpaces.append (blank : IsSpaces cs) (blank' : IsSpaces ds) : IsSpaces (cs ++ ds) :=
  List.forall_mem_append.2 ⟨blank, blank'⟩

theorem Begins.append (begins : Begins cs) (rest : List Char) : Begins (cs ++ rest) := by
  obtain ⟨c, more, rfl, first⟩ := begins
  exact ⟨c, more ++ rest, rfl, first⟩

theorem isBoundary_of_isSpace {c : Char} (space : isSpace c = true) : isBoundary c = true := by
  simp [isBoundary, space]

theorem eq_of_isBoundary {c : Char} (boundary : isBoundary c = true) :
    c ∈ [' ', '\t', '\n', '\r', ',', ']', '\x7d'] := by
  simpa [isBoundary, isSpace, or_assoc] using boundary

theorem begins_of_isDigit {c : Char} (digit : c.isDigit = true) : Begins (c :: cs) := by
  refine ⟨c, cs, rfl, Bool.eq_false_iff.2 fun boundary => ?_⟩
  have none : ∀ c ∈ [' ', '\t', '\n', '\r', ',', ']', '\x7d'], c.isDigit = false := by simp
  simp [none c (eq_of_isBoundary boundary)] at digit

theorem IsWhole.isDigits (whole : IsWhole cs) : IsDigits cs := by
  rcases whole with rfl | ⟨digits, -⟩
  · exact ⟨List.cons_ne_nil _ _, by simp⟩
  · exact digits

theorem IsWhole.begins (whole : IsWhole cs) (negative : Bool) : Begins (sign negative ++ cs) := by
  obtain ⟨given, digits⟩ := whole.isDigits
  cases negative with
  | true => exact ⟨'-', cs, rfl, by decide⟩
  | false =>
    obtain ⟨c, cs, rfl⟩ := List.exists_cons_of_ne_nil given
    exact begins_of_isDigit (digits c (List.mem_cons_self ..))

theorem begins_of_mem_words (known : (n, cs) ∈ words) : Begins cs := by
  have each : ∀ w ∈ words, Begins w.2 := by
    simp [words, Begins, isBoundary, isSpace]
  exact each _ known

theorem isBounded_of_mem_words (known : (n, cs) ∈ words) : n.IsBounded := by
  have each : ∀ w ∈ words, w.1.IsBounded := by
    simp [words, Node.IsBounded, Node.numerals]
  exact each _ known

theorem Writes.begins (written : Writes n cs) : Begins cs := by
  cases written with
  | word known => exact begins_of_mem_words known
  | integer negative whole => exact whole.begins negative
  | float negative whole => exact ((whole.begins negative).append _).append _
  | text string =>
    cases string
    exact ⟨_, _, rfl, by decide⟩
  | array | object => exact ⟨_, _, rfl, by decide⟩

theorem Stalls.begins (stalls : Stalls k cs) : Begins cs := by
  cases stalls with
  | integer negative whole => exact (whole.begins negative).append _
  | array | object => exact ⟨_, _, rfl, by decide⟩

theorem Ends.spaces_append (ends : Ends rest) (blank : IsSpaces cs) : Ends (cs ++ rest) := by
  intro c more same
  cases cs with
  | nil => exact ends c more same
  | cons c' cs =>
    cases same
    exact isBoundary_of_isSpace (blank _ (List.mem_cons_self ..))

theorem ends_cons {c : Char} (boundary : isBoundary c = true) (cs : List Char) :
    Ends (c :: cs) := by
  rintro c' more ⟨⟩
  exact boundary

theorem IsSpaces.ends (blank : IsSpaces cs) : Ends cs := by
  rintro c more rfl
  exact isBoundary_of_isSpace (blank c (List.mem_cons_self ..))

/-- Nothing that ends a value goes on with a number. -/
theorem Ends.not_number (ends : Ends rest) (c : Char) (cs : List Char) (same : rest = c :: cs) :
    c.isDigit = false ∧ c ≠ '.' ∧ c ≠ 'e' ∧ c ≠ 'E' := by
  have all : ∀ c ∈ [' ', '\t', '\n', '\r', ',', ']', '\x7d'],
      c.isDigit = false ∧ c ≠ '.' ∧ c ≠ 'e' ∧ c ≠ 'E' := by
    simp
  exact all c (eq_of_isBoundary (ends c cs same))

theorem Ends.endsInteger (ends : Ends rest) : EndsInteger rest := by
  refine ⟨fun c cs same => (ends.not_number c cs same).1, ?_, ?_⟩
  · rintro digits part cs (_ | _) same
    · rfl
    · exact absurd rfl (ends.not_number _ _ same).2.1
  · rintro e part cs (_ | ⟨marks, -, -⟩ | ⟨marks, -⟩) same
    · rfl
    all_goals exact absurd marks (by simpa using (ends.not_number _ _ same).2.2)

theorem Led.spaces_append (led : Led parts cs) (blank : IsSpaces ds) : Led parts (ds ++ cs) := by
  cases led with
  | nil blank' => exact .nil (blank.append blank')
  | @cons _ part _ _ _ before after more =>
    have led : Led (part :: _) _ := .cons (blank.append before) after more
    simpa only [List.append_assoc] using led

/-- The text of separated parts up to the place of one of them, and the rest behind that. -/
theorem Separated.exists_led {before after : List (List Char)} {part : List Char}
    (separated : Separated (before ++ part :: after) cs) :
    ∃ lead rest, Led before lead ∧ cs = lead ++ part ++ rest ∧
      ∀ more, Ends more → Ends (rest ++ more) := by
  generalize same : before ++ part :: after = parts at separated
  cases separated with
  | none => simp at same
  | @some lead last tail parts led blank =>
    induction led generalizing before with
    | nil blank' =>
      obtain ⟨rfl, same⟩ | ⟨_, rfl, same⟩ := List.append_eq_cons_iff.1 same
      · cases same
        exact ⟨_, tail, .nil blank', rfl, fun more ends => ends.spaces_append blank⟩
      · simp at same
    | @cons front first back cs parts blank blank' more ih =>
      cases before with
      | nil =>
        cases same
        refine ⟨front, back ++ ',' :: (cs ++ last ++ tail), .nil blank, by simp, ?_⟩
        intro more ends
        rw [List.append_assoc]
        exact (ends_cons (by decide) _).spaces_append blank'
      | cons first' before =>
        rw [List.cons_append, List.cons_append, List.cons.injEq] at same
        obtain ⟨rfl, same⟩ := same
        obtain ⟨lead, rest, led, split, ends⟩ := ih same
        exact ⟨_, rest, .cons blank blank' led, by simp [split], ends⟩

/-- Among items that do not all satisfy something there is a first that does not. -/
theorem exists_first {α : Type} {p : α → Prop} {xs : List α} (some : ¬∀ x ∈ xs, p x) :
    ∃ before x after, xs = before ++ x :: after ∧ (∀ y ∈ before, p y) ∧ ¬p x := by
  induction xs with
  | nil => exact absurd (by simp) some
  | cons x xs ih =>
    by_cases here : p x
    · obtain ⟨before, y, after, rfl, all, bad⟩ :=
        ih fun all => some (List.forall_mem_cons.2 ⟨here, all⟩)
      exact ⟨x :: before, y, after, rfl, List.forall_mem_cons.2 ⟨here, all⟩, bad⟩
    · exact ⟨[], x, xs, rfl, by simp, here⟩

/-- All integers in a value are within the limit, or else its text comes to the first of them that
is not. -/
theorem Writes.bounded_or_stalls (written : Writes n cs) (ends : Ends rest) :
    n.IsBounded ∨ ∃ k, Stalls k (cs ++ rest) := by
  induction written generalizing rest with
  | word known => exact .inl (isBounded_of_mem_words known)
  | @integer negative digits whole =>
    by_cases within : digits.length ≤ numeralLimit
    · exact .inl (Node.isBounded_integer_iff.2 within)
    · exact .inr ⟨_, .integer negative whole rfl (by omega) ends.endsInteger⟩
  | float | text => simp [Node.IsBounded, Node.numerals]
  | @array items cs each parts ih =>
    by_cases all : ∀ i ∈ items, i.node.IsBounded
    · exact .inl (Node.isBounded_array_iff.2 (by simpa using all))
    right
    obtain ⟨before, i, after, rfl, bounded, bad⟩ := exists_first all
    rw [List.map_append, List.map_cons] at parts
    obtain ⟨lead, tail, led, rfl, goOn⟩ := parts.exists_led
    have ends : Ends (']' :: rest) := ends_cons (by decide) rest
    obtain ⟨k, stalls⟩ := (ih i (by simp) (goOn _ ends)).resolve_left bad
    refine ⟨k, ?_⟩
    have within (j : Item) (here : j ∈ before) : j.IsWritten :=
      ⟨each j (by simp [here]), bounded j here⟩
    simpa using Stalls.array within led stalls
  | @object members cs labels each parts ih =>
    by_cases all : ∀ m ∈ members, m.node.IsBounded
    · exact .inl (Node.isBounded_object_iff.2 (by simpa using all))
    right
    obtain ⟨before, m, after, rfl, bounded, bad⟩ := exists_first all
    rw [List.map_append, List.map_cons] at parts
    obtain ⟨lead, tail, led, rfl, goOn⟩ := parts.exists_led
    have ends : Ends ('\x7d' :: rest) := ends_cons (by decide) rest
    obtain ⟨k, stalls⟩ := (ih m (by simp) (goOn _ ends)).resolve_left bad
    refine ⟨k, ?_⟩
    have within (m' : Member) (here : m' ∈ before) : m'.IsWritten :=
      ⟨labels m' (by simp [here]), each m' (by simp [here]), bounded m' here⟩
    simpa [Member.text] using Stalls.object within led (labels m (by simp)) stalls

end StagedChecks.Json
