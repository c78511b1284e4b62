import Mathlib
import StagedChecks.Proofs.Documents
import StagedChecks.Settings.Load

/-!
# Loading settings

Loading fails for two kinds of files only: those that are no text, and those whose text comes to an
integer with too many digits before anything else is wrong with it. Otherwise each setting comes
from its own environment variable or, if that is empty, from its own entry in the last section of a
document; a text that is no document is like no file.

## Main definitions

* `Settings.Flag` — the settings, each with the names it goes by.
* `Settings.SaysYes` — the words of a variable that turn a setting on.
* `Settings.entry?`, `Settings.Stores` — what a document has for a setting, and the truth value that
  a file holds for it.

## Main statements

* `Settings.load_returns_iff` — the files that can be loaded.
* `Settings.load_by_flag` — where each setting comes from.
-/

namespace StagedChecks

namespace Settings

open Json (Node WritesDocument StallsDocument)

/-- One of the settings. -/
inductive Flag where
  | trace
  | snapshot
  deriving DecidableEq, Repr

namespace Flag

/-- The name of the environment variable that decides on a setting. -/
def variableName : Flag → String
  | .trace => "CHECKRULES_TRACE_ENABLED"
  | .snapshot => "CHECKRULES_SNAPSHOT_CONTEXT"

/-- The name of its entry in a file. -/
def entryName : Flag → String
  | .trace => "trace_enabled"
  | .snapshot => "snapshot_context"

def of (settings : Settings) : Flag → Bool
  | .trace => settings.traceEnabled
  | .snapshot => settings.snapshotContext

end Flag

/-- The text is `true`, `1` or `yes`, with each letter in either case. -/
def SaysYes (value : String) : Prop :=
  ∃ word ∈ ["true", "1", "yes"],
    List.Forall₂ (fun c w => c = w ∨ c = w.toUpper) value.toList word.toList

/-- The last entry of a name in the last section `check_rules` of a document. -/
def entry? (n : Node) (name : String) : Option Node :=
  (n.member? "check_rules").bind (·.member? name)

/-- The file is a JSON document, and what it has for a setting of a name is a truth value. -/
def Stores (file : FileState) (name : String) (b : Bool) : Prop :=
  ∃ text n, file = .content text.toUTF8 ∧ WritesDocument n text ∧ entry? n name = some (.bool b)

variable {file : FileState} {environment : String → Option String} {settings : Settings}
  {value text name : String} {bytes : ByteArray} {b : Bool} {n : Node} {d : Data} {fault : Fault}

/-! ## Environment variables -/

theorem toNat_toLower (c : Char) :
    c.toLower.toNat = if 65 ≤ c.toNat ∧ c.toNat ≤ 90 then c.toNat + 32 else c.toNat := by
  simp only [Char.toLower, ge_iff_le, UInt32.le_iff_toNat_le, Char.toNat]
  split
  all_goals
    next letter =>
      simp only [Char.reduceVal, UInt32.reduceToNat, Char.toNat_val, UInt32.reduceSub,
        UInt32.toNat_add, Nat.reducePow] at letter ⊢
      grind

theorem toNat_toUpper (c : Char) :
    c.toUpper.toNat = if 97 ≤ c.toNat ∧ c.toNat ≤ 122 then c.toNat - 32 else c.toNat := by
  simp only [Char.toUpper, UInt32.le_iff_toNat_le, Char.toNat]
  split
  all_goals
    next letter =>
      simp only [Char.reduceVal, UInt32.reduceToNat, Char.toNat_val, UInt32.reduceSub,
        UInt32.toNat_add, Nat.reducePow] at letter ⊢
      grind

theorem toLower_eq_iff {c w : Char} (lower : w.toLower = w) :
    c.toLower = w ↔ c = w ∨ c = w.toUpper := by
  simp only [← Char.toNat_inj, toNat_toLower, toNat_toUpper] at lower ⊢
  grind

theorem toLower_string_eq_iff {word : String} (lower : ∀ w ∈ word.toList, w.toLower = w) :
    value.toLower = word ↔
      List.Forall₂ (fun c w => c = w ∨ c = w.toUpper) value.toList word.toList := by
  rw [← String.toList_inj, String.toLower, String.toList_map, ← List.forall₂_eq_eq_eq,
    List.forall₂_map_left_iff]
  generalize value.toList = cs
  generalize word.toList = ws at lower
  induction ws generalizing cs with
  | nil => cases cs <;> simp
  | cons w ws ih =>
    obtain ⟨first, lower⟩ := List.forall_mem_cons.1 lower
    cases cs with
    | nil => simp
    | cons c cs => rw [List.forall₂_cons, List.forall₂_cons, toLower_eq_iff first, ih cs lower]

theorem isYes_iff : isYes value = true ↔ SaysYes value := by
  have word (w : String) (known : w ∈ ["true", "1", "yes"]) : ∀ c ∈ w.toList, c.toLower = c := by
    simp only [List.mem_cons, List.not_mem_nil, or_false] at known
    obtain rfl | rfl | rfl := known <;> simp
  simp only [isYes, Bool.or_eq_true, beq_iff_eq, SaysYes]
  constructor
  · rintro ((same | same) | same)
    all_goals exact ⟨_, by simp, (toLower_string_eq_iff (word _ (by simp))).1 same⟩
  · rintro ⟨w, known, spelled⟩
    have same := (toLower_string_eq_iff (word w known)).2 spelled
    simp only [List.mem_cons, List.not_mem_nil, or_false] at known
    obtain rfl | rfl | rfl := known <;> simp [same]

/-! ## The document of a file -/

/-- Bytes are a text in one way at most. -/
theorem fromUTF8?_eq_some_iff : String.fromUTF8? bytes = some text ↔ bytes = text.toUTF8 := by
  unfold String.fromUTF8?
  split
  next valid =>
    rw [Option.some.injEq, ← String.toByteArray_inj]
    exact Iff.rfl
  next invalid =>
    refine ⟨nofun, ?_⟩
    rintro rfl
    exact absurd text.isValidUTF8 invalid

theorem readFile_content (text : String) :
    readFile (.content text.toUTF8) = readText text := by
  rw [readFile, fromUTF8?_eq_some_iff.2 rfl]

theorem data_eq_bool_iff : n.data = .bool b ↔ n = .bool b := by
  cases n <;> simp [Node.data, Data.object]

theorem flag?_eq_some_iff {entries : List (Key × Data)} :
    flag? entries name = some b ↔ Data.under? entries name = some (.bool b) := by
  rw [flag?]
  cases Data.under? entries name with
  | none => simp
  | some d => cases d <;> simp

/-- A truth value is found in a table just where it is the last member of its name. -/
theorem flag?_dataOfMembers {members : List (String × Node)} :
    flag? (Data.named (Table.ofPairs (Node.dataOfMembers members))) name = some b ↔
      (Node.object members).member? name = some (.bool b) := by
  rw [flag?_eq_some_iff, Data.under?_named, Node.get?_ofPairs_dataOfMembers, Option.map_eq_some_iff]
  simp [data_eq_bool_iff]

theorem flag?_sectionOf_data :
    flag? (sectionOf n.data) name = some b ↔ entry? n name = some (.bool b) := by
  cases n with
  | object members =>
    rw [Node.data, Data.object, sectionOf, Data.under?_named, Node.get?_ofPairs_dataOfMembers,
      entry?]
    cases (Node.object members).member? "check_rules" with
    | none => simp [flag?]
    | some found =>
      cases found with
      | object entries => exact flag?_dataOfMembers
      | _ => simp [Node.data, Node.member?, flag?]
  | _ => simp [Node.data, Node.member?, sectionOf, flag?, entry?]

/-- Everything that reading a file can come to. -/
inductive Finds (file : FileState) : Except Fault Data → Prop where
  | document {text : String} {n : Node} (content : file = .content text.toUTF8)
      (written : WritesDocument n text) (bounded : n.IsBounded) : Finds file (.ok n.data)
  | nothing (decoded : ∀ bytes, file = .content bytes →
        ∃ text, bytes = text.toUTF8 ∧ ∀ k, ¬StallsDocument k text)
      (none : ∀ text n, file = .content text.toUTF8 → ¬WritesDocument n text) :
      Finds file (.ok .null)
  | oversized {text : String} {k : Nat} (content : file = .content text.toUTF8)
      (stalls : StallsDocument k text) : Finds file (.error (.oversizedNumeral k))
  | undecodable {bytes : ByteArray} (content : file = .content bytes)
      (none : ∀ text : String, bytes ≠ text.toUTF8) : Finds file (.error .undecodableText)

theorem toUTF8_inj {s t : String} (same : s.toUTF8 = t.toUTF8) : s = t :=
  String.toByteArray_inj.1 same

theorem finds_readText (text : String) : Finds (.content text.toUTF8) (readText text) := by
  unfold readText
  cases read : Json.read text with
  | ok d =>
    obtain ⟨n, written, bounded, rfl⟩ := Json.read_eq_ok_iff.1 read
    exact .document rfl written bounded
  | error failure =>
    cases failure with
    | oversizedInteger k => exact .oversized rfl (Json.read_eq_oversized_iff.1 read)
    | malformed =>
      have small (k : Nat) : ¬StallsDocument k text := by
        intro stalls
        simp [Json.read_eq_oversized_iff.2 stalls] at read
      refine .nothing ?_ ?_
      · rintro _ ⟨⟩
        exact ⟨text, rfl, small⟩
      · intro text' n content written
        obtain rfl := toUTF8_inj (FileState.content.inj content)
        have bounded := written.bounded_or_stalls.resolve_right fun ⟨k, stalls⟩ => small k stalls
        simp [Json.read_eq_ok_iff.2 ⟨n, written, bounded, rfl⟩] at read

theorem finds_readFile (file : FileState) : Finds file (readFile file) := by
  cases file with
  | missing | unreadable => exact .nothing nofun nofun
  | content bytes =>
    rw [readFile]
    split
    next text decoded =>
      obtain rfl := fromUTF8?_eq_some_iff.1 decoded
      exact finds_readText text
    next none =>
      refine .undecodable rfl fun text same => ?_
      simp [fromUTF8?_eq_some_iff.2 same] at none

/-- A document that can be read is found, in whatever way it is written. -/
theorem data_eq_of_readFile (read : readFile (.content text.toUTF8) = .ok d)
    (written : WritesDocument n text) : d = n.data := by
  have found := finds_readFile (.content text.toUTF8)
  rw [read] at found
  cases found with
  | document content written' bounded =>
    obtain rfl := toUTF8_inj (FileState.content.inj content)
    exact (written'.data_eq bounded written).symm
  | nothing _ none => exact absurd written (none text n rfl)

/-- What is found of a file that can be read holds the truth values for settings that it stores. -/
theorem flag?_iff_stores (read : readFile file = .ok d) :
    flag? (sectionOf d) name = some b ↔ Stores file name b := by
  constructor
  · intro stored
    have found := finds_readFile file
    rw [read] at found
    cases found with
    | @document text n content written bounded =>
      exact ⟨text, n, content, written, flag?_sectionOf_data.1 stored⟩
    | nothing => cases stored
  · rintro ⟨text, n, rfl, written, stored⟩
    rw [data_eq_of_readFile read written]
    exact flag?_sectionOf_data.2 stored

/-! ## Settings -/

theorem load_eq_ok_iff :
    load file environment = .ok settings ↔ ∃ d, readFile file = .ok d ∧ ∀ flag : Flag,
      flag.of settings = ((variableFlag? environment flag.variableName).or
        (flag? (sectionOf d) flag.entryName)).getD true := by
  rw [load, bind_eq_ok_iff]
  refine exists_congr fun d => and_congr_right fun _ => ?_
  constructor
  · rintro ⟨⟩ (_ | _) <;> rfl
  · intro flags
    obtain ⟨trace, snapshot⟩ := settings
    exact congrArg Except.ok (Settings.mk.injEq .. ▸ ⟨(flags .trace).symm, (flags .snapshot).symm⟩)

theorem load_eq_error_iff :
    load file environment = .error fault ↔ readFile file = .error fault := by
  rw [load, bind_eq_error_iff]
  exact or_iff_left fun ⟨d, _, impossible⟩ => nomatch impossible

/-- The setting of a file that is a document is stored there if its last entry is a truth value. -/
theorem stores_iff_of_document (returned : load (.content text.toUTF8) environment = .ok settings)
    (written : WritesDocument n text) :
    Stores (.content text.toUTF8) name b ↔ entry? n name = some (.bool b) := by
  obtain ⟨d, read, -⟩ := load_eq_ok_iff.1 returned
  rw [← flag?_iff_stores read, data_eq_of_readFile read written, flag?_sectionOf_data]

/-- A setting depends on nothing but its own variable and what the file stores for it. -/
theorem flag_congr {file' : FileState} {environment' : String → Option String}
    {settings' : Settings} {flag : Flag} (returned : load file environment = .ok settings)
    (returned' : load file' environment' = .ok settings')
    (sameVariable : environment' flag.variableName = environment flag.variableName)
    (sameEntry : ∀ b, Stores file' flag.entryName b ↔ Stores file flag.entryName b) :
    flag.of settings' = flag.of settings := by
  obtain ⟨d, read, flags⟩ := load_eq_ok_iff.1 returned
  obtain ⟨d', read', flags'⟩ := load_eq_ok_iff.1 returned'
  have sameFlag : variableFlag? environment' flag.variableName =
      variableFlag? environment flag.variableName := by
    rw [variableFlag?, variableFlag?, sameVariable]
  have entries : flag? (sectionOf d') flag.entryName = flag? (sectionOf d) flag.entryName :=
    Option.ext fun b => (flag?_iff_stores read').trans
      ((sameEntry b).trans (flag?_iff_stores read).symm)
  rw [flags flag, flags' flag, sameFlag, entries]

theorem load_missing_of_no_document (returned : load file environment = .ok settings)
    (none : ∀ text n, file = .content text.toUTF8 → ¬WritesDocument n text) :
    load .missing environment = .ok settings := by
  obtain ⟨d, read, flags⟩ := load_eq_ok_iff.1 returned
  have found := finds_readFile file
  rw [read] at found
  cases found with
  | document content written => exact absurd written (none _ _ content)
  | nothing => exact load_eq_ok_iff.2 ⟨.null, rfl, flags⟩

/-- Loading fails for bytes that are no text and for texts that come to an integer with too many
digits before anything else is wrong with them, and only for these. Whatever else is no document is
like no file. -/
theorem load_returns_iff (file : FileState) (environment : String → Option String) :
    ((∃ settings, load file environment = .ok settings) ↔
      ∀ bytes, file = .content bytes →
        ∃ text, bytes = text.toUTF8 ∧ ∀ k, ¬StallsDocument k text) ∧
    (∀ fault, load file environment = .error fault ↔
      (fault = .undecodableText ∧
        ∃ bytes, file = .content bytes ∧ ∀ text : String, bytes ≠ text.toUTF8) ∨
      ∃ text k, fault = .oversizedNumeral k ∧ file = .content text.toUTF8 ∧
        StallsDocument k text) ∧
    ∀ settings, load file environment = .ok settings →
      (∀ text n, file = .content text.toUTF8 → ¬WritesDocument n text) →
      load .missing environment = .ok settings := by
  have found := finds_readFile file
  refine ⟨⟨?returns, ?decoded⟩, fun fault => load_eq_error_iff.trans ⟨?fails, ?faulty⟩,
    fun settings => load_missing_of_no_document⟩
  case returns =>
    rintro ⟨settings, returned⟩ bytes content
    obtain ⟨d, read, -⟩ := load_eq_ok_iff.1 returned
    rw [read] at found
    cases found with
    | @document text n content' written bounded =>
      cases content.symm.trans content'
      exact ⟨text, rfl, written.not_stalls bounded⟩
    | nothing decoded => exact decoded bytes content
  case decoded =>
    intro decoded
    cases read : readFile file with
    | ok d =>
      rw [load, read]
      exact ⟨_, rfl⟩
    | error fault =>
      rw [read] at found
      cases found with
      | oversized content stalls =>
        obtain ⟨text, same, small⟩ := decoded _ content
        cases toUTF8_inj same
        exact absurd stalls (small _)
      | undecodable content none =>
        obtain ⟨text, same, -⟩ := decoded _ content
        exact absurd same (none text)
  case fails =>
    intro read
    rw [read] at found
    cases found with
    | @oversized text k content stalls => exact .inr ⟨text, k, rfl, content, stalls⟩
    | @undecodable bytes content none => exact .inl ⟨rfl, bytes, content, none⟩
  case faulty =>
    rintro (⟨rfl, bytes, rfl, none⟩ | ⟨text, k, rfl, rfl, stalls⟩)
    · rw [readFile]
      split
      next text decoded => exact absurd (fromUTF8?_eq_some_iff.1 decoded) (none text)
      next => rfl
    · rw [readFile_content, readText, Json.read_eq_oversized_iff.2 stalls]

/-- One byte that begins no character keeps the settings from being loaded. -/
theorem load_returns_iff_stray :
    load (.content ⟨#[0xff]⟩) (fun _ => none) = .error .undecodableText ∧
      ¬∃ settings, load (.content ⟨#[0xff]⟩) (fun _ => none) = .ok settings := by
  have noText (text : String) : (⟨#[0xff]⟩ : ByteArray) ≠ text.toUTF8 := by
    intro same
    have decoded := fromUTF8?_eq_some_iff.2 same
    cases decoded
  obtain ⟨returns, fails, -⟩ := load_returns_iff (.content ⟨#[0xff]⟩) fun _ => none
  refine ⟨(fails _).2 (.inl ⟨rfl, _, rfl, noText⟩), fun returned => ?_⟩
  obtain ⟨text, same, -⟩ := returns.1 returned _ rfl
  exact noText text same

theorem variableFlag?_of_given (set : environment name = some value) (given : value ≠ "") :
    variableFlag? environment name = some (isYes value) := by
  simp [variableFlag?, set, given]

theorem variableFlag?_of_unset (unset : ∀ value, environment name = some value → value = "") :
    variableFlag? environment name = none := by
  rw [variableFlag?]
  cases set : environment name with
  | none => rfl
  | some value => simp [unset value set]

/-- Each setting is what its own variable says, or else what the file stores for it, or else on. It
depends on nothing but these two, so that documents with the same entry for it are alike, and a text
that is no document is like no file. -/
theorem load_by_flag (returned : load file environment = .ok settings) (flag : Flag) :
    (∀ value, environment flag.variableName = some value → value ≠ "" →
      (flag.of settings = true ↔ SaysYes value)) ∧
    ((∀ value, environment flag.variableName = some value → value = "") →
      (∀ b, Stores file flag.entryName b → flag.of settings = b) ∧
      ((∀ b, ¬Stores file flag.entryName b) → flag.of settings = true)) ∧
    (∀ file' environment' settings', load file' environment' = .ok settings' →
      environment' flag.variableName = environment flag.variableName →
      (∀ b, Stores file' flag.entryName b ↔ Stores file flag.entryName b) →
      flag.of settings' = flag.of settings) ∧
    (∀ text n text' n' environment' settings', file = .content text.toUTF8 →
      WritesDocument n text → WritesDocument n' text' →
      load (.content text'.toUTF8) environment' = .ok settings' →
      environment' flag.variableName = environment flag.variableName →
      entry? n' flag.entryName = entry? n flag.entryName →
      flag.of settings' = flag.of settings) ∧
    ((∀ text n, file = .content text.toUTF8 → ¬WritesDocument n text) →
      load .missing environment = .ok settings) := by
  obtain ⟨d, read, flags⟩ := load_eq_ok_iff.1 returned
  have decided := flags flag
  refine ⟨?given, ?unset, fun file' environment' settings' => flag_congr returned, ?documents,
    load_missing_of_no_document returned⟩
  case given =>
    intro value set given
    rw [decided, variableFlag?_of_given set given]
    exact isYes_iff
  case unset =>
    intro unset
    rw [variableFlag?_of_unset unset, Option.none_or] at decided
    constructor
    · intro b stored
      rw [decided, (flag?_iff_stores read).2 stored, Option.getD_some]
    · intro none
      have missing : flag? (sectionOf d) flag.entryName = Option.none :=
        Option.eq_none_iff_forall_ne_some.2 fun b found => none b ((flag?_iff_stores read).1 found)
      rw [decided, missing, Option.getD_none]
  case documents =>
    rintro text n text' n' environment' settings' rfl written written' returned' sameVariable same
    refine flag_congr returned returned' sameVariable fun b => ?_
    rw [stores_iff_of_document returned' written', stores_iff_of_document returned written, same]

/-- The last of two entries counts, and other words than those of the list turn a setting off. -/
theorem load_by_flag_repeated :
    ∃ file environment,
      file = .content
        "\x7b\"check_rules\":\x7b\"trace_enabled\":true,\"trace_enabled\":false\x7d\x7d".toUTF8 ∧
      load file environment = .ok ⟨false, false⟩ ∧ Stores file "trace_enabled" false ∧
      ¬SaysYes "No" := by
  have apart (file : FileState) (environment : String → Option String)
      (returned : load file environment = .ok ⟨false, false⟩)
      (unset : environment "CHECKRULES_TRACE_ENABLED" = none)
      (set : environment "CHECKRULES_SNAPSHOT_CONTEXT" = some "No") :
      Stores file "trace_enabled" false ∧ ¬SaysYes "No" := by
    obtain ⟨-, entry, -⟩ := load_by_flag returned .trace
    obtain ⟨stored, missing⟩ := entry fun value here => nomatch unset.symm.trans here
    obtain ⟨given, -⟩ := load_by_flag returned .snapshot
    refine ⟨Classical.byContradiction fun other => ?_, fun yes => ?_⟩
    · refine absurd (missing fun b found => ?_) Bool.false_ne_true
      cases b with
      | false => exact other found
      | true => exact absurd (stored true found) Bool.false_ne_true
    · exact absurd ((given "No" set (by simp)).2 yes) Bool.false_ne_true
  refine ⟨_, fun name => if name = "CHECKRULES_SNAPSHOT_CONTEXT" then some "No" else none, rfl,
    ?returned, apart _ _ ?returned (by simp) (by simp)⟩
  cbv

end Settings

end StagedChecks
