import Mathlib.Data.List.Nodup
import StagedChecks.Proofs.Dependence
import StagedChecks.Proofs.Passes

/-!
# Updates in sequence

Bindings that were updated several times are those that could have been built at once: a name has
the data of the last table that mentions it, and the instances stay as they were. Each update is
looked at when it is made, so that a table with data that cannot be wrapped ends the sequence, even
if a later one would have written the same names again.

## Main definitions

* `Table.last?` — the value under a key in the last of some tables that have it.
* `Table.mergeAll` — tables written into one, one after the other.
* `Table.IsAccepted` — tables of data that can be wrapped.
* `Bindings.updateAll`, `Bindings.progress` — updates one after the other.

## Main statements

* `Table.get?_mergeAll` — the last of the tables that have a key wins.
* `Bindings.update_returns_iff` — an update succeeds when its data can be wrapped.
* `Bindings.value?_of_updateAll`, `Bindings.instance?_of_updateAll` — the names after some updates.
* `Bindings.exists_first_of_progress_error` — a sequence ends at the first table that is not
  accepted.
* `Bindings.progress_at_once` — updates in sequence come to what is built at once.
-/

namespace StagedChecks

namespace Table

variable {α : Type} {table updates : Table α} {tables : List (Table α)} {key : String} {value : α}

/-- The value under a key in the last of some tables that have it. -/
def last? (tables : List (Table α)) (key : String) : Option α :=
  tables.reverse.findSome? (get? · key)

@[simp] theorem last?_nil (key : String) : last? ([] : List (Table α)) key = none := rfl

@[simp] theorem last?_cons (table : Table α) (tables : List (Table α)) (key : String) :
    last? (table :: tables) key = (last? tables key).or (get? table key) := by
  simp [last?, List.findSome?_append]

theorem last?_singleton (table : Table α) (key : String) :
    last? [table] key = get? table key := by simp

/-- A table into which others were written, one after the other. -/
def mergeAll (table : Table α) (tables : List (Table α)) : Table α :=
  tables.foldl merge table

@[simp] theorem mergeAll_cons (table next : Table α) (tables : List (Table α)) :
    mergeAll table (next :: tables) = mergeAll (merge table next) tables := rfl

theorem exists_mem_of_last? (found : last? tables key = some value) :
    ∃ table ∈ tables, (key, value) ∈ table := by
  obtain ⟨table, member, here⟩ := List.exists_of_findSome?_eq_some found
  exact ⟨table, List.mem_reverse.1 member, mem_of_get? here⟩

/-- A table of distinct keys may be read from its end. -/
theorem get?_reverse (distinct : (keys table).Nodup) (key : String) :
    get? table.reverse key = get? table key := by
  have reversed : (keys table.reverse).Nodup := by
    rw [keys, List.map_reverse]
    exact List.nodup_reverse.2 distinct
  ext value
  constructor
  · exact fun found => get?_of_mem distinct (List.mem_reverse.1 (mem_of_get? found))
  · exact fun found => get?_of_mem reversed (List.mem_reverse.2 (mem_of_get? found))

theorem mem_of_mem_put {entry : String × α} (member : entry ∈ put table key value) :
    entry ∈ table ∨ entry = (key, value) := by
  induction table with
  | nil => exact .inr (List.mem_singleton.1 member)
  | cons first rest ih =>
    obtain ⟨k, x⟩ := first
    by_cases same : k = key
    · simp only [put, same, if_true, List.mem_cons] at member
      exact member.elim .inr fun old => .inl (List.mem_cons_of_mem _ old)
    · simp only [put, same, if_false, List.mem_cons] at member
      rcases member with rfl | member
      · exact .inl (List.mem_cons_self ..)
      · exact (ih member).imp_left (List.mem_cons_of_mem _)

/-- The entries of a table into which another was written are entries of one of them. -/
theorem mem_of_mem_merge {entry : String × α} (member : entry ∈ merge table updates) :
    entry ∈ table ∨ entry ∈ updates := by
  induction updates generalizing table with
  | nil => exact .inl member
  | cons first rest ih =>
    rcases ih member with written | later
    · rcases mem_of_mem_put written with old | rfl
      · exact .inl old
      · exact .inr (List.mem_cons_self ..)
    · exact .inr (List.mem_cons_of_mem _ later)

/-- All entries of an update with distinct keys are found after it was written. -/
theorem mem_merge_of_mem {entry : String × α} (distinct : (keys updates).Nodup)
    (member : entry ∈ updates) : entry ∈ merge table updates := by
  apply mem_of_get?
  rw [get?_merge, get?_reverse distinct, get?_of_mem distinct member]
  rfl

/-- The last of the tables that have a key wins. -/
theorem get?_mergeAll (distinct : ∀ table ∈ tables, (keys table).Nodup) (key : String) :
    get? (mergeAll table tables) key = last? (table :: tables) key := by
  induction tables generalizing table with
  | nil => exact (last?_singleton table key).symm
  | cons next tables ih =>
    obtain ⟨first, others⟩ := List.forall_mem_cons.1 distinct
    rw [mergeAll_cons, ih others]
    simp only [last?_cons, get?_merge, get?_reverse first, Option.or_assoc]

theorem mem_of_mem_mergeAll {entry : String × α} (member : entry ∈ mergeAll table tables) :
    ∃ source ∈ table :: tables, entry ∈ source := by
  induction tables generalizing table with
  | nil => exact ⟨table, List.mem_cons_self, member⟩
  | cons next tables ih =>
    rw [mergeAll_cons] at member
    obtain ⟨source, among, held⟩ := ih member
    rcases List.mem_cons.1 among with rfl | later
    · rcases mem_of_mem_merge held with old | new
      · exact ⟨table, by simp, old⟩
      · exact ⟨next, by simp, new⟩
    · exact ⟨source, by simp [later], held⟩

/-- Whether all data of a table can be wrapped. -/
def IsAccepted (table : Table Data) : Prop :=
  ∀ e ∈ table, ∃ v, Value.ofData e.2 = .ok v

theorem isAccepted_iff {table : Table Data} :
    table.IsAccepted ↔ ∀ e ∈ table, e.2.firstForeign? = none := by
  simp [IsAccepted, Value.ofData_eq_ok_iff]

end Table

namespace Bindings

variable {b b' : Bindings} {values instances updates : Table Data} {tables : List (Table Data)}
  {fault : Fault}

/-- Bindings after some updates, one after the other. -/
def updateAll (b : Bindings) (tables : List (Table Data)) : Except Fault Bindings :=
  tables.foldlM update b

/-- Bindings that are built of data and then updated. -/
def progress (values instances : Table Data) (tables : List (Table Data)) :
    Except Fault Bindings := do
  (← ofData values instances).updateAll tables

theorem wrapTable_eq_error {table : Table Data} (failed : wrapTable table = .error fault) :
    ∃ e ∈ table, Value.ofData e.2 = .error fault := by
  obtain ⟨before, e, after, rfl, -, failed⟩ := mapM_eq_error_iff.1 failed
  refine ⟨e, by simp, ?_⟩
  rcases bind_eq_error_iff.1 failed with broken | ⟨v, -, returned⟩
  · exact broken
  · cases returned

/-- Bindings are built of tables that are accepted. -/
theorem ofData_returns_iff :
    (∃ b, ofData values instances = .ok b) ↔ values.IsAccepted ∧ instances.IsAccepted := by
  simp only [ofData_eq_ok_iff, Table.isAccepted_iff]
  exact ⟨fun ⟨_, first, second, _⟩ => ⟨first, second⟩,
    fun ⟨first, second⟩ => ⟨_, first, second, rfl⟩⟩

theorem ofData_eq_error (failed : ofData values instances = .error fault) :
    (∃ e ∈ values, Value.ofData e.2 = .error fault) ∨
      values.IsAccepted ∧ ∃ e ∈ instances, Value.ofData e.2 = .error fault := by
  rcases bind_eq_error_iff.1 failed with held | ⟨wrapped, first, failed⟩
  · exact .inl (wrapTable_eq_error held)
  · rcases bind_eq_error_iff.1 failed with held | ⟨wrapped', -, returned⟩
    · exact .inr ⟨Table.isAccepted_iff.2 (wrapTable_eq_ok_iff.1 first).1, wrapTable_eq_error held⟩
    · cases returned

/-- The values of bindings are data that can be wrapped again. -/
theorem isAccepted_toData (table : Table Value) :
    (Table.mapValues Value.toData table).IsAccepted := by
  rintro e member
  obtain ⟨entry, -, rfl⟩ := List.mem_map.1 member
  exact ⟨entry.2, Value.ofData_toData _⟩

/-- An update succeeds when its data can be wrapped. -/
theorem update_returns_iff (distinct : (Table.keys updates).Nodup) :
    (∃ b', b.update updates = .ok b') ↔ updates.IsAccepted := by
  rw [update, ofData_returns_iff]
  constructor
  · exact fun ⟨all, _⟩ e member => all e (Table.mem_merge_of_mem distinct member)
  · refine fun accepted => ⟨fun e member => ?_, isAccepted_toData _⟩
    exact (Table.mem_of_mem_merge member).elim (isAccepted_toData _ e) (accepted e)

/-- An update that fails holds the data at fault. -/
theorem update_eq_error (failed : b.update updates = .error fault) :
    ∃ e ∈ updates, Value.ofData e.2 = .error fault := by
  have wrapped {table : Table Value} {e : String × Data}
      (member : e ∈ Table.mapValues Value.toData table)
      (broken : Value.ofData e.2 = .error fault) : False := by
    obtain ⟨v, done⟩ := isAccepted_toData table e member
    cases done.symm.trans broken
  rcases ofData_eq_error failed with ⟨e, member, broken⟩ | ⟨-, e, member, broken⟩
  · rcases Table.mem_of_mem_merge member with old | new
    · exact (wrapped old broken).elim
    · exact ⟨e, new, broken⟩
  · exact (wrapped member broken).elim

theorem updateAll_cons (b : Bindings) (table : Table Data) (tables : List (Table Data)) :
    b.updateAll (table :: tables) = b.update table >>= (·.updateAll tables) :=
  List.foldlM_cons

theorem progress_eq_ok_iff :
    progress values instances tables = .ok b' ↔
      ∃ b, ofData values instances = .ok b ∧ b.updateAll tables = .ok b' :=
  bind_eq_ok_iff

/-- After some updates a name has the value written last, if any was. -/
theorem value?_of_updateAll (distinct : ∀ table ∈ tables, (Table.keys table).Nodup)
    (updated : b.updateAll tables = .ok b') (name : String) :
    b'.value? name = ((Table.last? tables name).map Value.wrap).or (b.value? name) := by
  induction tables generalizing b with
  | nil =>
    cases updated
    rfl
  | cons table tables ih =>
    obtain ⟨first, others⟩ := List.forall_mem_cons.1 distinct
    rw [updateAll_cons, bind_eq_ok_iff] at updated
    obtain ⟨next, step, updated⟩ := updated
    rw [ih others updated, value?_of_update step, Table.get?_reverse first, Table.last?_cons,
      Option.map_or, Option.or_assoc]

theorem instance?_of_updateAll (updated : b.updateAll tables = .ok b') (selfRef : String) :
    b'.instance? selfRef = b.instance? selfRef := by
  induction tables generalizing b with
  | nil =>
    cases updated
    rfl
  | cons table tables ih =>
    rw [updateAll_cons, bind_eq_ok_iff] at updated
    obtain ⟨next, step, updated⟩ := updated
    rw [ih updated, instance?_of_update step]

/-- Updates succeed one after the other when the data of all can be wrapped. -/
theorem updateAll_returns_iff (distinct : ∀ table ∈ tables, (Table.keys table).Nodup) :
    (∃ b', b.updateAll tables = .ok b') ↔ ∀ table ∈ tables, table.IsAccepted := by
  induction tables generalizing b with
  | nil => simp [updateAll, pure, Except.pure]
  | cons table tables ih =>
    obtain ⟨first, others⟩ := List.forall_mem_cons.1 distinct
    simp only [updateAll_cons, bind_eq_ok_iff, List.forall_mem_cons]
    constructor
    · rintro ⟨b', next, step, updated⟩
      exact ⟨(update_returns_iff first).1 ⟨next, step⟩, (ih others).1 ⟨b', updated⟩⟩
    · rintro ⟨here, rest⟩
      obtain ⟨next, step⟩ := (update_returns_iff (b := b) first).2 here
      obtain ⟨b', updated⟩ := (ih (b := next) others).2 rest
      exact ⟨b', next, step, updated⟩

/-- A sequence of updates that fails does so at the first table that is not accepted. -/
theorem exists_first_of_updateAll_error (distinct : ∀ table ∈ tables, (Table.keys table).Nodup)
    (failed : b.updateAll tables = .error fault) :
    ∃ before table after, tables = before ++ table :: after ∧
      (∀ earlier ∈ before, earlier.IsAccepted) ∧ ∃ e ∈ table, Value.ofData e.2 = .error fault := by
  induction tables generalizing b with
  | nil => cases failed
  | cons table tables ih =>
    obtain ⟨first, others⟩ := List.forall_mem_cons.1 distinct
    rw [updateAll_cons, bind_eq_error_iff] at failed
    rcases failed with stopped | ⟨next, step, failed⟩
    · exact ⟨[], table, tables, rfl, by simp, update_eq_error stopped⟩
    · obtain ⟨before, broken, after, rfl, accepted, held⟩ := ih others failed
      have here := (update_returns_iff first).1 ⟨next, step⟩
      exact ⟨table :: before, broken, after, rfl, List.forall_mem_cons.2 ⟨here, accepted⟩, held⟩

theorem progress_returns_iff (distinct : ∀ table ∈ tables, (Table.keys table).Nodup) :
    (∃ b, progress values instances tables = .ok b) ↔
      ∀ table ∈ values :: instances :: tables, table.IsAccepted := by
  simp only [progress_eq_ok_iff, List.forall_mem_cons]
  constructor
  · rintro ⟨b', b, built, updated⟩
    obtain ⟨first, second⟩ := ofData_returns_iff.1 ⟨b, built⟩
    exact ⟨first, second, (updateAll_returns_iff distinct).1 ⟨b', updated⟩⟩
  · rintro ⟨first, second, others⟩
    obtain ⟨b, built⟩ := ofData_returns_iff.2 ⟨first, second⟩
    obtain ⟨b', updated⟩ := (updateAll_returns_iff (b := b) distinct).2 others
    exact ⟨b', b, built, updated⟩

/-- Of the tables that bindings are built of and updated with, the first that is not accepted ends
the sequence. -/
theorem exists_first_of_progress_error (distinct : ∀ table ∈ tables, (Table.keys table).Nodup)
    (failed : progress values instances tables = .error fault) :
    ∃ before table after, values :: instances :: tables = before ++ table :: after ∧
      (∀ earlier ∈ before, earlier.IsAccepted) ∧ ∃ e ∈ table, Value.ofData e.2 = .error fault := by
  rcases bind_eq_error_iff.1 failed with broken | ⟨b, built, failed⟩
  · rcases ofData_eq_error broken with held | ⟨first, held⟩
    · exact ⟨[], values, _, rfl, by simp, held⟩
    · exact ⟨[values], instances, _, rfl, by simpa using first, held⟩
  · obtain ⟨before, table, after, rfl, accepted, held⟩ :=
      exists_first_of_updateAll_error distinct failed
    obtain ⟨first, second⟩ := ofData_returns_iff.1 ⟨b, built⟩
    exact ⟨values :: instances :: before, table, after, rfl,
      List.forall_mem_cons.2 ⟨first, List.forall_mem_cons.2 ⟨second, accepted⟩⟩, held⟩

/-- After a sequence a name has the data of the last table that mentions it. -/
theorem value?_of_progress (distinct : ∀ table ∈ tables, (Table.keys table).Nodup)
    (done : progress values instances tables = .ok b) (name : String) :
    b.value? name = (Table.last? (values :: tables) name).map Value.wrap := by
  obtain ⟨built, first, updated⟩ := progress_eq_ok_iff.1 done
  obtain ⟨-, -, rfl⟩ := ofData_eq_ok_iff.1 first
  rw [value?_of_updateAll distinct updated, Table.last?_cons, Option.map_or, value?,
    Table.get?_mapValues]

theorem instance?_of_progress (done : progress values instances tables = .ok b) (selfRef : String) :
    b.instance? selfRef = (Table.get? instances selfRef).map Value.wrap := by
  obtain ⟨built, first, updated⟩ := progress_eq_ok_iff.1 done
  obtain ⟨-, -, rfl⟩ := ofData_eq_ok_iff.1 first
  rw [instance?_of_updateAll updated, instance?, Table.get?_mapValues]

/-- The data that a name has after a sequence was wrapped on the way. -/
theorem ofData_of_progress (distinct : ∀ table ∈ tables, (Table.keys table).Nodup)
    (done : progress values instances tables = .ok b) {name : String} {d : Data}
    (found : Table.last? (values :: tables) name = some d) :
    Value.ofData d = .ok (Value.wrap d) := by
  obtain ⟨table, member, entry⟩ := Table.exists_mem_of_last? found
  have accepted := (progress_returns_iff distinct).1 ⟨b, done⟩ table
    ((List.cons_subset_cons values (List.subset_cons_self instances tables)) member)
  exact Value.ofData_eq_ok_iff.2 ⟨Table.isAccepted_iff.1 accepted _ entry, rfl⟩

end Bindings

namespace Rule

variable {kind : Kind} {rules : List Rule} {b b' : Bindings} {selfRef : Option String}
  {repetition : Option Repetition} {sink : Option Sink} {settings : Option Settings}

/-- Bindings with the same names and instances are the same to every set of rules. -/
theorem evaluateAll_of_same_bindings (values : ∀ name, b'.value? name = b.value? name)
    (instances : ∀ name, b'.instance? name = b.instance? name) :
    evaluateAll kind rules b'.toContext selfRef repetition sink settings =
      evaluateAll kind rules b.toContext selfRef repetition sink settings := by
  refine evaluateAll_congr fun rule _ => evaluate_of_agreeOn fun references first _ => ?_
  exact ⟨fun r _ _ => values r.subject, fun _ => by rw [funext instances], fun _ => rfl,
    fun _ => ⟨rfl, rfl⟩⟩

end Rule

namespace Bindings

/-- Updates in sequence come to what is built at once, if each table of updates has a name once. If
all succeed, a name has the data of the last table that mentions it, every instance is what it was
at first, and a set of rules is evaluated as over the bindings that are built at once of all tables
written into one. A sequence succeeds as far as the data of its tables can be wrapped; so it ends at
the first table with data that cannot, whatever later tables write, and that data is at fault. -/
theorem progress_at_once {values instances : Table Data} {tables : List (Table Data)}
    (distinct : ∀ table ∈ tables, (Table.keys table).Nodup) :
    (∀ b, progress values instances tables = .ok b →
      (∀ name, (b.value? name).map Except.ok =
        (Table.last? (values :: tables) name).map Value.ofData) ∧
      (∃ first, ofData values instances = .ok first ∧
        ∀ selfRef, b.instance? selfRef = first.instance? selfRef) ∧
      ∃ direct, ofData (Table.mergeAll values tables) instances = .ok direct ∧
        ∀ kind rules selfRef repetition sink settings,
          Rule.evaluateAll kind rules b.toContext selfRef repetition sink settings =
            Rule.evaluateAll kind rules direct.toContext selfRef repetition sink settings) ∧
    (∀ before, before <+: tables →
      ((∃ b, progress values instances before = .ok b) ↔
        ∀ table ∈ values :: instances :: before, table.IsAccepted)) ∧
    ∀ fault, progress values instances tables = .error fault →
      ∃ before table after, values :: instances :: tables = before ++ table :: after ∧
        (∀ earlier ∈ before, earlier.IsAccepted) ∧
        ∃ e ∈ table, Value.ofData e.2 = .error fault := by
  refine ⟨fun b done => ⟨fun name => ?_, ?_, ?_⟩, fun before part => ?_,
    fun fault => exists_first_of_progress_error distinct⟩
  · rw [value?_of_progress distinct done]
    cases found : Table.last? (values :: tables) name with
    | none => rfl
    | some d => exact congrArg some (ofData_of_progress distinct done found).symm
  · obtain ⟨first, built, updated⟩ := progress_eq_ok_iff.1 done
    exact ⟨first, built, instance?_of_updateAll updated⟩
  · have each := (progress_returns_iff distinct).1 ⟨b, done⟩
    have accepted : (Table.mergeAll values tables).IsAccepted := by
      intro e member
      obtain ⟨table, among, held⟩ := Table.mem_of_mem_mergeAll member
      exact each table ((List.cons_subset_cons values (List.subset_cons_self ..)) among) e held
    obtain ⟨direct, built⟩ := ofData_returns_iff.2 ⟨accepted, each instances (by simp)⟩
    have atOnce : progress (Table.mergeAll values tables) instances [] = .ok direct :=
      progress_eq_ok_iff.2 ⟨direct, built, rfl⟩
    refine ⟨direct, built, fun kind rules selfRef repetition sink settings => ?_⟩
    refine Rule.evaluateAll_of_same_bindings (fun name => ?_) (fun name => ?_)
    · rw [value?_of_progress distinct done, value?_of_progress (by simp) atOnce,
        Table.last?_singleton, Table.get?_mergeAll distinct]
    · rw [instance?_of_progress done, instance?_of_progress atOnce]
  · exact progress_returns_iff fun table member => distinct table (part.subset member)

/-- A name is pending for a while and then known; at once it is known from the start. If a set was
written before, nothing comes of the sequence, though the name is written again. -/
theorem progress_at_once_rewritten :
    let values : Table Data := [("var.a", .int 1), ("var.b", .bool true)]
    let pending : Table Data := [("var.b", Value.unknown.toData)]
    let known : Table Data := [("var.b", .str "on"), ("var.c", .null)]
    let refused : Table Data := [("var.b", .foreign "set" 0)]
    let merged : Table Data := [("var.a", .int 1), ("var.b", .str "on"), ("var.c", .null)]
    ∃ b direct, progress values [] [pending, known] = .ok b ∧ ofData merged [] = .ok direct ∧
      b.value? "var.a" = some (.wrap (.int 1)) ∧ b.value? "var.b" = some (.wrap (.str "on")) ∧
      (∀ kind rules selfRef repetition sink settings,
        Rule.evaluateAll kind rules b.toContext selfRef repetition sink settings =
          Rule.evaluateAll kind rules direct.toContext selfRef repetition sink settings) ∧
      ¬ ∃ b, progress values [] [refused, known] = .ok b := by
  intro values pending known refused merged
  obtain ⟨b, done⟩ : ∃ b, progress values [] [pending, known] = .ok b := ⟨_, rfl⟩
  obtain ⟨succeeds, -⟩ := @progress_at_once values [] [pending, known] (by decide)
  obtain ⟨-, stops, -⟩ := @progress_at_once values [] [refused, known] (by decide)
  obtain ⟨named, -, direct, built, same⟩ := succeeds b done
  have found {name : String} {d : Data} (here : Table.last? [values, pending, known] name = some d)
      (clean : Value.ofData d = .ok (.wrap d)) : b.value? name = some (.wrap d) := by
    have := named name
    rw [here, Option.map_some, clean] at this
    obtain ⟨v, stands, equal⟩ := Option.map_eq_some_iff.1 this
    cases equal
    exact stands
  refine ⟨b, direct, done, built, found rfl rfl, found rfl rfl, same, ?_⟩
  rw [stops _ (List.prefix_refl _)]
  intro accepted
  obtain ⟨v, wrapped⟩ := accepted refused (by simp) _ (List.mem_singleton_self _)
  cases wrapped

end Bindings

end StagedChecks
