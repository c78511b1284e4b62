/-!
# Ordered tables

A table is a list of keyed entries. Writing to a key keeps the place of its first entry; a new key
goes to the end. Looking a key up finds its first entry.

## Main definitions

* `Table.get?` — the value under a key.
* `Table.put` — a table with one value written.
* `Table.merge` — the entries of a second table written in order into a first.
* `Table.ofPairs` — the table that pairs build when written in order.
-/

namespace StagedChecks

/-- Entries in the order in which their keys were first written. -/
abbrev Table (α : Type) := List (String × α)

namespace Table

variable {α β : Type}

/-- The value under a key. -/
def get? : Table α → String → Option α
  | [], _ => none
  | (k, x) :: rest, key => if k = key then some x else get? rest key

def put : Table α → String → α → Table α
  | [], key, value => [(key, value)]
  | (k, x) :: rest, key, value =>
    if k = key then (key, value) :: rest else (k, x) :: put rest key value

/-- Writes the entries of `updates` in order. -/
def merge (table updates : Table α) : Table α :=
  updates.foldl (fun built entry => put built entry.1 entry.2) table

/-- The table that pairs build; the last value of a repeated key counts, at its first place. -/
def ofPairs (pairs : List (String × α)) : Table α :=
  merge [] pairs

def keys (table : Table α) : List String :=
  table.map (·.1)

def has (table : Table α) (key : String) : Bool :=
  (get? table key).isSome

/-- The same keys with other values. -/
def mapValues (f : α → β) (table : Table α) : Table β :=
  table.map fun entry => (entry.1, f entry.2)

@[simp] theorem get?_nil (key : String) : get? ([] : Table α) key = none := rfl

@[simp] theorem get?_cons (k : String) (x : α) (rest : Table α) (key : String) :
    get? ((k, x) :: rest) key = if k = key then some x else get? rest key := rfl

/-- Reading after a write sees the value written, and elsewhere what was there. -/
theorem get?_put (table : Table α) (key : String) (value : α) (other : String) :
    get? (put table key value) other = if key = other then some value else get? table other := by
  induction table with
  | nil => rfl
  | cons entry rest ih =>
    obtain ⟨k, x⟩ := entry
    by_cases h : k = key
    · subst h
      by_cases h' : k = other <;> simp [put, h']
    · by_cases h' : k = other
      · subst h'
        simp [put, h, Ne.symm h]
      · simp [put, h, h', ih]

theorem keys_put (table : Table α) (key : String) (value : α) :
    keys (put table key value) =
      if key ∈ keys table then keys table else keys table ++ [key] := by
  induction table with
  | nil => rfl
  | cons entry rest ih =>
    obtain ⟨k, x⟩ := entry
    by_cases h : k = key
    · subst h
      simp [put, keys]
    · have ih' := ih
      simp only [keys] at ih'
      by_cases h' : key ∈ rest.map (·.1) <;> simp [put, keys, h, Ne.symm h, ih', h']

@[simp] theorem merge_nil (table : Table α) : merge table [] = table := rfl

@[simp] theorem merge_cons (table : Table α) (key : String) (value : α) (updates : Table α) :
    merge table ((key, value) :: updates) = merge (put table key value) updates := rfl

theorem get?_append (table more : Table α) (key : String) :
    get? (table ++ more) key = (get? table key).or (get? more key) := by
  induction table with
  | nil => rfl
  | cons entry rest ih =>
    obtain ⟨k, x⟩ := entry
    by_cases h : k = key <;> simp [h, ih]

/-- The last update of a key counts, and without one what was there. -/
theorem get?_merge (table updates : Table α) (key : String) :
    get? (merge table updates) key = (get? updates.reverse key).or (get? table key) := by
  induction updates generalizing table with
  | nil => rfl
  | cons entry updates ih =>
    obtain ⟨k, x⟩ := entry
    rw [merge_cons, ih, List.reverse_cons, get?_append, get?_put, Option.or_assoc]
    by_cases h : k = key <;> simp [h]

/-- In a table that was built from pairs a key has the value that was written last. -/
theorem get?_ofPairs (pairs : List (String × α)) (key : String) :
    get? (ofPairs pairs) key = get? pairs.reverse key := by
  rw [ofPairs, get?_merge, get?_nil, Option.or_none]

theorem get?_mapValues (f : α → β) (table : Table α) (key : String) :
    get? (mapValues f table) key = (get? table key).map f := by
  induction table with
  | nil => rfl
  | cons entry rest ih =>
    obtain ⟨k, x⟩ := entry
    simp only [mapValues] at ih
    by_cases h : k = key <;> simp [mapValues, h, ih]

theorem get?_eq_head?_filter (table : Table α) (key : String) :
    get? table key = (table.filter fun entry => entry.1 = key).head?.map (·.2) := by
  induction table with
  | nil => rfl
  | cons entry rest ih =>
    obtain ⟨k, x⟩ := entry
    by_cases h : k = key <;> simp [h, ih]

theorem mem_of_get? {table : Table α} {key : String} {value : α}
    (found : get? table key = some value) : (key, value) ∈ table := by
  induction table with
  | nil => simp at found
  | cons entry rest ih =>
    obtain ⟨k, x⟩ := entry
    by_cases h : k = key
    · simp_all
    · exact List.mem_cons_of_mem _ (ih (by simpa [h] using found))

theorem get?_eq_none_iff {table : Table α} {key : String} :
    get? table key = none ↔ key ∉ keys table := by
  induction table with
  | nil => simp [keys]
  | cons entry rest ih =>
    obtain ⟨k, x⟩ := entry
    by_cases same : k = key
    · simp [keys, same]
    · simpa [keys, same, Ne.symm same] using ih

theorem get?_of_mem {table : Table α} {key : String} {value : α} (distinct : (keys table).Nodup)
    (member : (key, value) ∈ table) : get? table key = some value := by
  induction table with
  | nil => cases member
  | cons entry rest ih =>
    obtain ⟨k, x⟩ := entry
    obtain ⟨fresh, distinct⟩ := List.nodup_cons.1 distinct
    rcases List.mem_cons.1 member with same | member
    · cases same
      simp
    · have other : k ≠ key := by
        rintro rfl
        exact fresh (List.mem_map.2 ⟨_, member, rfl⟩)
      simp [other, ih distinct member]

theorem put_of_not_mem {table : Table α} {key : String} (fresh : key ∉ keys table) (value : α) :
    put table key value = table ++ [(key, value)] := by
  induction table with
  | nil => rfl
  | cons entry rest ih =>
    obtain ⟨k, x⟩ := entry
    simp only [keys, List.map_cons, List.mem_cons, not_or] at fresh
    simp [put, Ne.symm fresh.1, ih fresh.2]

theorem merge_of_nodup {table updates : Table α} (distinct : (keys (table ++ updates)).Nodup) :
    merge table updates = table ++ updates := by
  induction updates generalizing table with
  | nil => simp
  | cons entry updates ih =>
    obtain ⟨k, x⟩ := entry
    have fresh : k ∉ keys table := by
      intro old
      simp only [keys, List.map_append, List.map_cons] at distinct
      exact (List.nodup_append.1 distinct).2.2 k old k (List.mem_cons_self ..) rfl
    rw [merge_cons, put_of_not_mem fresh, ih (by simpa using distinct), List.append_assoc,
      List.singleton_append]

theorem ofPairs_of_nodup {pairs : List (String × α)} (distinct : (keys pairs).Nodup) :
    ofPairs pairs = pairs :=
  (merge_of_nodup distinct : merge [] pairs = [] ++ pairs)

end Table

end StagedChecks
