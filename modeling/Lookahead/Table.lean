/-!
# Ordered tables

A table maps distinct keys to values and remembers the order in which the keys
were first put in.  It is viewed through `keys` and `get?`.
-/

namespace Lookahead

/-- A finite map with its keys in the order of their first insertion. -/
structure Table (Key Value : Type) where
  entries : List (Key × Value)
  distinct : (entries.map Prod.fst).Nodup
  deriving DecidableEq

namespace Table

variable {Key Value Other : Type}

@[ext] theorem ext {left right : Table Key Value} (equal : left.entries = right.entries) :
    left = right := by
  cases left
  cases right
  simp_all

/-- The keys in order. -/
def keys (table : Table Key Value) : List Key :=
  table.entries.map Prod.fst

/-- The values in the order of their keys. -/
def values (table : Table Key Value) : List Value :=
  table.entries.map Prod.snd

/-- The table without keys. -/
def empty : Table Key Value where
  entries := []
  distinct := List.nodup_nil

theorem nodup_keys (table : Table Key Value) : table.keys.Nodup :=
  table.distinct

/-- Recompute every value from its key and the value before, and keep the
keys. -/
def mapEntries (image : Key → Value → Other) (table : Table Key Value) : Table Key Other where
  entries := table.entries.map fun entry => (entry.1, image entry.1 entry.2)
  distinct := by simpa [List.map_map, Function.comp_def] using table.distinct

@[simp] theorem keys_mapEntries (image : Key → Value → Other) (table : Table Key Value) :
    (table.mapEntries image).keys = table.keys := by
  simp [keys, mapEntries, Function.comp_def]

variable [DecidableEq Key]

/-- The value of a key. -/
def get? (table : Table Key Value) (key : Key) : Option Value :=
  table.entries.lookup key

/-- Whether a key is in the table. -/
def contains (table : Table Key Value) (key : Key) : Bool :=
  table.keys.contains key

@[simp] theorem contains_iff {table : Table Key Value} {key : Key} :
    table.contains key = true ↔ key ∈ table.keys := by
  simp [contains]

/-- Put a value at the place of its key, or at the end if the key is new. -/
def put (key : Key) (value : Value) : List (Key × Value) → List (Key × Value)
  | [] => [(key, value)]
  | entry :: rest =>
      if entry.1 = key then (key, value) :: rest else entry :: put key value rest

theorem map_fst_put (key : Key) (value : Value) (entries : List (Key × Value)) :
    (put key value entries).map Prod.fst =
      if key ∈ entries.map Prod.fst then entries.map Prod.fst
      else entries.map Prod.fst ++ [key] := by
  induction entries with
  | nil => simp [put]
  | cons entry rest ih =>
      by_cases equal : entry.1 = key
      · simp [put, equal]
      · have other : key ≠ entry.1 := fun same => equal same.symm
        simp only [put, equal, if_false, List.map_cons, ih, List.mem_cons, other, false_or]
        split <;> simp

/-- Give a key a value.  A key that is already there keeps its place. -/
def insert (table : Table Key Value) (key : Key) (value : Value) : Table Key Value where
  entries := put key value table.entries
  distinct := by
    rw [map_fst_put]
    split
    · exact table.distinct
    · next absent =>
        rw [List.nodup_append]
        refine ⟨table.distinct, by simp, ?_⟩
        intro left member right single
        simp only [List.mem_singleton] at single
        intro equal
        exact absent (single ▸ equal ▸ member)

/-- Inserting keeps the order of the keys and adds a new key at the end. -/
theorem keys_insert (table : Table Key Value) (key : Key) (value : Value) :
    (table.insert key value).keys =
      if key ∈ table.keys then table.keys else table.keys ++ [key] :=
  map_fst_put key value table.entries

@[simp] theorem get?_empty (key : Key) : (empty : Table Key Value).get? key = none := rfl

theorem lookup_cons_eq_ite (key first : Key) (value : Value) (rest : List (Key × Value)) :
    ((first, value) :: rest).lookup key = if key = first then some value else rest.lookup key := by
  by_cases equal : key = first
  · simp [equal]
  · have different : (key == first) = false := by simpa using equal
    simp only [List.lookup_cons, different, equal, if_false]

theorem lookup_put (key other : Key) (value : Value) (entries : List (Key × Value)) :
    (put key value entries).lookup other =
      if other = key then some value else entries.lookup other := by
  induction entries with
  | nil => simp only [put, lookup_cons_eq_ite]
  | cons entry rest ih =>
      obtain ⟨first, old⟩ := entry
      simp only [put]
      split
      · next same =>
          subst same
          simp only [lookup_cons_eq_ite]
          split <;> rfl
      · next different =>
          simp only [lookup_cons_eq_ite, ih]
          by_cases equal : other = first
          · simp [equal, different]
          · simp [equal]

/-- Inserting changes the value of one key. -/
@[simp] theorem get?_insert (table : Table Key Value) (key other : Key) (value : Value) :
    (table.insert key value).get? other = if other = key then some value else table.get? other :=
  lookup_put key other value table.entries

theorem lookup_mapEntries (image : Key → Value → Other) (key : Key)
    (entries : List (Key × Value)) :
    (entries.map fun entry => (entry.1, image entry.1 entry.2)).lookup key =
      (entries.lookup key).map (image key) := by
  induction entries with
  | nil => rfl
  | cons entry rest ih =>
      obtain ⟨first, value⟩ := entry
      simp only [List.map_cons, lookup_cons_eq_ite, ih]
      split
      · next equal => simp [equal]
      · rfl

/-- A recomputed value comes from the key and its value before. -/
@[simp] theorem get?_mapEntries (image : Key → Value → Other) (table : Table Key Value)
    (key : Key) : (table.mapEntries image).get? key = (table.get? key).map (image key) :=
  lookup_mapEntries image key table.entries

/-- The keys are what has a value. -/
theorem isSome_get?_iff {table : Table Key Value} {key : Key} :
    (table.get? key).isSome ↔ key ∈ table.keys := by
  unfold get? keys
  induction table.entries with
  | nil => simp
  | cons entry rest ih =>
      obtain ⟨first, value⟩ := entry
      simp only [lookup_cons_eq_ite, List.map_cons, List.mem_cons]
      split
      · next equal => simp [equal]
      · next different => simp [ih, different]

/-- The table that holds the given entries.  Of two entries with one key, the
place of the earlier and the value of the later one count. -/
def ofEntries (entries : List (Key × Value)) : Table Key Value :=
  entries.foldl (fun table entry => table.insert entry.1 entry.2) empty

/-- The table that gives every one of the keys the same value. -/
def constant (keys : List Key) (value : Value) : Table Key Value :=
  ofEntries (keys.map fun key => (key, value))

end Table

end Lookahead
