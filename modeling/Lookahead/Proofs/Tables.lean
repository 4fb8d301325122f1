import Lookahead.Table
import Mathlib.Data.Finset.Card

/-!
# Tables by their entries

A table is determined by its keys in order and by the value of each of them.
-/

namespace Lookahead.Table

variable {Key Value : Type} [DecidableEq Key]

theorem lookup_eq_some_iff {entries : List (Key × Value)} {key : Key} {value : Value}
    (distinct : (entries.map Prod.fst).Nodup) :
    entries.lookup key = some value ↔ (key, value) ∈ entries := by
  induction entries with
  | nil => simp
  | cons entry rest ih =>
      obtain ⟨first, held⟩ := entry
      rw [List.map_cons, List.nodup_cons] at distinct
      rw [lookup_cons_eq_ite, List.mem_cons, Prod.mk.injEq]
      by_cases same : key = first
      · subst same
        have absent : (key, value) ∉ rest := by
          intro member
          exact distinct.1 (List.mem_map.2 ⟨_, member, rfl⟩)
        simp [absent, eq_comm]
      · simp [same, ih distinct.2]

/-- A key has the value of its entry. -/
theorem get?_eq_some_iff {table : Table Key Value} {key : Key} {value : Value} :
    table.get? key = some value ↔ (key, value) ∈ table.entries :=
  lookup_eq_some_iff table.distinct

theorem get?_eq_none_iff {table : Table Key Value} {key : Key} :
    table.get? key = none ↔ key ∉ table.keys := by
  rw [← isSome_get?_iff]
  simp

/-- The values do not depend on the order of the entries. -/
theorem get?_eq_of_perm {left right : Table Key Value} (same : left.entries.Perm right.entries)
    (key : Key) : left.get? key = right.get? key := by
  ext value
  rw [get?_eq_some_iff, get?_eq_some_iff]
  exact same.mem_iff

/-- A new key is put in at the end. -/
theorem entries_insert_of_not_mem {table : Table Key Value} {key : Key} (value : Value)
    (absent : key ∉ table.keys) :
    (table.insert key value).entries = table.entries ++ [(key, value)] := by
  have onLists : ∀ entries : List (Key × Value), key ∉ entries.map Prod.fst →
      put key value entries = entries ++ [(key, value)] := by
    intro entries absent
    induction entries with
    | nil => rfl
    | cons entry rest ih =>
        rw [List.map_cons, List.mem_cons, not_or] at absent
        rw [put, if_neg (Ne.symm absent.1), ih absent.2, List.cons_append]
  exact onLists table.entries absent

theorem entries_eq_of_lookup_eq {left right : List (Key × Value)}
    (distinct : (left.map Prod.fst).Nodup) (keys : left.map Prod.fst = right.map Prod.fst)
    (values : ∀ key ∈ left.map Prod.fst, left.lookup key = right.lookup key) : left = right := by
  induction left generalizing right with
  | nil => exact (List.map_eq_nil_iff.1 keys.symm).symm
  | cons entry rest ih =>
      cases right with
      | nil => simp at keys
      | cons other later =>
          obtain ⟨first, held⟩ := entry
          obtain ⟨second, given⟩ := other
          simp only [List.map_cons, List.cons.injEq] at keys distinct
          obtain ⟨rfl, keys⟩ := keys
          rw [List.nodup_cons] at distinct
          have heads : held = given := by
            simpa [lookup_cons_eq_ite] using values first (by simp)
          have tails : rest = later := by
            apply ih distinct.2 keys
            intro key member
            have different : key ≠ first := by
              intro same
              exact distinct.1 (same ▸ member)
            simpa [lookup_cons_eq_ite, different] using values key (by simp [member])
          rw [heads, tails]

/-- Two tables with the same keys in order and the same values are equal. -/
theorem eq_of_get?_eq {left right : Table Key Value} (keys : left.keys = right.keys)
    (values : ∀ key ∈ left.keys, left.get? key = right.get? key) : left = right :=
  Table.ext (entries_eq_of_lookup_eq left.distinct keys values)

theorem get?_foldl_insert (keys : List Key) (value : Value) (table : Table Key Value)
    (key : Key) :
    (keys.foldl (fun table key => table.insert key value) table).get? key =
      if key ∈ keys then some value else table.get? key := by
  induction keys generalizing table with
  | nil => simp
  | cons first rest ih =>
      rw [List.foldl_cons, ih, get?_insert]
      by_cases later : key ∈ rest <;> simp [later]

@[simp] theorem get?_constant (keys : List Key) (value : Value) (key : Key) :
    (constant keys value).get? key = if key ∈ keys then some value else none := by
  rw [constant, ofEntries, List.foldl_map, get?_foldl_insert, get?_empty]

@[simp] theorem mem_keys_constant {keys : List Key} {value : Value} {key : Key} :
    key ∈ (constant keys value).keys ↔ key ∈ keys := by
  rw [← isSome_get?_iff, get?_constant]
  split <;> simp_all

/-- A constant table has one entry for each of the keys, however often it is
listed. -/
theorem card_toFinset_le_length_entries (keys : List Key) (value : Value) :
    keys.toFinset.card ≤ (constant keys value).entries.length := by
  have sameKeys : keys.toFinset = (constant keys value).keys.toFinset := by
    ext key
    simp
  calc keys.toFinset.card = (constant keys value).keys.toFinset.card := by rw [sameKeys]
    _ ≤ (constant keys value).keys.length := List.toFinset_card_le _
    _ = (constant keys value).entries.length := List.length_map _

end Lookahead.Table
