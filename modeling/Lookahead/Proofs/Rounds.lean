import Lookahead.Proofs.Iteration
import Lookahead.Proofs.Tables
import Lookahead.TerminalSet
import Mathlib.Order.Monotone.Basic

/-!
# Rounds over tables of terminal sets

FIRST and FOLLOW sets are computed alike: every set of a table is recomputed from
the table before, beginning with empty sets.  If recomputing grows with its
input, every state lies within the next one.  If where a terminal gets to depends
only on where it is, the terminal reaches its last key in at most one round for
each key, and the iteration ends however many terminals there are.
-/

namespace Lookahead

variable {Key : Type} [DecidableEq Key]

namespace Table

/-- The set of a key, empty if the key has none. -/
def setOf (sets : Table Key TerminalSet) (key : Key) : TerminalSet :=
  (sets.get? key).getD ∅

/-- The set of every key is contained in its set on the right. -/
def Within (left right : Table Key TerminalSet) : Prop :=
  ∀ key terminal, terminal ∈ left.setOf key → terminal ∈ right.setOf key

/-- A terminal is in the sets of the same keys. -/
def Agree (terminal : Terminal) (left right : Table Key TerminalSet) : Prop :=
  ∀ key, terminal ∈ left.setOf key ↔ terminal ∈ right.setOf key

theorem Within.refl (sets : Table Key TerminalSet) : sets.Within sets := by
  intro key terminal member
  exact member

theorem Within.trans {left middle right : Table Key TerminalSet} (first : left.Within middle)
    (second : middle.Within right) : left.Within right := by
  intro key terminal member
  exact second key terminal (first key terminal member)

theorem setOf_of_not_mem_keys {sets : Table Key TerminalSet} {key : Key}
    (absent : key ∉ sets.keys) : sets.setOf key = ∅ := by
  rw [setOf, get?_eq_none_iff.2 absent, Option.getD_none]

theorem get?_eq_some_setOf {sets : Table Key TerminalSet} {key : Key} (listed : key ∈ sets.keys) :
    sets.get? key = some (sets.setOf key) := by
  obtain ⟨set, found⟩ := Option.isSome_iff_exists.1 (isSome_get?_iff.2 listed)
  rw [setOf, found, Option.getD_some]

theorem setOf_constant_empty (keys : List Key) (key : Key) :
    (constant keys (∅ : TerminalSet)).setOf key = ∅ := by
  rw [setOf, get?_constant]
  split <;> rfl

theorem mem_keys_of_mem_setOf {sets : Table Key TerminalSet} {key : Key} {terminal : Terminal}
    (member : terminal ∈ sets.setOf key) : key ∈ sets.keys := by
  by_contra absent
  rw [setOf_of_not_mem_keys absent] at member
  exact TerminalSet.not_mem_empty terminal member

theorem setOf_mapEntries {sets : Table Key TerminalSet} {key : Key} (listed : key ∈ sets.keys)
    (image : Key → TerminalSet) :
    (sets.mapEntries fun key _ => image key).setOf key = image key := by
  rw [setOf, get?_mapEntries, get?_eq_some_setOf listed, Option.map_some, Option.getD_some]

theorem eq_of_agree {left right : Table Key TerminalSet} (keys : left.keys = right.keys)
    (agree : ∀ terminal, Agree terminal left right) : left = right := by
  apply eq_of_get?_eq keys
  intro key listed
  have sets : left.setOf key = right.setOf key := TerminalSet.ext fun terminal => agree terminal key
  rw [get?_eq_some_setOf listed, get?_eq_some_setOf (keys ▸ listed), sets]

end Table

namespace Rounds

open Table

variable (recompute : Table Key TerminalSet → Key → TerminalSet) (keys : List Key)

/-- One round: every set is recomputed from the sets before it. -/
def round (sets : Table Key TerminalSet) : Table Key TerminalSet :=
  sets.mapEntries fun key _ => recompute sets key

/-- The state after some rounds, the first of which begins with empty sets. -/
def state (count : Nat) : Table Key TerminalSet :=
  (round recompute)^[count] (Table.constant keys ∅)

variable {recompute keys}

theorem state_succ (count : Nat) :
    state recompute keys (count + 1) = round recompute (state recompute keys count) :=
  Function.iterate_succ_apply' _ _ _

omit [DecidableEq Key] in
@[simp] theorem keys_round (sets : Table Key TerminalSet) :
    (round recompute sets).keys = sets.keys :=
  keys_mapEntries _ sets

theorem keys_state (count : Nat) :
    (state recompute keys count).keys = (Table.constant keys (∅ : TerminalSet)).keys := by
  induction count with
  | zero => rfl
  | succ count ih => rw [state_succ, keys_round, ih]

@[simp] theorem mem_keys_state {count : Nat} {key : Key} :
    key ∈ (state recompute keys count).keys ↔ key ∈ keys := by
  rw [keys_state, mem_keys_constant]

theorem not_mem_state_zero (key : Key) (terminal : Terminal) :
    terminal ∉ (state recompute keys 0).setOf key := by
  have empty : (state recompute keys 0).setOf key = ∅ := setOf_constant_empty keys key
  rw [empty]
  exact TerminalSet.not_mem_empty terminal

/-- After a further round a terminal is in what is recomputed for a key. -/
theorem mem_state_succ {count : Nat} {key : Key} {terminal : Terminal} :
    terminal ∈ (state recompute keys (count + 1)).setOf key ↔
      key ∈ keys ∧ terminal ∈ recompute (state recompute keys count) key := by
  by_cases listed : key ∈ keys
  · rw [state_succ, round, setOf_mapEntries (mem_keys_state.2 listed)]
    exact (and_iff_right listed).symm
  · rw [setOf_of_not_mem_keys (fun member => listed (mem_keys_state.1 member))]
    simp [listed]

/-! ## Growth -/

/-- Recomputing from larger sets gives larger sets. -/
def Grows (recompute : Table Key TerminalSet → Key → TerminalSet) : Prop :=
  ∀ {before after : Table Key TerminalSet}, before.Within after →
    ∀ {key : Key} {terminal : Terminal}, terminal ∈ recompute before key →
      terminal ∈ recompute after key

theorem state_within_succ (grows : Grows recompute) (count : Nat) :
    (state recompute keys count).Within (state recompute keys (count + 1)) := by
  induction count with
  | zero =>
      intro key terminal member
      exact absurd member (not_mem_state_zero key terminal)
  | succ count ih =>
      intro key terminal member
      rw [mem_state_succ] at member ⊢
      exact ⟨member.1, grows ih member.2⟩

theorem state_within_of_le (grows : Grows recompute) {early late : Nat} (ordered : early ≤ late) :
    (state recompute keys early).Within (state recompute keys late) := by
  induction ordered with
  | refl => exact .refl _
  | step _ ih => exact ih.trans (state_within_succ grows _)

/-! ## The number of rounds -/

/-- Where a terminal gets to depends only on where it and the marker are. -/
def SpreadsWith (recompute : Table Key TerminalSet → Key → TerminalSet)
    (marker terminal : Terminal) : Prop :=
  ∀ {before after : Table Key TerminalSet}, Agree marker before after →
    Agree terminal before after → ∀ key,
      (terminal ∈ recompute before key ↔ terminal ∈ recompute after key)

theorem agree_succ {marker terminal : Terminal} (spreads : SpreadsWith recompute marker terminal)
    {early late : Nat}
    (markers : Agree marker (state recompute keys early) (state recompute keys late))
    (terminals : Agree terminal (state recompute keys early) (state recompute keys late)) :
    Agree terminal (state recompute keys (early + 1)) (state recompute keys (late + 1)) := by
  intro key
  rw [mem_state_succ, mem_state_succ, spreads markers terminals key]

/-- The keys whose sets hold a terminal after some rounds. -/
def holders (recompute : Table Key TerminalSet → Key → TerminalSet) (keys : List Key)
    (terminal : Terminal) (count : Nat) : Finset Key :=
  keys.toFinset.filter fun key => terminal ∈ (state recompute keys count).setOf key

theorem agree_iff_holders_eq {terminal : Terminal} {early late : Nat} :
    Agree terminal (state recompute keys early) (state recompute keys late) ↔
      holders recompute keys terminal early = holders recompute keys terminal late := by
  constructor
  · intro agree
    exact Finset.filter_congr fun key _ => agree key
  · intro equal key
    have listed (count : Nat) :
        terminal ∈ (state recompute keys count).setOf key ↔
          key ∈ holders recompute keys terminal count := by
      simp only [holders, Finset.mem_filter, List.mem_toFinset]
      exact ⟨fun member => ⟨mem_keys_state.1 (mem_keys_of_mem_setOf member), member⟩, And.right⟩
    rw [listed, listed, equal]

theorem holders_mono (grows : Grows recompute) (terminal : Terminal) :
    Monotone (holders recompute keys terminal) := by
  intro early late ordered key member
  rw [holders, Finset.mem_filter] at member ⊢
  exact ⟨member.1, state_within_of_le grows ordered key terminal member.2⟩

/-- A terminal that stays where it is once it stays for one round has stopped
after one round for each key. -/
theorem agree_succ_of_persists (grows : Grows recompute) {terminal : Terminal} (start : Nat)
    {count : Nat}
    (persists : ∀ count, start ≤ count →
      Agree terminal (state recompute keys count) (state recompute keys (count + 1)) →
      Agree terminal (state recompute keys (count + 1)) (state recompute keys (count + 2)))
    (late : start + keys.toFinset.card ≤ count) :
    Agree terminal (state recompute keys count) (state recompute keys (count + 1)) := by
  let size (extra : Nat) : Nat := (holders recompute keys terminal (start + extra)).card
  have subset {early later : Nat} (ordered : early ≤ later) :
      holders recompute keys terminal early ⊆ holders recompute keys terminal later :=
    holders_mono grows terminal ordered
  have stays {extra : Nat} (same : size extra = size (extra + 1)) :
      holders recompute keys terminal (start + extra) =
        holders recompute keys terminal (start + extra + 1) :=
    Finset.eq_of_subset_of_card_le (subset (Nat.le_succ _)) (le_of_eq same.symm)
  have increasing : Monotone size := by
    intro early later ordered
    exact Finset.card_le_card (subset (Nat.add_le_add_left ordered start))
  have bounded (extra : Nat) : size extra ≤ keys.toFinset.card :=
    Finset.card_le_card (Finset.filter_subset _ _)
  have settles (extra : Nat) (same : size extra = size (extra + 1)) :
      size (extra + 1) = size (extra + 2) :=
    congrArg Finset.card (agree_iff_holders_eq.1
      (persists _ (Nat.le_add_right start extra) (agree_iff_holders_eq.2 (stays same))))
  obtain ⟨extra, rfl⟩ := Nat.exists_eq_add_of_le (Nat.le_of_add_right_le late)
  have reached : keys.toFinset.card ≤ extra := Nat.le_of_add_le_add_left late
  have final (extra : Nat) (reached : keys.toFinset.card ≤ extra) :
      size extra = size keys.toFinset.card :=
    Nat.stabilises_of_monotone increasing bounded settles reached
  exact agree_iff_holders_eq.2
    (stays ((final extra reached).trans (final (extra + 1) (Nat.le_succ_of_le reached)).symm))

/-- If all terminals agree on two states in a row, the iteration has ended. -/
theorem round_state_of_agree {count : Nat}
    (agree : ∀ terminal,
      Agree terminal (state recompute keys count) (state recompute keys (count + 1))) :
    round recompute (state recompute keys count) = state recompute keys count := by
  rw [← state_succ]
  exact (eq_of_agree (by rw [keys_state, keys_state]) agree).symm

/-- If every terminal spreads by itself, one round for each key suffices. -/
theorem round_state_of_spreads_alone (grows : Grows recompute)
    (spreads : ∀ terminal, SpreadsWith recompute terminal terminal) :
    round recompute (state recompute keys keys.toFinset.card) =
      state recompute keys keys.toFinset.card := by
  apply round_state_of_agree
  intro terminal
  apply agree_succ_of_persists grows 0
  · intro count _ agree
    exact agree_succ (spreads terminal) agree agree
  · rw [Nat.zero_add]

/-- If every terminal spreads along one marker, one round for each key settles
the marker and as many more settle the rest. -/
theorem round_state_of_spreads_with (grows : Grows recompute) {marker : Terminal}
    (spreads : ∀ terminal, SpreadsWith recompute marker terminal) :
    round recompute (state recompute keys (2 * keys.toFinset.card)) =
      state recompute keys (2 * keys.toFinset.card) := by
  have markers (count : Nat) (late : keys.toFinset.card ≤ count) :
      Agree marker (state recompute keys count) (state recompute keys (count + 1)) := by
    apply agree_succ_of_persists grows 0
    · intro count _ agree
      exact agree_succ (spreads marker) agree agree
    · rwa [Nat.zero_add]
  apply round_state_of_agree
  intro terminal
  apply agree_succ_of_persists grows keys.toFinset.card
  · intro count late agree
    exact agree_succ (spreads terminal) (markers count late) agree
  · omega

/-! ## What the iteration ends with -/

section Saturated

variable {settled limit : Nat}
  (fixed : round recompute (state recompute keys settled) = state recompute keys settled)
  (enough : settled < limit)

include fixed enough

theorem saturate_eq_state :
    saturate (round recompute) limit (Table.constant keys ∅) = state recompute keys settled :=
  Iteration.saturate_eq_iterate fixed enough

/-- The iteration ends with the state after any number of rounds that is large
enough. -/
theorem saturate_eq_state_of_le {count : Nat} (late : settled ≤ count) :
    saturate (round recompute) limit (Table.constant keys ∅) = state recompute keys count := by
  rw [saturate_eq_state fixed enough, state, state, Iteration.iterate_eq_of_fixed fixed late]

theorem mem_keys_saturate {key : Key} :
    key ∈ (saturate (round recompute) limit (Table.constant keys ∅)).keys ↔ key ∈ keys := by
  rw [saturate_eq_state fixed enough, mem_keys_state]

/-- What the iteration ends with is recomputed from itself. -/
theorem mem_saturate_iff_recompute {key : Key} {terminal : Terminal} :
    terminal ∈ (saturate (round recompute) limit (Table.constant keys ∅)).setOf key ↔
      key ∈ keys ∧
        terminal ∈ recompute (saturate (round recompute) limit (Table.constant keys ∅)) key := by
  rw [saturate_eq_state fixed enough]
  conv_lhs => rw [← fixed, ← state_succ]
  exact mem_state_succ

/-- The iteration ends with everything that some round finds. -/
theorem mem_saturate_iff (grows : Grows recompute) {key : Key} {terminal : Terminal} :
    terminal ∈ (saturate (round recompute) limit (Table.constant keys ∅)).setOf key ↔
      ∃ count, terminal ∈ (state recompute keys count).setOf key := by
  rw [saturate_eq_state fixed enough]
  constructor
  · intro member
    exact ⟨settled, member⟩
  · intro found
    rcases found with ⟨count, member⟩
    cases Nat.le_total count settled with
    | inl early => exact state_within_of_le grows early key terminal member
    | inr late => rwa [state, Iteration.iterate_eq_of_fixed fixed late] at member

end Saturated

end Rounds

end Lookahead
