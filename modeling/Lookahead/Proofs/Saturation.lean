import Lookahead.Proofs.Rounds

/-!
# Saturation from empty sets

The rounds over a table grow from empty sets to the least table that a round does
not enlarge.  Every state lies within each table that a round does not enlarge,
because the empty sets do and a round keeps it so; the last state is such a table
itself.
-/

namespace Lookahead

variable {Key : Type} [DecidableEq Key]

/-- The iteration of a step from `initial` grows, hands out no more than `bound`
states, and ends with the least table that the step does not enlarge. -/
structure LeastSaturation (step : Table Key TerminalSet → Table Key TerminalSet)
    (initial : Table Key TerminalSet) (bound : Nat) (result : Table Key TerminalSet) : Prop where
  /-- All states have the keys of the first one. -/
  sameKeys : ∀ limit, ∀ sets ∈ (Iteration.begin initial).states step limit,
    sets.keys = initial.keys
  /-- Every state lies within the next one, and so within all later ones. -/
  grows : ∀ limit, ((Iteration.begin initial).states step limit).Pairwise Table.Within
  /-- However often the next state is asked for, there are no more states. -/
  bounded : ∀ limit, ((Iteration.begin initial).states step limit).length ≤ bound
  /-- One call more than there can be states ends the iteration. -/
  ends : ∀ limit, bound < limit → fixedState? step limit initial = some result
  fixed : step result = result
  /-- The result lies within every table with these keys that the step does not
  enlarge. -/
  least : ∀ sets : Table Key TerminalSet, (∀ key ∈ initial.keys, key ∈ sets.keys) →
    (step sets).Within sets → result.Within sets

namespace Rounds

open Table

variable {recompute : Table Key TerminalSet → Key → TerminalSet} {keys : List Key}

/-- No round leaves a table that a round does not enlarge. -/
theorem state_within_of_closed (grows : Grows recompute) {sets : Table Key TerminalSet}
    (listed : ∀ key ∈ keys, key ∈ sets.keys) (closed : (round recompute sets).Within sets)
    (count : Nat) : (state recompute keys count).Within sets := by
  induction count with
  | zero =>
      intro key terminal member
      exact absurd member (not_mem_state_zero key terminal)
  | succ count ih =>
      intro key terminal member
      rw [mem_state_succ] at member
      have later : terminal ∈ recompute sets key := grows ih member.2
      apply closed key terminal
      rwa [round, setOf_mapEntries (listed key member.1)]

theorem getElem?_states_eq_state {limit place : Nat} {sets : Table Key TerminalSet}
    (found : ((Iteration.begin (Table.constant keys ∅)).states (round recompute) limit)[place]? =
      some sets) : sets = state recompute keys place :=
  Iteration.getElem?_states_begin found

/-- All states that are handed out have the keys of the first one. -/
theorem keys_of_mem_states {limit : Nat} {sets : Table Key TerminalSet}
    (member : sets ∈ (Iteration.begin (Table.constant keys ∅)).states (round recompute) limit) :
    sets.keys = (Table.constant keys (∅ : TerminalSet)).keys := by
  obtain ⟨place, found⟩ := List.mem_iff_getElem?.1 member
  rw [getElem?_states_eq_state found, keys_state]

/-- Rounds that settle saturate to the least table. -/
theorem leastSaturation (grows : Grows recompute) {settled limit : Nat}
    (fixed : round recompute (state recompute keys settled) = state recompute keys settled)
    (enough : settled < limit) :
    LeastSaturation (round recompute) (Table.constant keys ∅) (settled + 1)
      (saturate (round recompute) limit (Table.constant keys ∅)) := by
  rw [saturate_eq_state fixed enough]
  constructor
  · intro limit sets member
    exact keys_of_mem_states member
  · intro limit
    rw [List.pairwise_iff_getElem]
    intro early late first second ordered
    have before := getElem?_states_eq_state (List.getElem?_eq_getElem first)
    have after := getElem?_states_eq_state (List.getElem?_eq_getElem second)
    rw [before, after]
    exact state_within_of_le grows (Nat.le_of_lt ordered)
  · intro limit
    exact Iteration.length_states_begin_le limit fixed
  · intro limit later
    exact Iteration.fixedState?_eq_iterate fixed later
  · exact fixed
  · intro sets listed closed
    apply state_within_of_closed grows _ closed
    intro key member
    exact listed key (mem_keys_constant.2 member)

end Rounds

end Lookahead
