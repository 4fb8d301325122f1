import Lookahead.Iteration
import Mathlib.Logic.Function.Iterate

/-!
# Iterations and iterates

The states that an iteration hands out are the iterates of its step.  It ends
with the first iterate that the step keeps, so its fixed state is every iterate
from there on.
-/

namespace Lookahead.Iteration

variable {State : Type} {step : State → State} {initial : State}

/-- From an iterate that the step keeps onwards, all iterates are the same. -/
theorem iterate_eq_of_fixed {settled later : Nat}
    (fixed : step (step^[settled] initial) = step^[settled] initial)
    (reached : settled ≤ later) : step^[later] initial = step^[settled] initial := by
  obtain ⟨rest, rfl⟩ := Nat.exists_eq_add_of_le' reached
  rw [Function.iterate_add_apply]
  exact Function.iterate_fixed fixed rest

/-- The iteration that has handed out the iterates up to the given one. -/
def handedOut (step : State → State) (initial : State) (count : Nat) : Iteration State :=
  ⟨some (step^[count] initial), some (step^[count + 1] initial), count + 1⟩

variable [DecidableEq State]

theorem next_begin : (begin initial).next step = (some initial, handedOut step initial 0) := by
  simp [begin, next, handedOut]

theorem next_handedOut_of_fixed {count : Nat}
    (fixed : step (step^[count] initial) = step^[count] initial) :
    (handedOut step initial count).next step =
      (none, { handedOut step initial count with pending := none }) := by
  simp [handedOut, next, Function.iterate_succ_apply', fixed]

theorem next_handedOut_of_moves {count : Nat}
    (moves : step (step^[count] initial) ≠ step^[count] initial) :
    (handedOut step initial count).next step =
      (some (step^[count + 1] initial), handedOut step initial (count + 1)) := by
  have differs : step^[count] initial ≠ step^[count + 1] initial := by
    rw [Function.iterate_succ_apply']
    exact fun same => moves same.symm
  have later : step (step^[count + 1] initial) = step^[count + 2] initial :=
    (Function.iterate_succ_apply' step (count + 1) initial).symm
  simp only [handedOut, next, Option.some.injEq, differs, if_false, later]

/-- What holds of an iteration without calls left, of one at an iterate that the
step keeps, and of one that moves if it holds of the next, holds of all iterations
that have not passed an iterate that the step keeps. -/
@[elab_as_elim]
theorem handedOut_induction {settled : Nat}
    (fixed : step (step^[settled] initial) = step^[settled] initial)
    {motive : Nat → Nat → Prop} (stops : ∀ count ≤ settled, motive 0 count)
    (keeps : ∀ limit, ∀ count ≤ settled,
      step (step^[count] initial) = step^[count] initial → motive (limit + 1) count)
    (moves : ∀ limit, ∀ count < settled,
      step (step^[count] initial) ≠ step^[count] initial → motive limit (count + 1) →
        motive (limit + 1) count)
    (limit count : Nat) (below : count ≤ settled) : motive limit count := by
  induction limit generalizing count with
  | zero => exact stops count below
  | succ limit ih =>
      by_cases kept : step (step^[count] initial) = step^[count] initial
      · exact keeps limit count below kept
      · have different : count ≠ settled := by
          intro same
          exact kept (same ▸ fixed)
        have before : count < settled := Nat.lt_of_le_of_ne below different
        exact moves limit count before kept (ih (count + 1) before)

/-- An iteration under way ends with the iterate that the step keeps, if it may
go on for long enough. -/
theorem previous_advance_handedOut {settled : Nat}
    (fixed : step (step^[settled] initial) = step^[settled] initial) :
    ∀ limit count, count ≤ settled → settled ≤ count + limit →
      ((handedOut step initial count).advance step limit).previous =
        some (step^[settled] initial) := by
  intro limit count below
  refine handedOut_induction fixed ?_ ?_ ?_ limit count below
  · intro count below enough
    obtain rfl := Nat.le_antisymm below enough
    rfl
  · intro limit count below kept _
    rw [advance, next_handedOut_of_fixed kept]
    simp [handedOut, iterate_eq_of_fixed kept below]
  · intro limit count _ moves later enough
    rw [advance, next_handedOut_of_moves moves]
    exact later (by omega)

/-- Saturation gives the iterate that the step keeps, if the limit allows to
hand it out. -/
theorem saturate_eq_iterate {settled limit : Nat}
    (fixed : step (step^[settled] initial) = step^[settled] initial)
    (enough : settled < limit) : saturate step limit initial = step^[settled] initial := by
  cases limit with
  | zero => exact absurd enough (Nat.not_lt_zero settled)
  | succ limit =>
      have ended := previous_advance_handedOut fixed limit 0 (Nat.zero_le _) (by omega)
      rw [saturate, advance, next_begin]
      simp [ended]

theorem getElem?_states_handedOut {limit count place : Nat} {state : State}
    (found : ((handedOut step initial count).states step limit)[place]? = some state) :
    state = step^[count + 1 + place] initial := by
  induction limit generalizing count place with
  | zero => simp [states] at found
  | succ limit ih =>
      by_cases kept : step (step^[count] initial) = step^[count] initial
      · rw [states, next_handedOut_of_fixed kept] at found
        simp at found
      · rw [states, next_handedOut_of_moves kept] at found
        cases place with
        | zero => simpa using found.symm
        | succ place =>
            rw [List.getElem?_cons_succ] at found
            rw [ih found]
            congr 1
            omega

/-- What is handed out at a place is the iterate of that number. -/
theorem getElem?_states_begin {limit place : Nat} {state : State}
    (found : ((begin initial).states step limit)[place]? = some state) :
    state = step^[place] initial := by
  cases limit with
  | zero => simp [states] at found
  | succ limit =>
      rw [states, next_begin] at found
      cases place with
      | zero => simpa using found.symm
      | succ place =>
          rw [List.getElem?_cons_succ] at found
          rw [getElem?_states_handedOut found, Nat.zero_add, Nat.add_comm]

/-! ## The end of an iteration -/

/-- An iteration under way hands out no iterate after the one that the step
keeps. -/
theorem length_states_handedOut_le {settled : Nat}
    (fixed : step (step^[settled] initial) = step^[settled] initial) :
    ∀ limit count, count ≤ settled →
      ((handedOut step initial count).states step limit).length ≤ settled - count := by
  intro limit count below
  refine handedOut_induction fixed ?_ ?_ ?_ limit count below
  · intro count _
    exact Nat.zero_le _
  · intro limit count _ kept
    rw [states, next_handedOut_of_fixed kept]
    exact Nat.zero_le _
  · intro limit count before moves later
    rw [states, next_handedOut_of_moves moves, List.length_cons]
    omega

/-- No more states are handed out than the iterates up to one that the step
keeps. -/
theorem length_states_begin_le {settled : Nat} (limit : Nat)
    (fixed : step (step^[settled] initial) = step^[settled] initial) :
    ((begin initial).states step limit).length ≤ settled + 1 := by
  cases limit with
  | zero => exact Nat.zero_le _
  | succ limit =>
      rw [states, next_begin, List.length_cons]
      have later := length_states_handedOut_le fixed limit 0 (Nat.zero_le _)
      omega

theorem pending_advance_handedOut {settled : Nat}
    (fixed : step (step^[settled] initial) = step^[settled] initial) :
    ∀ limit count, count ≤ settled → settled < count + limit →
      ((handedOut step initial count).advance step limit).pending = none := by
  intro limit count below
  refine handedOut_induction fixed ?_ ?_ ?_ limit count below
  · intro count below enough
    exact absurd enough (Nat.not_lt.2 below)
  · intro limit count _ kept _
    rw [advance, next_handedOut_of_fixed kept]
  · intro limit count _ moves later enough
    rw [advance, next_handedOut_of_moves moves]
    exact later (by omega)

/-- One call after the states have been handed out, the iteration has ended with
the iterate that the step keeps. -/
theorem fixedState?_eq_iterate {settled limit : Nat}
    (fixed : step (step^[settled] initial) = step^[settled] initial)
    (enough : settled + 1 < limit) :
    fixedState? step limit initial = some (step^[settled] initial) := by
  cases limit with
  | zero => exact absurd enough (Nat.not_lt_zero _)
  | succ limit =>
      have ended := pending_advance_handedOut fixed limit 0 (Nat.zero_le _) (by omega)
      have reached := previous_advance_handedOut fixed limit 0 (Nat.zero_le _) (by omega)
      rw [fixedState?, advance, next_begin]
      simp [ended, reached]

end Lookahead.Iteration
