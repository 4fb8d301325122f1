import Lookahead.Proofs.Iteration

/-!
# Calls of an iteration one by one

An iteration is always one step ahead of what it has handed out: each call that hands
out an iterate also computes the next one.  Once an iterate is kept by the step, the
call after it compares the two and ends the iteration.  So every iterate up to the
first one that is kept is handed out once, at the price of one application of the step
each, and nothing is handed out or computed after that.  To see the applications
themselves, the calls are made once more with a step that has effects, and that writes
down what it is applied to.
-/

namespace Lookahead.Iteration

variable {State : Type} {step : State → State} {initial : State} {settled count fewer : Nat}

/-- The step keeps none of the first iterates. -/
def Moves (step : State → State) (initial : State) (count : Nat) : Prop :=
  ∀ earlier < count, step (step^[earlier] initial) ≠ step^[earlier] initial

/-- The step keeps an iterate for the first time. -/
structure SettlesAt (step : State → State) (initial : State) (settled : Nat) : Prop where
  fixed : step (step^[settled] initial) = step^[settled] initial
  moves : Moves step initial settled

theorem Moves.mono (moves : Moves step initial count) (less : fewer ≤ count) :
    Moves step initial fewer :=
  fun earlier before => moves earlier (Nat.lt_of_lt_of_le before less)

/-- A step that writes down each state that it is applied to. -/
def noting (step : State → State) (state : State) : StateM (List State) State := do
  modify (· ++ [state])
  return step state

/-- The first iterates. -/
def firstIterates (step : State → State) (initial : State) (count : Nat) : List State :=
  (List.range count).map fun earlier => step^[earlier] initial

theorem firstIterates_succ (count : Nat) :
    firstIterates step initial (count + 1) =
      firstIterates step initial count ++ [step^[count] initial] := by
  rw [firstIterates, List.range_succ, List.map_append]
  rfl

/-- What is to be handed out next is the iterate with the number of the applications so far. -/
def IsDue (step : State → State) (initial : State) (iteration : Iteration State) : Prop :=
  ∀ state, iteration.pending = some state → state = step^[iteration.calls] initial

theorem isDue_begin : IsDue step initial (begin initial) := by
  intro state pending
  cases pending
  rfl

variable [DecidableEq State]

instance : Decidable (Moves step initial count) :=
  inferInstanceAs (Decidable (∀ earlier < count, _))

/-- The iteration after some calls of `next`, whether or not they hand out a state. -/
def afterCalls (step : State → State) (initial : State) (count : Nat) : Iteration State :=
  (fun iteration => (iteration.next step).2)^[count] (begin initial)

/-- What the next call hands out after some calls. -/
def handOut? (step : State → State) (initial : State) (count : Nat) : Option State :=
  ((afterCalls step initial count).next step).1

theorem afterCalls_zero : afterCalls step initial 0 = begin initial := rfl

theorem afterCalls_succ (count : Nat) :
    afterCalls step initial (count + 1) = ((afterCalls step initial count).next step).2 :=
  Function.iterate_succ_apply' _ count (begin initial)

/-! ## While the iterates move -/

/-- As long as no iterate has been kept, every call has handed out one more. -/
theorem afterCalls_succ_of_moves (moves : Moves step initial count) :
    afterCalls step initial (count + 1) = handedOut step initial count := by
  induction count with
  | zero => rw [afterCalls_succ, afterCalls_zero, next_begin]
  | succ count ih =>
      have before := ih (moves.mono (Nat.le_succ count))
      rw [afterCalls_succ, before, next_handedOut_of_moves (moves count (Nat.lt_succ_self count))]

theorem handOut?_of_moves (moves : Moves step initial count) :
    handOut? step initial count = some (step^[count] initial) := by
  cases count with
  | zero =>
      rw [handOut?, afterCalls_zero, next_begin]
      rfl
  | succ count =>
      have before := afterCalls_succ_of_moves (moves.mono (Nat.le_succ count))
      rw [handOut?, before, next_handedOut_of_moves (moves count (Nat.lt_succ_self count))]

/-- The step has been applied once for every iterate that was handed out. -/
theorem calls_afterCalls_of_moves (moves : Moves step initial (count - 1)) :
    (afterCalls step initial count).calls = count := by
  cases count with
  | zero => rfl
  | succ count =>
      rw [Nat.add_sub_cancel] at moves
      rw [afterCalls_succ_of_moves moves]
      rfl

theorem pending_afterCalls_of_moves (moves : Moves step initial (count - 1)) :
    (afterCalls step initial count).pending ≠ none := by
  cases count with
  | zero => exact Option.some_ne_none initial
  | succ count =>
      rw [Nat.add_sub_cancel] at moves
      rw [afterCalls_succ_of_moves moves]
      exact Option.some_ne_none _

/-! ## Once an iterate is kept -/

theorem next_of_pending_none {iteration : Iteration State} (finished : iteration.pending = none) :
    iteration.next step = (none, iteration) := by
  rw [next, finished]

/-- The iteration that has handed out the first iterate that the step keeps, and has
found that it does. -/
def ended (step : State → State) (initial : State) (settled : Nat) : Iteration State :=
  { handedOut step initial settled with pending := none }

/-- The call after the first iterate that is kept ends the iteration for ever. -/
theorem afterCalls_of_settled (settles : SettlesAt step initial settled)
    (later : settled + 2 ≤ count) :
    afterCalls step initial count = ended step initial settled := by
  induction later with
  | refl =>
      rw [afterCalls_succ, afterCalls_succ_of_moves settles.moves,
        next_handedOut_of_fixed settles.fixed, ended]
  | step _ ih =>
      have finished : (ended step initial settled).pending = none := rfl
      rw [afterCalls_succ, ih, next_of_pending_none finished]

theorem handOut?_of_settled (settles : SettlesAt step initial settled) (later : settled < count) :
    handOut? step initial count = none := by
  obtain rfl | further := Nat.eq_or_lt_of_le (Nat.succ_le_of_lt later)
  · rw [handOut?, Nat.succ_eq_add_one, afterCalls_succ_of_moves settles.moves,
      next_handedOut_of_fixed settles.fixed]
  · have finished : (ended step initial settled).pending = none := rfl
    rw [handOut?, afterCalls_of_settled settles further, next_of_pending_none finished]

theorem calls_afterCalls_of_settled (settles : SettlesAt step initial settled) (count : Nat) :
    (afterCalls step initial count).calls = min count (settled + 1) := by
  by_cases early : count ≤ settled + 1
  · rw [Nat.min_eq_left early]
    exact calls_afterCalls_of_moves (settles.moves.mono (Nat.sub_le_of_le_add early))
  · rw [Nat.min_eq_right (Nat.le_of_not_le early), afterCalls_of_settled settles (by omega)]
    rfl

/-! ## All calls in one go -/

theorem pending_of_next_none {iteration : Iteration State}
    (nothing : (iteration.next step).1 = none) : (iteration.next step).2.pending = none := by
  cases found : iteration.pending with
  | none => rw [next_of_pending_none found, found]
  | some state =>
      simp only [next, found] at nothing ⊢
      split at nothing
      · next same => rw [if_pos same]
      · cases nothing

/-- Advancing stops at the call that hands out nothing, and further calls would change
nothing. -/
theorem advance_eq_iterate (limit : Nat) (iteration : Iteration State) :
    iteration.advance step limit =
      (fun iteration => (iteration.next step).2)^[limit] iteration := by
  induction limit generalizing iteration with
  | zero => rfl
  | succ limit ih =>
      rw [Function.iterate_succ_apply, advance]
      split
      · next after found =>
          have finished := pending_of_next_none (congrArg Prod.fst found)
          rw [found] at finished ⊢
          have stays : (after.next step).2 = after := by rw [next_of_pending_none finished]
          exact (Function.iterate_fixed stays limit).symm
      · next state after found => rw [found, ih]

theorem advance_begin (limit : Nat) :
    (begin initial).advance step limit = afterCalls step initial limit :=
  advance_eq_iterate limit (begin initial)

/-- There is no fixed state before a call has found that the iterates have settled. -/
theorem fixedState?_of_moves (moves : Moves step initial (count - 1)) :
    fixedState? step count initial = none := by
  have underWay := pending_afterCalls_of_moves moves
  simp [fixedState?, advance_begin, underWay]

theorem fixedState?_of_settled (settles : SettlesAt step initial settled) (limit : Nat) :
    fixedState? step limit initial =
      if settled + 1 < limit then some (step^[settled] initial) else none := by
  split
  · next enough => exact fixedState?_eq_iterate settles.fixed enough
  · next few =>
      have early : limit ≤ settled + 1 := Nat.le_of_not_lt few
      exact fixedState?_of_moves (settles.moves.mono (Nat.sub_le_of_le_add early))

/-! ## Applications of the step observed -/

section Observed

variable {Effect : Type → Type} [Monad Effect]

/-- Hand out the next state, the step having effects.  Without effects this is `next`. -/
def nextVia (step : State → Effect State) (iteration : Iteration State) :
    Effect (Option State × Iteration State) := do
  match iteration.pending with
  | none => return (none, iteration)
  | some state =>
      if iteration.previous = some state then
        return (none, { iteration with pending := none })
      else
        return (some state, ⟨some state, some (← step state), iteration.calls + 1⟩)

/-- The iteration after some calls of `nextVia`. -/
def afterCallsVia (step : State → Effect State) (initial : State) : Nat → Effect (Iteration State)
  | 0 => return begin initial
  | count + 1 => do
      let before ← afterCallsVia step initial count
      return (← before.nextVia step).2

/-- The iteration after `limit` calls of `nextVia`, or after the call that ends it. -/
def advanceVia (step : State → Effect State) : Nat → Iteration State → Effect (Iteration State)
  | 0, iteration => return iteration
  | limit + 1, iteration => do
      match ← iteration.nextVia step with
      | (none, after) => return after
      | (some _, after) => advanceVia step limit after

theorem nextVia_eq_pure [LawfulMonad Effect] (iteration : Iteration State) :
    iteration.nextVia (fun state => pure (step state)) =
      (pure (iteration.next step) : Effect (Option State × Iteration State)) := by
  cases found : iteration.pending with
  | none => simp only [nextVia, next, found]
  | some state =>
      simp only [nextVia, next, found, pure_bind]
      split <;> rfl

end Observed

theorem IsDue.next {iteration : Iteration State} (due : IsDue step initial iteration) :
    IsDue step initial (iteration.next step).2 := by
  cases found : iteration.pending with
  | none =>
      rw [next_of_pending_none found]
      exact due
  | some state =>
      simp only [Iteration.next, found]
      split
      · intro later pending
        cases pending
      · intro later pending
        cases pending
        rw [due state found, Function.iterate_succ_apply']

/-- One call writes down the iterate that is due, if it hands it out. -/
theorem run_nextVia_noting {iteration : Iteration State} (due : IsDue step initial iteration) :
    (iteration.nextVia (noting step)).run (firstIterates step initial iteration.calls) =
      pure (iteration.next step, firstIterates step initial (iteration.next step).2.calls) := by
  cases found : iteration.pending with
  | none => simp only [nextVia, next, found, StateT.run_pure]
  | some state =>
      simp only [nextVia, next, found]
      split
      · rw [StateT.run_pure]
      · rw [firstIterates_succ, ← due state found]
        rfl

theorem isDue_afterCalls (count : Nat) : IsDue step initial (afterCalls step initial count) := by
  induction count with
  | zero => exact isDue_begin
  | succ count ih =>
      rw [afterCalls_succ]
      exact ih.next

theorem run_afterCallsVia_noting (count : Nat) :
    (afterCallsVia (noting step) initial count).run [] =
      pure (afterCalls step initial count,
        firstIterates step initial (afterCalls step initial count).calls) := by
  induction count with
  | zero => rfl
  | succ count ih =>
      rw [afterCallsVia, StateT.run_bind, ih, pure_bind, StateT.run_bind,
        run_nextVia_noting (isDue_afterCalls count), pure_bind, afterCalls_succ]
      rfl

theorem run_advanceVia_noting (limit : Nat) {iteration : Iteration State}
    (due : IsDue step initial iteration) :
    (iteration.advanceVia (noting step) limit).run (firstIterates step initial iteration.calls) =
      pure (iteration.advance step limit,
        firstIterates step initial (iteration.advance step limit).calls) := by
  induction limit generalizing iteration with
  | zero => rfl
  | succ limit ih =>
      have later := due.next
      rw [advanceVia, StateT.run_bind, run_nextVia_noting due, pure_bind, advance]
      cases found : iteration.next step with
      | mk handed after =>
          rw [found] at later
          cases handed with
          | none => rfl
          | some state => exact ih later

/-! ## The whole iteration -/

/-- If the step keeps an iterate for the first time, the calls hand out the iterates up
to this one and nothing any more, and each of them has cost one application of the
step.  Saturation gives this iterate, and is finished one call later.  If the step keeps no
iterate, every call hands out the next one for ever, also when they come round again.  A
step that writes down what it is applied to has written down the first iterates in order,
as many as are counted. -/
theorem hands_out_iterates_until_kept (step : State → State) (initial : State) :
    (∀ settled, SettlesAt step initial settled →
      (∀ count, handOut? step initial count =
        if count ≤ settled then some (step^[count] initial) else none) ∧
      (∀ count, (afterCalls step initial count).calls = min count (settled + 1)) ∧
      (∀ limit, settled < limit → saturate step limit initial = step^[settled] initial ∧
        ((begin initial).advance step limit).calls = settled + 1) ∧
      ∀ limit, fixedState? step limit initial =
        if settled + 1 < limit then some (step^[settled] initial) else none) ∧
    ((∀ count, step (step^[count] initial) ≠ step^[count] initial) →
      ∀ count, handOut? step initial count = some (step^[count] initial) ∧
        (afterCalls step initial count).calls = count ∧
        fixedState? step count initial = none) ∧
    (∀ iteration : Iteration State,
      Id.run (iteration.nextVia fun state => pure (step state)) = iteration.next step) ∧
    ∀ count,
      (afterCallsVia (noting step) initial count).run [] =
          pure (afterCalls step initial count,
            firstIterates step initial (afterCalls step initial count).calls) ∧
        ((begin initial).advanceVia (noting step) count).run [] =
          pure ((begin initial).advance step count,
            firstIterates step initial ((begin initial).advance step count).calls) := by
  refine ⟨?_, ?_, nextVia_eq_pure, ?_⟩
  · intro settled settles
    refine ⟨?_, calls_afterCalls_of_settled settles, ?_, fixedState?_of_settled settles⟩
    · intro count
      split
      · next early => exact handOut?_of_moves (settles.moves.mono early)
      · next late => exact handOut?_of_settled settles (Nat.lt_of_not_le late)
    · intro limit enough
      refine ⟨saturate_eq_iterate settles.fixed enough, ?_⟩
      rw [advance_begin, calls_afterCalls_of_settled settles, Nat.min_eq_right enough]
  · intro never count
    have moves (count : Nat) : Moves step initial count := fun earlier _ => never earlier
    exact ⟨handOut?_of_moves (moves count), calls_afterCalls_of_moves (moves (count - 1)),
      fixedState?_of_moves (moves (count - 1))⟩
  · intro count
    exact ⟨run_afterCallsVia_noting count, run_advanceVia_noting count isDue_begin⟩

/-- Count up to three and stay there. -/
def countToThree (number : Nat) : Nat :=
  min (number + 1) 3

/-- Counting settles after three steps.  Negating a truth value goes round for ever. -/
theorem countToThree_settles :
    SettlesAt countToThree 0 3 ∧ handOut? countToThree 0 3 = some 3 ∧
      handOut? countToThree 0 4 = none ∧ (afterCalls countToThree 0 9).calls = 4 ∧
      saturate countToThree 4 0 = 3 ∧ fixedState? countToThree 5 0 = some 3 ∧
      (∀ count, not (not^[count] false) ≠ not^[count] false) ∧
      handOut? not false 2 = some false ∧ (afterCalls not false 9).calls = 9 ∧
      (afterCallsVia (noting countToThree) 0 9).run [] =
        pure (ended countToThree 0 3, [0, 1, 2, 3]) := by
  have settles : SettlesAt countToThree 0 3 := ⟨by decide, by decide⟩
  have turns : ∀ count, not (not^[count] false) ≠ not^[count] false := by simp
  have noted : (afterCalls countToThree 0 9, firstIterates countToThree 0 4) =
      (ended countToThree 0 3, [0, 1, 2, 3]) := by decide
  obtain ⟨stops, _, _, observed⟩ := hands_out_iterates_until_kept countToThree 0
  obtain ⟨states, calls, saturates, ends⟩ := stops 3 settles
  have forever := (hands_out_iterates_until_kept not false).2.1 turns
  refine ⟨settles, states 3, states 4, calls 9, (saturates 4 (by decide)).1, ends 5, turns,
    (forever 2).1, (forever 9).2.1, ?_⟩
  rw [(observed 9).1, calls 9]
  exact congrArg pure noted

end Lookahead.Iteration
