/-!
# Iteration to a fixed state

A step is applied again and again until it changes nothing.  An iteration hands
out the states one by one, and computes each state's successor when it hands the
state out; it ends when that successor equals the state handed out last.
-/

namespace Lookahead

/-- An iteration under way: the state handed out last, the state to be handed
out next, and how often the step was applied. -/
structure Iteration (State : Type) where
  previous : Option State
  pending : Option State
  calls : Nat
  deriving DecidableEq, Repr

namespace Iteration

variable {State : Type} [DecidableEq State]

/-- The iteration that has handed out nothing yet. -/
def begin (initial : State) : Iteration State :=
  ⟨none, some initial, 0⟩

/-- Hand out the next state.  Once the pending state equals the one before it,
the iteration is over and hands out nothing any more. -/
def next (step : State → State) (iteration : Iteration State) :
    Option State × Iteration State :=
  match iteration.pending with
  | none => (none, iteration)
  | some state =>
      if iteration.previous = some state then
        (none, { iteration with pending := none })
      else
        (some state, ⟨some state, some (step state), iteration.calls + 1⟩)

/-- The states handed out by at most `limit` calls of `next`. -/
def states (step : State → State) : Nat → Iteration State → List State
  | 0, _ => []
  | limit + 1, iteration =>
      match iteration.next step with
      | (none, _) => []
      | (some state, after) => state :: states step limit after

/-- The iteration after `limit` calls of `next`, or after the call that ends
it. -/
def advance (step : State → State) : Nat → Iteration State → Iteration State
  | 0, iteration => iteration
  | limit + 1, iteration =>
      match iteration.next step with
      | (none, after) => after
      | (some _, after) => advance step limit after

end Iteration

/-- The fixed state that the iteration from `initial` ends with, if it ends
within `limit` calls of `next`. -/
def fixedState? {State : Type} [DecidableEq State] (step : State → State) (limit : Nat)
    (initial : State) : Option State :=
  let reached := (Iteration.begin initial).advance step limit
  if reached.pending.isNone then reached.previous else none

/-- The state handed out last in `limit` calls of `next`.  For a limit that
suffices to end the iteration this is its fixed state. -/
def saturate {State : Type} [DecidableEq State] (step : State → State) (limit : Nat)
    (initial : State) : State :=
  ((Iteration.begin initial).advance step limit).previous.getD initial

end Lookahead
