import Lookahead.Proofs.Rounds

/-!
# Iterations side by side

Two iterations whose steps keep corresponding states corresponding, and keep a
state on both sides or on neither, hand out equally many states, and these
correspond one by one.  Rounds over tables are such iterations if what is
recomputed for a key corresponds: the keys and the terminals may have other names on
the other side.
-/

namespace Lookahead

namespace Iteration

variable {State Other : Type} {step : State → State} {other : Other → Other}
variable {Relates : State → Other → Prop} {initial : State} {opposite : Other}

/-- Two steps keep related states related, and keep related states as they are on
both sides or on neither. -/
structure Simulates (step : State → State) (other : Other → Other)
    (Relates : State → Other → Prop) : Prop where
  keeps : ∀ {left right}, Relates left right → Relates (step left) (other right)
  fixed_iff : ∀ {left right}, Relates left right → (step left = left ↔ other right = right)

theorem Simulates.iterate (simulates : Simulates step other Relates)
    (related : Relates initial opposite) (count : Nat) :
    Relates (step^[count] initial) (other^[count] opposite) := by
  induction count with
  | zero => exact related
  | succ count ih =>
      rw [Function.iterate_succ_apply', Function.iterate_succ_apply']
      exact simulates.keeps ih

variable [DecidableEq State] [DecidableEq Other]

theorem Simulates.states_handedOut (simulates : Simulates step other Relates)
    (related : Relates initial opposite) (limit count : Nat) :
    List.Forall₂ Relates ((handedOut step initial count).states step limit)
      ((handedOut other opposite count).states other limit) := by
  induction limit generalizing count with
  | zero => exact .nil
  | succ limit ih =>
      have fixed := simulates.fixed_iff (simulates.iterate related count)
      rw [states, states]
      by_cases kept : step (step^[count] initial) = step^[count] initial
      · rw [next_handedOut_of_fixed kept, next_handedOut_of_fixed (fixed.1 kept)]
        exact .nil
      · rw [next_handedOut_of_moves kept, next_handedOut_of_moves (mt fixed.2 kept)]
        exact .cons (simulates.iterate related (count + 1)) (ih (count + 1))

/-- The states that are handed out correspond one by one. -/
theorem Simulates.states (simulates : Simulates step other Relates)
    (related : Relates initial opposite) (limit : Nat) :
    List.Forall₂ Relates ((begin initial).states step limit)
      ((begin opposite).states other limit) := by
  cases limit with
  | zero => exact .nil
  | succ limit =>
      rw [Iteration.states, Iteration.states, next_begin, next_begin]
      exact .cons related (simulates.states_handedOut related limit 0)

end Iteration

/-! ## Images of sets -/

namespace TerminalSet

variable {image : Terminal → Terminal} {terminal : Terminal} {set left right : TerminalSet}

/-- The images of the members of a set. -/
def map (image : Terminal → Terminal) (set : TerminalSet) : TerminalSet :=
  ofList (set.members.map image)

@[simp] theorem mem_map : terminal ∈ set.map image ↔ ∃ source ∈ set, image source = terminal := by
  rw [map, mem_ofList, List.mem_map]
  exact Iff.rfl

theorem image_mem_map (injective : image.Injective) :
    image terminal ∈ set.map image ↔ terminal ∈ set := by
  rw [mem_map]
  constructor
  · intro given
    rcases given with ⟨source, member, same⟩
    exact injective same ▸ member
  · intro member
    exact ⟨terminal, member, rfl⟩

theorem map_injective (injective : image.Injective) :
    (TerminalSet.map image).Injective := by
  intro left right same
  ext terminal
  rw [← image_mem_map injective, same, image_mem_map injective]

@[simp] theorem map_empty : (∅ : TerminalSet).map image = ∅ := rfl

@[simp] theorem map_id : set.map id = set := by
  ext terminal
  simp

theorem map_eq_empty_iff : set.map image = ∅ ↔ set = ∅ := by
  simp only [eq_empty_iff, mem_map]
  constructor
  · intro none terminal member
    exact none (image terminal) ⟨terminal, member, rfl⟩
  · intro none terminal given
    rcases given with ⟨source, member, _⟩
    exact none source member

theorem map_erase (injective : image.Injective) :
    (set.erase terminal).map image = (set.map image).erase (image terminal) := by
  ext other
  simp only [mem_map, mem_erase]
  constructor
  · intro given
    rcases given with ⟨source, ⟨member, different⟩, rfl⟩
    exact ⟨⟨source, member, rfl⟩, injective.ne different⟩
  · intro given
    rcases given with ⟨⟨source, member, rfl⟩, different⟩
    exact ⟨source, ⟨member, ne_of_apply_ne image different⟩, rfl⟩

end TerminalSet

/-! ## Tables with other names -/

variable {Key Other : Type} [DecidableEq Key] [DecidableEq Other]
variable {onKeys : Key → Other} {onTerminals : Terminal → Terminal}

namespace Table

/-- The keys on the right are the images of those on the left, and the set of an
image is the image of the set. -/
structure Corresponds (onKeys : Key → Other) (onTerminals : Terminal → Terminal)
    (left : Table Key TerminalSet) (right : Table Other TerminalSet) : Prop where
  keys : ∀ key, key ∈ right.keys ↔ ∃ source ∈ left.keys, onKeys source = key
  sets : ∀ source, right.setOf (onKeys source) = (left.setOf source).map onTerminals

/-- Two tables have the same keys and the same values, in whatever order. -/
def SameMap {Value : Type} (left right : Table Key Value) : Prop :=
  ∀ key, left.get? key = right.get? key

theorem Corresponds.sameMap {left right : Table Key TerminalSet}
    (corresponds : left.Corresponds id id right) : left.SameMap right := by
  intro key
  have listed : key ∈ right.keys ↔ key ∈ left.keys := by simpa using corresponds.keys key
  have same : right.setOf key = left.setOf key := by simpa using corresponds.sets key
  by_cases member : key ∈ left.keys
  · rw [get?_eq_some_setOf member, get?_eq_some_setOf (listed.2 member), same]
  · rw [get?_eq_none_iff.2 member, get?_eq_none_iff.2 (mt listed.1 member)]

end Table

namespace Rounds

open Table

variable {recompute : Table Key TerminalSet → Key → TerminalSet} {keys : List Key}
variable {recompute' : Table Other TerminalSet → Other → TerminalSet} {keys' : List Other}
variable {left : Table Key TerminalSet} {right : Table Other TerminalSet}

/-- What is recomputed from corresponding tables for a key and for its image
corresponds. -/
def Respects (onKeys : Key → Other) (onTerminals : Terminal → Terminal)
    (recompute : Table Key TerminalSet → Key → TerminalSet)
    (recompute' : Table Other TerminalSet → Other → TerminalSet) : Prop :=
  ∀ {left right}, left.Corresponds onKeys onTerminals right → ∀ source,
    recompute' right (onKeys source) = (recompute left source).map onTerminals

theorem mem_keys_of_corresponds (injective : onKeys.Injective)
    (corresponds : left.Corresponds onKeys onTerminals right) {source : Key} :
    onKeys source ∈ right.keys ↔ source ∈ left.keys := by
  rw [corresponds.keys]
  constructor
  · intro given
    rcases given with ⟨other, listed, same⟩
    exact injective same ▸ listed
  · intro listed
    exact ⟨source, listed, rfl⟩

theorem round_corresponds (injective : onKeys.Injective)
    (respects : Respects onKeys onTerminals recompute recompute')
    (corresponds : left.Corresponds onKeys onTerminals right) :
    (round recompute left).Corresponds onKeys onTerminals (round recompute' right) := by
  constructor
  · intro key
    rw [keys_round, keys_round, corresponds.keys]
  · intro source
    by_cases listed : source ∈ left.keys
    · have image := (mem_keys_of_corresponds injective corresponds).2 listed
      rw [round, round, setOf_mapEntries listed, setOf_mapEntries image, respects corresponds]
    · have image := mt (mem_keys_of_corresponds injective corresponds).1 listed
      rw [setOf_of_not_mem_keys (by rwa [keys_round]),
        setOf_of_not_mem_keys (by rwa [keys_round]), TerminalSet.map_empty]

/-- A round keeps a table if it recomputes the set of every key. -/
theorem round_eq_self_iff {sets : Table Key TerminalSet} :
    round recompute sets = sets ↔ ∀ key ∈ sets.keys, recompute sets key = sets.setOf key := by
  constructor
  · intro kept key listed
    have recomputed := setOf_mapEntries listed (recompute sets)
    rw [← recomputed]
    exact congrArg (·.setOf key) kept
  · intro every
    apply eq_of_agree (keys_round sets)
    intro terminal key
    by_cases listed : key ∈ sets.keys
    · rw [round, setOf_mapEntries listed, every key listed]
    · rw [setOf_of_not_mem_keys (by rwa [keys_round]), setOf_of_not_mem_keys listed]

/-- Rounds that respect a correspondence proceed side by side. -/
theorem simulates (onKeysInjective : onKeys.Injective) (onTerminalsInjective : onTerminals.Injective)
    (respects : Respects onKeys onTerminals recompute recompute') :
    Iteration.Simulates (round recompute) (round recompute')
      (Corresponds onKeys onTerminals) := by
  constructor
  · exact round_corresponds onKeysInjective respects
  · intro left right corresponds
    have same (source : Key) : recompute' right (onKeys source) = right.setOf (onKeys source) ↔
        recompute left source = left.setOf source := by
      rw [respects corresponds, corresponds.sets,
        (TerminalSet.map_injective onTerminalsInjective).eq_iff]
    rw [round_eq_self_iff, round_eq_self_iff]
    constructor
    · intro every key listed
      obtain ⟨source, member, rfl⟩ := (corresponds.keys key).1 listed
      exact (same source).2 (every source member)
    · intro every source listed
      exact (same source).1
        (every _ ((mem_keys_of_corresponds onKeysInjective corresponds).2 listed))

theorem constant_corresponds (images : ∀ key, key ∈ keys' ↔ ∃ source ∈ keys, onKeys source = key) :
    (Table.constant keys ∅).Corresponds onKeys onTerminals (Table.constant keys' ∅) := by
  constructor
  · intro key
    simp only [mem_keys_constant, images]
  · intro source
    rw [setOf_constant_empty, setOf_constant_empty, TerminalSet.map_empty]

/-- Iterations that proceed side by side end with corresponding tables. -/
theorem saturate_corresponds (onKeysInjective : onKeys.Injective)
    (onTerminalsInjective : onTerminals.Injective)
    (respects : Respects onKeys onTerminals recompute recompute')
    (images : ∀ key, key ∈ keys' ↔ ∃ source ∈ keys, onKeys source = key)
    {settled limit settled' limit' : Nat}
    (fixed : round recompute (state recompute keys settled) = state recompute keys settled)
    (enough : settled < limit)
    (fixed' : round recompute' (state recompute' keys' settled') = state recompute' keys' settled')
    (enough' : settled' < limit') :
    (saturate (round recompute) limit (Table.constant keys ∅)).Corresponds onKeys onTerminals
      (saturate (round recompute') limit' (Table.constant keys' ∅)) := by
  rw [saturate_eq_state_of_le fixed enough (Nat.le_max_left settled settled'),
    saturate_eq_state_of_le fixed' enough' (Nat.le_max_right settled settled')]
  exact (simulates onKeysInjective onTerminalsInjective respects).iterate
    (constant_corresponds images) _

end Rounds

end Lookahead
