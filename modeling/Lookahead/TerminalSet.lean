/-!
# Sets of terminals

A terminal is a text.  A set of terminals is the strictly ascending list of its
members, so equal sets are equal values and the members come in order.
-/

namespace Lookahead

/-- A terminal, known by its text. -/
abbrev Terminal := String

/-- The text without characters.  It marks a line that can vanish in FIRST sets
and the end of the input in FOLLOW sets. -/
def epsilon : Terminal := ""

/-- A finite set of terminals as its strictly ascending list of members. -/
structure TerminalSet where
  members : List Terminal
  ascending : members.Pairwise (· < ·)
  deriving DecidableEq

namespace TerminalSet

instance : Membership Terminal TerminalSet where
  mem set terminal := terminal ∈ set.members

instance (terminal : Terminal) (set : TerminalSet) : Decidable (terminal ∈ set) :=
  inferInstanceAs (Decidable (terminal ∈ set.members))

theorem mem_members {terminal : Terminal} {set : TerminalSet} :
    terminal ∈ set.members ↔ terminal ∈ set := Iff.rfl

instance : EmptyCollection TerminalSet where
  emptyCollection := ⟨[], List.Pairwise.nil⟩

instance : Inhabited TerminalSet := ⟨∅⟩

@[simp] theorem not_mem_empty (terminal : Terminal) : ¬ terminal ∈ (∅ : TerminalSet) :=
  List.not_mem_nil

/-- Put a terminal at its place in an ascending list. -/
def place (terminal : Terminal) : List Terminal → List Terminal
  | [] => [terminal]
  | member :: rest =>
      if terminal < member then terminal :: member :: rest
      else if terminal = member then member :: rest
      else member :: place terminal rest

@[simp] theorem mem_place {terminal other : Terminal} {members : List Terminal} :
    other ∈ place terminal members ↔ other = terminal ∨ other ∈ members := by
  induction members with
  | nil => simp [place]
  | cons member rest ih =>
      simp only [place]
      split
      · simp
      · split
        · next equal => simp [equal]
        · simp [ih, or_left_comm]

theorem pairwise_place {members : List Terminal} (terminal : Terminal)
    (ascending : members.Pairwise (· < ·)) : (place terminal members).Pairwise (· < ·) := by
  induction members with
  | nil => simp [place]
  | cons member rest ih =>
      have later := List.pairwise_cons.1 ascending
      simp only [place]
      split
      · next less =>
          refine List.pairwise_cons.2 ⟨fun other isMember => ?_, ascending⟩
          rcases List.mem_cons.1 isMember with equal | isLater
          · exact equal ▸ less
          · exact String.lt_trans less (later.1 other isLater)
      · next notLess =>
          split
          · exact ascending
          · next different =>
              have greater : member < terminal := by
                rcases String.le_total member terminal with below | above
                · exact Decidable.byContradiction fun notBelow =>
                    different (String.le_antisymm (String.not_lt.1 notBelow) below)
                · exact absurd (String.le_antisymm above (String.not_lt.1 notLess)) different
              refine List.pairwise_cons.2 ⟨fun other isMember => ?_, ih later.2⟩
              rcases mem_place.1 isMember with equal | isLater
              · exact equal ▸ greater
              · exact later.1 other isLater

/-- Add a terminal to a set. -/
def insert (terminal : Terminal) (set : TerminalSet) : TerminalSet :=
  ⟨place terminal set.members, pairwise_place terminal set.ascending⟩

@[simp] theorem mem_insert {terminal other : Terminal} {set : TerminalSet} :
    other ∈ set.insert terminal ↔ other = terminal ∨ other ∈ set :=
  mem_place

/-- The set of one terminal. -/
def singleton (terminal : Terminal) : TerminalSet :=
  (∅ : TerminalSet).insert terminal

@[simp] theorem mem_singleton {terminal other : Terminal} :
    other ∈ singleton terminal ↔ other = terminal := by
  simp [singleton]

/-- The set of the terminals in a list. -/
def ofList (terminals : List Terminal) : TerminalSet :=
  terminals.foldr insert ∅

@[simp] theorem mem_ofList {terminal : Terminal} {terminals : List Terminal} :
    terminal ∈ ofList terminals ↔ terminal ∈ terminals := by
  induction terminals with
  | nil => simp [ofList]
  | cons first rest ih =>
      simp only [ofList, List.foldr_cons, mem_insert, List.mem_cons]
      exact or_congr Iff.rfl ih

/-- The union of two sets. -/
def union (left right : TerminalSet) : TerminalSet :=
  left.members.foldr insert right

instance : Union TerminalSet := ⟨union⟩

@[simp] theorem mem_union {terminal : Terminal} {left right : TerminalSet} :
    terminal ∈ left ∪ right ↔ terminal ∈ left ∨ terminal ∈ right := by
  change terminal ∈ left.members.foldr insert right ↔ terminal ∈ left.members ∨ terminal ∈ right
  induction left.members with
  | nil => simp
  | cons member rest ih =>
      simp only [List.foldr_cons, mem_insert, ih, List.mem_cons, or_assoc]

/-- The union of a list of sets. -/
def unions (sets : List TerminalSet) : TerminalSet :=
  sets.foldr union ∅

@[simp] theorem mem_unions {terminal : Terminal} {sets : List TerminalSet} :
    terminal ∈ unions sets ↔ ∃ set ∈ sets, terminal ∈ set := by
  induction sets with
  | nil => simp [unions]
  | cons set rest ih =>
      have step : terminal ∈ unions (set :: rest) ↔ terminal ∈ set ∨ terminal ∈ unions rest :=
        mem_union
      simp [step, ih]

/-- A set without one terminal. -/
def erase (set : TerminalSet) (terminal : Terminal) : TerminalSet :=
  ⟨set.members.filter (· ≠ terminal), set.ascending.filter _⟩

@[simp] theorem mem_erase {terminal other : Terminal} {set : TerminalSet} :
    other ∈ set.erase terminal ↔ other ∈ set ∧ other ≠ terminal := by
  change other ∈ set.members.filter _ ↔ _
  simp [mem_members]

/-- Two sets with the same members are equal. -/
@[ext] theorem ext {left right : TerminalSet}
    (same : ∀ terminal, terminal ∈ left ↔ terminal ∈ right) : left = right := by
  obtain ⟨left, leftAscending⟩ := left
  obtain ⟨right, rightAscending⟩ := right
  have equal : left = right := by
    replace same : ∀ terminal, terminal ∈ left ↔ terminal ∈ right := same
    induction left generalizing right with
    | nil =>
        cases right with
        | nil => rfl
        | cons member rest => exact absurd ((same member).2 (by simp)) (by simp)
    | cons first rest ih =>
        cases right with
        | nil => exact absurd ((same first).1 (by simp)) (by simp)
        | cons other later =>
            have leftBelow := List.pairwise_cons.1 leftAscending
            have rightBelow := List.pairwise_cons.1 rightAscending
            have heads : first = other := by
              rcases List.mem_cons.1 ((same first).1 (by simp)) with equal | inLater
              · exact equal
              · rcases List.mem_cons.1 ((same other).2 (by simp)) with equal | inRest
                · exact equal.symm
                · exact absurd (leftBelow.1 other inRest)
                    (String.lt_asymm (rightBelow.1 first inLater))
            subst heads
            refine congrArg (first :: ·) (ih leftBelow.2 later rightBelow.2 fun terminal => ?_)
            constructor
            · intro inRest
              rcases List.mem_cons.1 ((same terminal).1 (by simp [inRest])) with equal | inLater
              · exact absurd (equal ▸ leftBelow.1 terminal inRest) (String.lt_irrefl _)
              · exact inLater
            · intro inLater
              rcases List.mem_cons.1 ((same terminal).2 (by simp [inLater])) with equal | inRest
              · exact absurd (equal ▸ rightBelow.1 terminal inLater) (String.lt_irrefl _)
              · exact inRest
  subst equal
  rfl

/-- A set without members is the empty one. -/
theorem eq_empty_iff {set : TerminalSet} : set = ∅ ↔ ∀ terminal, ¬ terminal ∈ set := by
  constructor
  · intro empty terminal
    rw [empty]
    exact not_mem_empty terminal
  · intro none
    ext terminal
    exact iff_of_false (none terminal) (not_mem_empty terminal)

end TerminalSet

end Lookahead
