import Lookahead.Proofs.First.Beginnings
import Lookahead.Proofs.Follow.Rounds

/-!
# FOLLOW sets and chains of owners

A round takes a terminal one owner further.  So a nonterminal has a terminal
after some rounds exactly if a shorter chain of owners, each handing over to the
one before, leads to a nonterminal that is provided with it.
-/

namespace Lookahead.FollowSets

variable {grammar : Grammar} {firstSets : FirstSets}
variable {owner name last : String} {terminal : Terminal}

/-- A chain of nonterminals from the first to the last, of the given number of
links, in which each later nonterminal hands over to the one before it. -/
inductive Chain (grammar : Grammar) (firstSets : FirstSets) : Nat → String → String → Prop where
  | refl (name : String) : Chain grammar firstSets 0 name name
  | link {length : Nat} {owner name last : String} :
      HandsOver grammar firstSets owner name → Chain grammar firstSets length owner last →
        Chain grammar firstSets (length + 1) name last

/-- A chain leads from a nonterminal to one that is provided with a terminal. -/
def Reaches (grammar : Grammar) (firstSets : FirstSets) (length : Nat) (name : String)
    (terminal : Terminal) : Prop :=
  ∃ last, Chain grammar firstSets length name last ∧ Provides grammar firstSets last terminal

theorem reaches_zero :
    Reaches grammar firstSets 0 name terminal ↔ Provides grammar firstSets name terminal := by
  constructor
  · intro reaches
    rcases reaches with ⟨last, chain, provided⟩
    cases chain with
    | refl => exact provided
  · intro provided
    exact ⟨name, .refl name, provided⟩

theorem reaches_succ {length : Nat} :
    Reaches grammar firstSets (length + 1) name terminal ↔
      ∃ owner, HandsOver grammar firstSets owner name ∧
        Reaches grammar firstSets length owner terminal := by
  constructor
  · intro reaches
    rcases reaches with ⟨last, chain, provided⟩
    cases chain with
    | link hands rest => exact ⟨_, hands, last, rest, provided⟩
  · intro reaches
    rcases reaches with ⟨owner, hands, last, rest, provided⟩
    exact ⟨last, .link hands rest, provided⟩

theorem mem_names_of_handsOver (hands : HandsOver grammar firstSets owner name) :
    owner ∈ grammar.names := by
  rcases hands with ⟨rest, ⟨front, alternative⟩, _⟩
  exact Grammar.mem_names_of_mem_lines alternative

/-- After some rounds a nonterminal has what shorter chains lead to. -/
theorem mem_round_iff_reaches (count : Nat) :
    ∀ {name : String}, name ∈ grammar.names → ∀ terminal,
      (terminal ∈ (Rounds.state (recompute grammar firstSets) grammar.names count).setOf name ↔
        ∃ length < count, Reaches grammar firstSets length name terminal) := by
  induction count with
  | zero =>
      intro name _ terminal
      constructor
      · intro member
        exact absurd member (Rounds.not_mem_state_zero name terminal)
      · intro reaches
        rcases reaches with ⟨length, shorter, _⟩
        exact absurd shorter (Nat.not_lt_zero length)
  | succ count ih =>
      intro name declared terminal
      rw [Rounds.mem_state_succ, and_iff_right declared, mem_recompute]
      constructor
      · intro given
        cases given with
        | inl provided => exact ⟨0, Nat.succ_pos count, reaches_zero.2 provided⟩
        | inr handed =>
            rcases handed with ⟨owner, hands, member⟩
            rw [ih (mem_names_of_handsOver hands)] at member
            rcases member with ⟨length, shorter, reaches⟩
            exact ⟨length + 1, Nat.succ_lt_succ shorter, reaches_succ.2 ⟨owner, hands, reaches⟩⟩
      · intro given
        rcases given with ⟨length, shorter, reaches⟩
        cases length with
        | zero => exact .inl (reaches_zero.1 reaches)
        | succ length =>
            rcases reaches_succ.1 reaches with ⟨owner, hands, rest⟩
            have member := (ih (mem_names_of_handsOver hands) terminal).2
              ⟨length, Nat.lt_of_succ_lt_succ shorter, rest⟩
            exact .inr ⟨owner, hands, member⟩

/-- FOLLOW sets hold what chains of any length lead to. -/
theorem mem_followSetsFrom_iff_reaches (declared : name ∈ grammar.names) :
    terminal ∈ (grammar.followSetsFrom firstSets).setOf name ↔
      ∃ length, Reaches grammar firstSets length name terminal := by
  rw [Grammar.mem_followSetsFrom_iff_exists_round]
  simp only [mem_round_iff_reaches _ declared]
  constructor
  · intro member
    rcases member with ⟨count, length, _, reaches⟩
    exact ⟨length, reaches⟩
  · intro member
    rcases member with ⟨length, reaches⟩
    exact ⟨length + 1, length, Nat.lt_succ_self length, reaches⟩

/-- Whatever FIRST sets are given, a nonterminal has a terminal after some rounds
exactly if a chain with fewer links leads from it to a nonterminal that is
provided with the terminal.  The states that the iteration hands out are those
after the rounds, and it ends with what chains of any length lead to. -/
theorem followSets_eq_handed_over (grammar : Grammar) (firstSets : FirstSets) (name : String)
    (declared : name ∈ grammar.names) (terminal : Terminal) :
    (∀ count,
      terminal ∈ ((round grammar firstSets)^[count] (initial grammar)).ofNonterminal name ↔
        ∃ length < count, Reaches grammar firstSets length name terminal) ∧
    (∀ limit count state,
      ((Iteration.begin (initial grammar)).states (round grammar firstSets) limit)[count]? =
          some state →
        (terminal ∈ state.ofNonterminal name ↔
          ∃ length < count, Reaches grammar firstSets length name terminal)) ∧
    (terminal ∈ (grammar.followSetsFrom firstSets).ofNonterminal name ↔
      ∃ length, Reaches grammar firstSets length name terminal) := by
  refine ⟨?_, ?_, mem_followSetsFrom_iff_reaches declared⟩
  · intro count
    exact mem_round_iff_reaches count declared terminal
  · intro limit count state found
    rw [Iteration.getElem?_states_begin found]
    exact mem_round_iff_reaches count declared terminal

/-- A statement that ends in a term, which ends in a factor. -/
def nestedTails : Grammar :=
  .ofRules (.ofEntries
    [("statement", [[.nonterminal "term", .terminal ";"]]),
      ("term", [[.terminal "-", .nonterminal "factor"]]),
      ("factor", [[.terminal "(", .nonterminal "atom"]]), ("atom", [[.terminal "x"]])])

/-- The semicolon reaches the atom over two owners, in the third round and not
before. -/
theorem nestedTails_atom :
    "atom" ∈ nestedTails.names ∧
      (∃ length < 3, Reaches nestedTails nestedTails.firstSets length "atom" ";") ∧
      (¬ ∃ length < 2, Reaches nestedTails nestedTails.firstSets length "atom" ";") ∧
      (∃ state, ((Iteration.begin (initial nestedTails)).states
          (round nestedTails nestedTails.firstSets) 4)[3]? = some state ∧
        ";" ∈ state.ofNonterminal "atom") ∧
      ";" ∈ (nestedTails.followSetsFrom nestedTails.firstSets).ofNonterminal "atom" := by
  have declared : "atom" ∈ nestedTails.names := by decide
  have meaning := followSets_eq_handed_over nestedTails nestedTails.firstSets "atom" declared ";"
  have third : ";" ∈ ((round nestedTails nestedTails.firstSets)^[3]
      (initial nestedTails)).ofNonterminal "atom" := by
    decide +kernel
  have second : ";" ∉ ((round nestedTails nestedTails.firstSets)^[2]
      (initial nestedTails)).ofNonterminal "atom" := by
    decide +kernel
  have handedOut : ((Iteration.begin (initial nestedTails)).states
      (round nestedTails nestedTails.firstSets) 4)[3]? =
        some ((round nestedTails nestedTails.firstSets)^[3] (initial nestedTails)) := by
    decide +kernel
  have reaches := (meaning.1 3).1 third
  rcases reaches with ⟨length, shorter, chain⟩
  refine ⟨declared, ⟨length, shorter, chain⟩, ?_, ⟨_, handedOut, ?_⟩, ?_⟩
  · intro early
    exact second ((meaning.1 2).2 early)
  · exact (meaning.2.1 4 3 _ handedOut).2 ⟨length, shorter, chain⟩
  · exact meaning.2.2.2 ⟨length, chain⟩

end Lookahead.FollowSets
