import Lookahead.Follow.Basic
import Lookahead.Proofs.Derivation
import Lookahead.Proofs.Saturation

/-!
# Rounds of FOLLOW sets

A nonterminal gets a terminal in one of two ways: it is provided with it on the
spot, or the owner of an alternative hands over what it had before.  Terminals do
not affect each other, so the rounds end within one round for each rule, with the
least sets that a round does not enlarge, whatever FIRST sets they are given.
-/

namespace Lookahead

namespace FollowSets

variable {grammar : Grammar} {firstSets : FirstSets} {sets : FollowSets}
variable {name : String} {terminal : Terminal}

/-- An ending gives its owner's set: no terminal begins it, or it can vanish. -/
def HandsOn (firstSets : FirstSets) (rest : Line) : Prop :=
  (firstSets.ofLine rest).erase epsilon = ∅ ∨ epsilon ∈ firstSets.ofLine rest

/-- Some occurrence of a nonterminal in an alternative of `giver` has an ending
that gives the set of `giver`. -/
def HandsOver (grammar : Grammar) (firstSets : FirstSets) (giver name : String) : Prop :=
  ∃ rest, grammar.Occurs giver name rest ∧ HandsOn firstSets rest

/-- A nonterminal has a terminal without being handed it: the end of the input
after the start symbol, or what begins an ending that cannot vanish. -/
def Provides (grammar : Grammar) (firstSets : FirstSets) (name : String) (terminal : Terminal) :
    Prop :=
  terminal = epsilon ∧ name = grammar.start ∨
    ∃ owner rest, grammar.Occurs owner name rest ∧
      terminal ∈ firstSets.ofLine rest ∧ epsilon ∉ firstSets.ofLine rest

theorem not_handsOn_iff_of_mem {rest : Line} (member : terminal ∈ firstSets.ofLine rest) :
    ¬ HandsOn firstSets rest ↔ epsilon ∉ firstSets.ofLine rest := by
  constructor
  · intro keeps vanishes
    exact keeps (.inr vanishes)
  · intro stays hands
    cases hands with
    | inl empty =>
        have visible : terminal ≠ epsilon := by
          intro marker
          exact stays (marker ▸ member)
        have held : terminal ∈ (firstSets.ofLine rest).erase epsilon :=
          TerminalSet.mem_erase.2 ⟨member, visible⟩
        rw [empty] at held
        exact TerminalSet.not_mem_empty terminal held
    | inr vanishes => exact stays vanishes

theorem mem_contribution {ending : Grammar.Ending} :
    terminal ∈ contribution firstSets sets ending ↔
      HandsOn firstSets ending.rest ∧ terminal ∈ sets.setOf ending.owner ∨
        terminal ∈ firstSets.ofLine ending.rest ∧ epsilon ∉ firstSets.ofLine ending.rest := by
  simp only [contribution]
  split
  · next hands =>
      constructor
      · intro member
        exact .inl ⟨hands, member⟩
      · intro given
        cases given with
        | inl handed => exact handed.2
        | inr provided => exact absurd hands ((not_handsOn_iff_of_mem provided.1).2 provided.2)
  · next keeps =>
      constructor
      · intro member
        rw [TerminalSet.mem_erase] at member
        exact .inr ⟨member.1, (not_handsOn_iff_of_mem member.1).1 keeps⟩
      · intro given
        cases given with
        | inl handed => exact absurd handed.1 keeps
        | inr provided =>
            apply TerminalSet.mem_erase.2
            constructor
            · exact provided.1
            · intro marker
              exact provided.2 (marker ▸ provided.1)

/-- A round gives a nonterminal what it is provided with and what its owners had
before. -/
theorem mem_recompute :
    terminal ∈ recompute grammar firstSets sets name ↔
      Provides grammar firstSets name terminal ∨
        ∃ owner, HandsOver grammar firstSets owner name ∧ terminal ∈ sets.setOf owner := by
  have seeded : (terminal ∈ if name = grammar.start then TerminalSet.singleton epsilon else ∅) ↔
      terminal = epsilon ∧ name = grammar.start := by
    split
    · next starts => simp [starts]
    · next other => simp [other]
  have ended : (terminal ∈
        TerminalSet.unions ((grammar.endings name).map (contribution firstSets sets))) ↔
      ∃ owner rest, grammar.Occurs owner name rest ∧
        terminal ∈ contribution firstSets sets ⟨owner, rest⟩ := by
    simp only [TerminalSet.mem_unions, List.mem_map, exists_exists_and_eq_and,
      Grammar.mem_endings]
    constructor
    · intro given
      rcases given with ⟨⟨owner, rest⟩, occurs, member⟩
      exact ⟨owner, rest, occurs, member⟩
    · intro given
      rcases given with ⟨owner, rest, occurs, member⟩
      exact ⟨⟨owner, rest⟩, occurs, member⟩
  simp only [recompute, TerminalSet.mem_union, seeded, ended, mem_contribution, Provides, HandsOver]
  constructor
  · intro given
    rcases given with starts | ⟨owner, rest, occurs, ⟨hands, member⟩ | begins⟩
    · exact .inl (.inl starts)
    · exact .inr ⟨owner, ⟨rest, occurs, hands⟩, member⟩
    · exact .inl (.inr ⟨owner, rest, occurs, begins⟩)
  · intro given
    rcases given with (starts | ⟨owner, rest, occurs, begins⟩) |
      ⟨owner, ⟨rest, occurs, hands⟩, member⟩
    · exact .inl starts
    · exact .inr ⟨owner, rest, occurs, .inr begins⟩
    · exact .inr ⟨owner, rest, occurs, .inl ⟨hands, member⟩⟩

theorem grows_recompute : Rounds.Grows (recompute grammar firstSets) := by
  intro before after within name terminal member
  rw [mem_recompute] at member ⊢
  cases member with
  | inl provided => exact .inl provided
  | inr handed =>
      rcases handed with ⟨owner, hands, held⟩
      exact .inr ⟨owner, hands, within owner terminal held⟩

theorem spreads_recompute (terminal : Terminal) :
    Rounds.SpreadsWith (recompute grammar firstSets) terminal terminal := by
  intro before after _ agree name
  simp only [mem_recompute, agree _]

end FollowSets

namespace Grammar

variable {grammar : Grammar} {firstSets : FirstSets} {name : String} {terminal : Terminal}

/-- The rounds of FOLLOW sets end within the limit. -/
theorem follow_settles :
    Rounds.round (FollowSets.recompute grammar firstSets)
        (Rounds.state (FollowSets.recompute grammar firstSets) grammar.names
          grammar.names.toFinset.card) =
      Rounds.state (FollowSets.recompute grammar firstSets) grammar.names
        grammar.names.toFinset.card :=
  Rounds.round_state_of_spreads_alone FollowSets.grows_recompute FollowSets.spreads_recompute

/-- Every rule declares a nonterminal of its own. -/
theorem card_names (grammar : Grammar) :
    grammar.names.toFinset.card = grammar.rules.entries.length := by
  rw [names, List.toFinset_card_of_nodup grammar.rules.nodup_keys]
  exact List.length_map _

theorem follow_settles_lt_limit : grammar.names.toFinset.card < grammar.followLimit := by
  rw [followLimit, card_names]
  omega

theorem mem_keys_followSetsFrom :
    name ∈ (grammar.followSetsFrom firstSets).keys ↔ name ∈ grammar.names :=
  Rounds.mem_keys_saturate follow_settles follow_settles_lt_limit

/-- FOLLOW sets hold what some round finds. -/
theorem mem_followSetsFrom_iff_exists_round :
    terminal ∈ (grammar.followSetsFrom firstSets).setOf name ↔
      ∃ count, terminal ∈
        (Rounds.state (FollowSets.recompute grammar firstSets) grammar.names count).setOf name :=
  Rounds.mem_saturate_iff follow_settles follow_settles_lt_limit FollowSets.grows_recompute

/-- FOLLOW sets are recomputed from themselves. -/
theorem mem_followSetsFrom_iff_recompute :
    terminal ∈ (grammar.followSetsFrom firstSets).setOf name ↔
      name ∈ grammar.names ∧
        (FollowSets.Provides grammar firstSets name terminal ∨
          ∃ owner, FollowSets.HandsOver grammar firstSets owner name ∧
            terminal ∈ (grammar.followSetsFrom firstSets).setOf owner) := by
  rw [← FollowSets.mem_recompute]
  exact Rounds.mem_saturate_iff_recompute follow_settles follow_settles_lt_limit

/-- After the first round the end of the input follows the start symbol, if it is
declared. -/
theorem epsilon_mem_round_succ (declared : grammar.start ∈ grammar.names) (count : Nat) :
    epsilon ∈ (Rounds.state (FollowSets.recompute grammar firstSets) grammar.names
      (count + 1)).setOf grammar.start := by
  rw [Rounds.mem_state_succ, FollowSets.mem_recompute]
  exact ⟨declared, .inl (.inl ⟨rfl, rfl⟩)⟩

/-- Whatever FIRST sets are given, the rounds of FOLLOW sets grow from empty sets
to the least sets that a round does not enlarge, and hand out at most one state
more than there are rules.  From the second state on, the end of the input follows
the start symbol. -/
theorem followSets_least (grammar : Grammar) (firstSets : FirstSets) :
    LeastSaturation (FollowSets.round grammar firstSets) (FollowSets.initial grammar)
        (grammar.rules.entries.length + 1) (grammar.followSetsFrom firstSets) ∧
      (grammar.start ∈ grammar.names →
        (∀ limit place sets,
          ((Iteration.begin (FollowSets.initial grammar)).states
            (FollowSets.round grammar firstSets) limit)[place + 1]? = some sets →
          epsilon ∈ sets.ofNonterminal grammar.start) ∧
        epsilon ∈ (grammar.followSetsFrom firstSets).ofNonterminal grammar.start) := by
  constructor
  · rw [← card_names]
    exact Rounds.leastSaturation FollowSets.grows_recompute follow_settles follow_settles_lt_limit
  · intro declared
    constructor
    · intro limit place sets found
      rw [Rounds.getElem?_states_eq_state found]
      exact epsilon_mem_round_succ declared place
    · exact mem_followSetsFrom_iff_exists_round.2 ⟨1, epsilon_mem_round_succ declared 0⟩

/-- Each rule but the last ends in the nonterminal of the next one. -/
def nestedEnds : Grammar :=
  .ofRules (.ofEntries
    [("statement", [[.terminal "-", .nonterminal "term"]]),
      ("term", [[.terminal "(", .nonterminal "atom"]]), ("atom", [[.terminal "x"]])])

/-- The end of the input reaches one rule in each round, so these three rules need
all four states. -/
theorem nestedEnds_states :
    nestedEnds.start ∈ nestedEnds.names ∧
      ((Iteration.begin (FollowSets.initial nestedEnds)).states
        (FollowSets.round nestedEnds nestedEnds.firstSets) 9).length = 4 ∧
      (∀ limit, ((Iteration.begin (FollowSets.initial nestedEnds)).states
        (FollowSets.round nestedEnds nestedEnds.firstSets) limit).length ≤ 4) ∧
      epsilon ∈ nestedEnds.followSets.ofNonterminal "statement" := by
  have declared : nestedEnds.start ∈ nestedEnds.names := by decide
  have least := followSets_least nestedEnds nestedEnds.firstSets
  exact ⟨declared, by decide +kernel, least.1.bounded, (least.2 declared).2⟩

end Grammar

end Lookahead
