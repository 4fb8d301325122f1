import Lookahead.First.Basic
import Lookahead.Proofs.Derivation
import Lookahead.Proofs.Saturation

/-!
# Rounds of FIRST sets

Whether a line can vanish depends in each round only on which lines could vanish
before, and where a terminal gets to only on that and on where it was.  So the
rounds end within the limit, however many terminals there are, and FIRST sets are
the least that satisfy the equations that one round computes.
-/

namespace Lookahead

namespace FirstSets

variable {grammar : Grammar} {sets : FirstSets} {name : String} {rest : Line}
variable {terminal : Terminal}

@[simp] theorem mem_recompute_nil :
    terminal ∈ recompute grammar sets [] ↔ terminal = epsilon :=
  TerminalSet.mem_singleton

@[simp] theorem mem_recompute_terminal {text : Terminal} :
    terminal ∈ recompute grammar sets (.terminal text :: rest) ↔ terminal = text :=
  TerminalSet.mem_singleton

/-- A line that begins with a nonterminal begins as its alternatives do, and as
the rest does if one of them can vanish. -/
theorem mem_recompute_nonterminal :
    terminal ∈ recompute grammar sets (.nonterminal name :: rest) ↔
      (terminal ≠ epsilon ∧ ∃ line ∈ grammar.lines name, terminal ∈ sets.setOf line) ∨
        (∃ line ∈ grammar.lines name, epsilon ∈ sets.setOf line) ∧ terminal ∈ sets.setOf rest := by
  have heads (terminal : Terminal) :
      terminal ∈ TerminalSet.unions ((grammar.lines name).map sets.ofLine) ↔
        ∃ line ∈ grammar.lines name, terminal ∈ sets.setOf line := by
    simp only [TerminalSet.mem_unions, List.mem_map, exists_exists_and_eq_and]
    exact Iff.rfl
  simp only [recompute]
  split
  · next vanishes =>
      rw [TerminalSet.mem_union, TerminalSet.mem_erase, heads, and_comm]
      rw [heads] at vanishes
      exact or_congr Iff.rfl (and_iff_right vanishes).symm
  · next stays =>
      rw [TerminalSet.mem_erase, heads, and_comm]
      rw [heads] at stays
      simp only [stays, false_and, or_false]

theorem grows_recompute : Rounds.Grows (recompute grammar) := by
  intro before after within line terminal member
  cases line with
  | nil => exact member
  | cons symbol rest =>
      cases symbol with
      | terminal text => exact member
      | nonterminal name =>
          rw [mem_recompute_nonterminal] at member ⊢
          have images {terminal : Terminal} :
              (∃ line ∈ grammar.lines name, terminal ∈ before.setOf line) →
                ∃ line ∈ grammar.lines name, terminal ∈ after.setOf line := by
            intro found
            rcases found with ⟨line, alternative, held⟩
            exact ⟨line, alternative, within line _ held⟩
          cases member with
          | inl begins => exact .inl ⟨begins.1, images begins.2⟩
          | inr vanishes => exact .inr ⟨images vanishes.1, within rest _ vanishes.2⟩

theorem spreads_recompute (terminal : Terminal) :
    Rounds.SpreadsWith (recompute grammar) epsilon terminal := by
  intro before after markers terminals line
  cases line with
  | nil => simp
  | cons symbol rest =>
      cases symbol with
      | terminal text => simp
      | nonterminal name =>
          simp only [mem_recompute_nonterminal, markers _, terminals _]

end FirstSets

namespace Grammar

variable {grammar : Grammar} {line : Line} {terminal : Terminal}

/-- The rounds of FIRST sets end within the limit. -/
theorem first_settles :
    Rounds.round (FirstSets.recompute grammar)
        (Rounds.state (FirstSets.recompute grammar) grammar.suffixes
          (2 * grammar.suffixes.toFinset.card)) =
      Rounds.state (FirstSets.recompute grammar) grammar.suffixes
        (2 * grammar.suffixes.toFinset.card) :=
  Rounds.round_state_of_spreads_with FirstSets.grows_recompute FirstSets.spreads_recompute

theorem first_settles_lt_limit : 2 * grammar.suffixes.toFinset.card < grammar.firstLimit := by
  have distinct := Table.card_toFinset_le_length_entries grammar.suffixes (∅ : TerminalSet)
  rw [firstLimit, FirstSets.initial]
  omega

theorem mem_keys_firstSets : line ∈ grammar.firstSets.keys ↔ line ∈ grammar.suffixes :=
  Rounds.mem_keys_saturate first_settles first_settles_lt_limit

/-- FIRST sets hold what some round finds. -/
theorem mem_firstSets_iff_exists_round :
    terminal ∈ grammar.firstSets.setOf line ↔
      ∃ count,
        terminal ∈ (Rounds.state (FirstSets.recompute grammar) grammar.suffixes count).setOf line :=
  Rounds.mem_saturate_iff first_settles first_settles_lt_limit FirstSets.grows_recompute

/-- FIRST sets are recomputed from themselves. -/
theorem mem_firstSets_iff_recompute :
    terminal ∈ grammar.firstSets.setOf line ↔
      grammar.IsRegistered line ∧
        terminal ∈ FirstSets.recompute grammar grammar.firstSets line := by
  rw [← mem_suffixes]
  exact Rounds.mem_saturate_iff_recompute first_settles first_settles_lt_limit

/-- The rounds of FIRST sets grow from empty sets to the least sets that a round
does not enlarge, and hand out at most one state more than twice the number of
distinct registered lines. -/
theorem firstSets_least (grammar : Grammar) :
    LeastSaturation (FirstSets.round grammar) (FirstSets.initial grammar)
      (2 * grammar.suffixes.toFinset.card + 1) grammar.firstSets :=
  Rounds.leastSaturation FirstSets.grows_recompute first_settles first_settles_lt_limit

/-- A sum that begins with a sum. -/
def leftSum : Grammar :=
  .ofRules (.ofEntries
    [("sum", [[.nonterminal "sum", .terminal "+", .terminal "x"], [.terminal "x"]])])

/-- FIRST sets in which a sum can also begin with a minus, because it begins with a sum. -/
def minusSets : FirstSets :=
  (leftSum.firstSets.insert [.nonterminal "sum"] (.ofList ["-", "x"])).insert
    [.nonterminal "sum", .terminal "+", .terminal "x"] (.ofList ["-", "x"])

/-- A round keeps the larger sets too, but they are not the least. -/
theorem leftSum_saturates :
    (∀ limit, ((Iteration.begin (FirstSets.initial leftSum)).states
        (FirstSets.round leftSum) limit).length ≤ 11) ∧
      fixedState? (FirstSets.round leftSum) 12 (FirstSets.initial leftSum) =
        some leftSum.firstSets ∧
      leftSum.firstSets.ofNonterminal "sum" = .singleton "x" ∧
      FirstSets.round leftSum minusSets = minusSets ∧
      minusSets.ofNonterminal "sum" = .ofList ["-", "x"] ∧
      leftSum.firstSets.Within minusSets := by
  have lines : leftSum.suffixes.toFinset.card = 5 := by decide +kernel
  have kept : FirstSets.round leftSum minusSets = minusSets := by decide +kernel
  have listed : ∀ key ∈ (FirstSets.initial leftSum).keys, key ∈ minusSets.keys := by
    decide +kernel
  have least := firstSets_least leftSum
  rw [lines] at least
  refine ⟨least.bounded, least.ends 12 (by decide), by decide +kernel, kept, by decide +kernel, ?_⟩
  apply least.least minusSets listed
  rw [kept]
  exact .refl minusSets

end Grammar

end Lookahead
