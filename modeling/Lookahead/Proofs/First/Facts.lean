import Lookahead.Proofs.First.Rounds

/-!
# What the rules of FIRST sets derive

The rules by which FIRST sets are computed say of any line what it begins with, be it a
suffix of the grammar or not.  The rounds keep sets for registered lines only.  Whatever
a rule needs to know of other lines is about registered lines again, so the FIRST set
of a registered line holds all that the rules derive for it, and is empty only if they
derive nothing.
-/

namespace Lookahead.Grammar

variable {grammar : Grammar} {sets : FirstSets} {line : Line} {terminal : Terminal}

/-- A terminal begins a line by the rules of FIRST sets; `epsilon` says that the line can
vanish. -/
inductive HasFirst (grammar : Grammar) : Line → Terminal → Prop where
  | empty : HasFirst grammar [] epsilon
  | terminal (text : Terminal) (rest : Line) : HasFirst grammar (.terminal text :: rest) text
  | alternative {name : String} {line : Line} {terminal : Terminal} (rest : Line) :
      line ∈ grammar.lines name → HasFirst grammar line terminal → terminal ≠ epsilon →
        HasFirst grammar (.nonterminal name :: rest) terminal
  | skipped {name : String} {line rest : Line} {terminal : Terminal} :
      line ∈ grammar.lines name → HasFirst grammar line epsilon →
        HasFirst grammar rest terminal → HasFirst grammar (.nonterminal name :: rest) terminal

/-- From sets of derived terminals a round computes derived terminals. -/
theorem hasFirst_of_mem_recompute
    (sound : ∀ line terminal, terminal ∈ sets.setOf line → grammar.HasFirst line terminal)
    (member : terminal ∈ FirstSets.recompute grammar sets line) :
    grammar.HasFirst line terminal := by
  cases line with
  | nil =>
      rw [FirstSets.mem_recompute_nil] at member
      exact member ▸ .empty
  | cons symbol rest =>
      cases symbol with
      | terminal text =>
          rw [FirstSets.mem_recompute_terminal] at member
          exact member ▸ .terminal terminal rest
      | nonterminal name =>
          rw [FirstSets.mem_recompute_nonterminal] at member
          cases member with
          | inl begins =>
              rcases begins with ⟨visible, line, alternative, held⟩
              exact .alternative rest alternative (sound line terminal held) visible
          | inr vanishes =>
              rcases vanishes with ⟨⟨line, alternative, vanishes⟩, held⟩
              exact .skipped alternative (sound line epsilon vanishes) (sound rest terminal held)

theorem hasFirst_of_mem_round (count : Nat) :
    ∀ line terminal,
      terminal ∈ (Rounds.state (FirstSets.recompute grammar) grammar.suffixes count).setOf line →
        grammar.HasFirst line terminal := by
  induction count with
  | zero =>
      intro line terminal member
      exact absurd member (Rounds.not_mem_state_zero line terminal)
  | succ count ih =>
      intro line terminal member
      rw [Rounds.mem_state_succ] at member
      exact hasFirst_of_mem_recompute ih member.2

/-- The FIRST set of a registered line misses nothing: the alternatives and the rest that
a rule asks for are registered too. -/
theorem HasFirst.mem_firstSets (derived : grammar.HasFirst line terminal) :
    grammar.IsRegistered line → terminal ∈ grammar.firstSets.setOf line := by
  -- Being registered is passed on to the lines that the premises of each rule are about.
  induction derived with
  | empty =>
      intro registered
      rw [mem_firstSets_iff_recompute, FirstSets.mem_recompute_nil]
      exact ⟨registered, rfl⟩
  | terminal text rest =>
      intro registered
      rw [mem_firstSets_iff_recompute, FirstSets.mem_recompute_terminal]
      exact ⟨registered, rfl⟩
  | alternative rest alternative _ visible ih =>
      intro registered
      have held := ih (isRegistered_of_mem_lines alternative)
      rw [mem_firstSets_iff_recompute, FirstSets.mem_recompute_nonterminal]
      exact ⟨registered, .inl ⟨visible, _, alternative, held⟩⟩
  | skipped alternative _ _ vanishes ih =>
      intro registered
      have vanishes := vanishes (isRegistered_of_mem_lines alternative)
      have held := ih registered.tail
      rw [mem_firstSets_iff_recompute, FirstSets.mem_recompute_nonterminal]
      exact ⟨registered, .inr ⟨⟨_, alternative, vanishes⟩, held⟩⟩

/-- A FIRST set holds what the rules derive for its line, if the line is registered. -/
theorem mem_firstSets_iff_hasFirst :
    terminal ∈ grammar.firstSets.setOf line ↔
      grammar.IsRegistered line ∧ grammar.HasFirst line terminal := by
  constructor
  · intro member
    obtain ⟨count, found⟩ := mem_firstSets_iff_exists_round.1 member
    exact ⟨(mem_firstSets_iff_recompute.1 member).1, hasFirst_of_mem_round count _ _ found⟩
  · intro derived
    exact derived.2.mem_firstSets derived.1

/-- The FIRST set of a registered line is empty exactly if the rules derive nothing for
it. -/
theorem setOf_firstSets_eq_empty_iff (registered : grammar.IsRegistered line) :
    grammar.firstSets.setOf line = ∅ ↔ ∀ terminal, ¬ grammar.HasFirst line terminal := by
  rw [TerminalSet.eq_empty_iff]
  apply forall_congr'
  intro terminal
  rw [mem_firstSets_iff_hasFirst, and_iff_right registered]

end Lookahead.Grammar
