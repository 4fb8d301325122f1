import Lookahead.Proofs.Follow.Rounds
import Lookahead.Program.Run

/-!
# The choice of the start symbol

The start symbol has no part in FIRST sets.  In FOLLOW sets it is provided with the
end of the input and with nothing else, and what FIRST sets say about the end of a
line is never provided.  So two start symbols give the same FOLLOW sets up to the mark
for the end of the input, round by round, and two reports that differ only there.
-/

namespace Lookahead

/-! ## Rounds -/

namespace FollowSets

variable {grammar : Grammar} {firstSets : FirstSets} {name : String} {terminal : Terminal}

theorem provides_withStart_iff (visible : terminal ≠ epsilon) (start : String) :
    Provides (grammar.withStart start) firstSets name terminal ↔
      Provides grammar firstSets name terminal := by
  simp only [Provides, visible, false_and, false_or]
  rfl

/-- What begins an ending that cannot vanish is not the mark of such an ending. -/
theorem eq_start_of_provides_epsilon (provided : Provides grammar firstSets name epsilon) :
    name = grammar.start := by
  cases provided with
  | inl starts => exact starts.2
  | inr begins =>
      rcases begins with ⟨_, _, _, vanishes, stays⟩
      exact absurd vanishes stays

/-- Terminals take the same ways from either start symbol. -/
theorem mem_round_withStart_iff (visible : terminal ≠ epsilon) (start : String) (count : Nat) :
    ∀ name, terminal ∈ (Rounds.state (recompute (grammar.withStart start) firstSets)
          grammar.names count).setOf name ↔
        terminal ∈ (Rounds.state (recompute grammar firstSets) grammar.names count).setOf name := by
  induction count with
  | zero =>
      intro name
      exact iff_of_false (Rounds.not_mem_state_zero name terminal)
        (Rounds.not_mem_state_zero name terminal)
  | succ count ih =>
      intro name
      -- Who hands over to whom depends on the rules and the FIRST sets alone.
      rw [Rounds.mem_state_succ, Rounds.mem_state_succ, mem_recompute, mem_recompute,
        provides_withStart_iff visible]
      simp only [ih]
      rfl

/-- The end of the input comes from the start symbol, which has to be declared. -/
theorem start_mem_names_of_mem_round (count : Nat) :
    ∀ name, epsilon ∈ (Rounds.state (recompute grammar firstSets) grammar.names count).setOf name →
      grammar.start ∈ grammar.names := by
  induction count with
  | zero =>
      intro name member
      exact absurd member (Rounds.not_mem_state_zero name epsilon)
  | succ count ih =>
      intro name member
      rw [Rounds.mem_state_succ, mem_recompute] at member
      rcases member with ⟨declared, provided | ⟨owner, _, held⟩⟩
      · exact eq_start_of_provides_epsilon provided ▸ declared
      · exact ih owner held

end FollowSets

/-! ## Sets -/

namespace Grammar

variable {grammar : Grammar} {name : String} {terminal : Terminal}

theorem firstSets_withStart (grammar : Grammar) (start : String) :
    (grammar.withStart start).firstSets = grammar.firstSets := rfl

theorem mem_followSets_withStart_iff (visible : terminal ≠ epsilon) (start : String) :
    terminal ∈ (grammar.withStart start).followSets.setOf name ↔
      terminal ∈ grammar.followSets.setOf name := by
  rw [followSets, followSets, mem_followSetsFrom_iff_exists_round,
    mem_followSetsFrom_iff_exists_round]
  exact exists_congr fun count => FollowSets.mem_round_withStart_iff visible start count name

theorem erase_followSets_withStart (grammar : Grammar) (start name : String) :
    ((grammar.withStart start).followSets.ofNonterminal name).erase epsilon =
      (grammar.followSets.ofNonterminal name).erase epsilon := by
  ext terminal
  rw [TerminalSet.mem_erase, TerminalSet.mem_erase]
  apply and_congr_left
  intro visible
  exact mem_followSets_withStart_iff visible start

theorem start_mem_names_of_mem_followSets
    (ends : epsilon ∈ grammar.followSets.ofNonterminal name) : grammar.start ∈ grammar.names := by
  rcases mem_followSetsFrom_iff_exists_round.1 ends with ⟨count, member⟩
  exact FollowSets.start_mem_names_of_mem_round count name member

/-- Whether the end of the input follows a nonterminal when the input is derived from
`start`. -/
def endsFrom (grammar : Grammar) (start name : String) : Bool :=
  decide (epsilon ∈ (grammar.withStart start).followSets.ofNonterminal name)

end Grammar

/-! ## Reports -/

theorem not_lt_epsilon (terminal : Terminal) : ¬ terminal < epsilon := by
  rw [epsilon, String.lt_iff]
  exact List.not_lt_nil terminal.toList

/-- The text without characters comes first among the members of a set. -/
theorem TerminalSet.members_eq (set : TerminalSet) :
    set.members = (if epsilon ∈ set then [epsilon] else []) ++ (set.erase epsilon).members := by
  have ascending := set.ascending
  simp only [← mem_members, erase]
  cases members : set.members with
  | nil => rfl
  | cons first rest =>
      rw [members, List.pairwise_cons] at ascending
      have absent : epsilon ∉ rest := fun member =>
        not_lt_epsilon first (ascending.1 epsilon member)
      have kept : rest.filter (fun terminal => !decide (terminal = epsilon)) = rest := by
        rw [List.filter_eq_self]
        intro terminal member
        simpa using ne_of_mem_of_not_mem member absent
      by_cases empty : first = epsilon
      · simp [empty, kept]
      · simp [empty, Ne.symm empty, absent, kept]

namespace Report

/-- A row of FOLLOW, which begins with the mark for the end of the input or does
not. -/
def markedRow (ends : Bool) (name : String) (set : TerminalSet) : String :=
  "  " ++ name ++ ": " ++
    " ".intercalate ((if ends then [emptyLineName] else []) ++ set.members.map Terminal.render)

/-- The report on a grammar, with the mark for the end of the input in the rows of
some names. -/
def marked (ends : String → Bool) (grammar : Grammar) (sections : Sections) : String :=
  joinSections
    ((if sections.first then
        [renderSection Text.escapeChar "FIRST" (firstRows grammar grammar.firstSets)] else []) ++
      (if sections.suffixes then
        [renderSection Text.escapeChar "SUFFIXES" (suffixRows Text.escapeChar grammar.firstSets)]
        else []) ++
      (if sections.follow then
        ["\n".intercalate ("FOLLOW" :: grammar.names.map fun name =>
          markedRow (ends name) name
            ((grammar.followSets.ofNonterminal name).erase epsilon))] else []))

theorem renderWith_row (name : String) (set : TerminalSet) :
    Row.renderWith Text.escapeChar (name, set) =
      markedRow (decide (epsilon ∈ set)) name (set.erase epsilon) := by
  have mark : (if decide (epsilon ∈ set) then [emptyLineName] else []) =
      (if epsilon ∈ set then [epsilon] else []).map Terminal.render := by
    by_cases ends : epsilon ∈ set
    · rw [decide_eq_true ends, if_pos ends]
      rfl
    · rw [decide_eq_false ends, if_neg ends]
      rfl
  rw [markedRow, mark, ← List.map_append, ← set.members_eq]
  rfl

/-- The report from a start symbol is that on the grammar, with marks in the rows of the
names that the end of the input then follows. -/
theorem report_withStart (grammar : Grammar) (start : String) (sections : Sections) :
    Program.report (grammar.withStart start) sections =
      marked (grammar.endsFrom start) grammar sections := by
  have rows : (followRows grammar (grammar.withStart start).followSets).map
        (Row.renderWith Text.escapeChar) =
      grammar.names.map fun name => markedRow (grammar.endsFrom start name) name
        ((grammar.followSets.ofNonterminal name).erase epsilon) := by
    rw [followRows, List.map_map]
    apply List.map_congr_left
    intro name _
    rw [Function.comp_apply, renderWith_row, grammar.erase_followSets_withStart, Grammar.endsFrom]
  rw [marked, ← rows]
  rfl

end Report

namespace Program

/-- A run from a declared start symbol reports on the grammar with marks. -/
theorem run_start (options : Options) {text start : String} {grammar : Grammar}
    (parsed : Source.parse text = .ok grammar) (declared : start ∈ grammar.names) :
    run { options with start := some start } (.ok text) =
      .ok (Report.marked (grammar.endsFrom start) grammar options.sections) := by
  have chosen : chooseStart grammar (some start) = .ok (grammar.withStart start) :=
    if_pos (Table.contains_iff.2 declared)
  rw [← Report.report_withStart]
  change reportText { options with start := some start } text = _
  simp only [reportText, parsed, Except.mapError, bind, Except.bind, chosen]
  rfl

end Program

/-- The start symbol decides about the mark for the end of the input and about nothing
else: FIRST sets are the same from any two start symbols, FOLLOW sets are the same up to
the mark, and there is no mark if the start symbol is not declared.  So the reports from
two declared start symbols are the same text with marks in the rows of these or those
names of FOLLOW. -/
theorem start_decides_ends_only (grammar : Grammar) (left right : String) :
    (grammar.withStart left).firstSets = (grammar.withStart right).firstSets ∧
      (∀ name, ((grammar.withStart left).followSets.ofNonterminal name).erase epsilon =
        ((grammar.withStart right).followSets.ofNonterminal name).erase epsilon) ∧
      (left ∉ grammar.names →
        ∀ name, epsilon ∉ (grammar.withStart left).followSets.ofNonterminal name) ∧
      ∀ (options : Program.Options) (text : String), Source.parse text = .ok grammar →
        left ∈ grammar.names → right ∈ grammar.names →
          Program.run { options with start := some left } (.ok text) =
              .ok (Report.marked (grammar.endsFrom left) grammar options.sections) ∧
            Program.run { options with start := some right } (.ok text) =
              .ok (Report.marked (grammar.endsFrom right) grammar options.sections) := by
  refine ⟨?_, ?_, ?_, ?_⟩
  · rw [grammar.firstSets_withStart left, grammar.firstSets_withStart right]
  · intro name
    rw [grammar.erase_followSets_withStart left, grammar.erase_followSets_withStart right]
  · intro undeclared name ends
    exact undeclared (Grammar.start_mem_names_of_mem_followSets ends)
  · intro options text parsed leftDeclared rightDeclared
    exact ⟨Program.run_start options parsed leftDeclared,
      Program.run_start options parsed rightDeclared⟩

/-- A rule for calls and one for their arguments. -/
def callsText : String :=
  "call = \"f\" \"(\" arguments \")\"\narguments = call arguments |"

/-- The grammar of the two rules. -/
def calls : Grammar :=
  .ofRules (.ofEntries
    [("call", [[.terminal "f", .terminal "(", .nonterminal "arguments", .terminal ")"]]),
      ("arguments", [[.nonterminal "call", .nonterminal "arguments"], []])])

/-- From calls the end of the input does not follow arguments, and from arguments it
does. -/
theorem calls_ends :
    Source.parse callsText = .ok calls ∧
      (∀ name, epsilon ∉ (calls.withStart "program").followSets.ofNonterminal name) ∧
      Program.run ⟨"calls", some "call", true, true, true⟩ (.ok callsText) =
        .ok (Report.marked (calls.endsFrom "call") calls ⟨true, true, true⟩) ∧
      Program.run ⟨"calls", some "arguments", true, true, true⟩ (.ok callsText) =
        .ok (Report.marked (calls.endsFrom "arguments") calls ⟨true, true, true⟩) ∧
      calls.endsFrom "call" "arguments" = false ∧
      calls.endsFrom "arguments" "arguments" = true := by
  have parsed : Source.parse callsText = .ok calls := by decide +kernel
  have undeclared := start_decides_ends_only calls "program" "call"
  have declared := start_decides_ends_only calls "call" "arguments"
  have runs := declared.2.2.2 ⟨"calls", none, true, true, true⟩ callsText parsed (by decide)
    (by decide)
  exact ⟨parsed, undeclared.2.2.1 (by decide), runs.1, runs.2, by decide +kernel,
    by decide +kernel⟩

end Lookahead
