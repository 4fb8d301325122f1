import Lookahead.Proofs.Source.Writing

/-!
# Reading what is written

The grammars that texts give are the well-formed ones: reading gives nothing else,
and every well-formed grammar is read back from its own text.
-/

namespace Lookahead.Source

variable {grammar : Grammar} {rules : List (String × List Line)}

theorem isWritable_of_wellFormed (formed : grammar.WellFormed) {rule : String × List Line}
    (listed : rule ∈ grammar.rules.entries) {line : Line} (inRule : line ∈ rule.2)
    {symbol : Symbol} (member : symbol ∈ line) : IsWritable symbol := by
  have inValues : line ∈ grammar.rules.values.flatten :=
    List.mem_flatten.2 ⟨rule.2, List.mem_map_of_mem listed, inRule⟩
  cases symbol with
  | terminal text =>
      have quotable := formed.quotable line inValues _ member
      rcases quotable with ⟨visible, noQuote, noFeed⟩
      have shown : text ≠ epsilon := visible
      constructor
      · exact noQuote
      · simp [tokenOf, Token.symbol?, shown]
      · exact isContent_write_terminal noFeed
  | nonterminal name =>
      have named := formed.named name (formed.closed line inValues name member)
      constructor
      · exact named.isSpelled
      · rfl
      · exact isContent_of_isRuleName named

/-- Lines that hold the written rules are read as these rules. -/
theorem exists_rules_of_contents {lines : List Text.SourceLine}
    (contents : lines.map Text.SourceLine.content = rules.map Grammar.writeRule)
    (shown : ∀ rule ∈ rules, Text.isRuleLine (Grammar.writeRule rule) = true)
    (readable : ∀ rule ∈ rules, ∀ offset, ∃ found,
      Rule.ofLine (Grammar.writeRule rule) offset = .ok found ∧ found.entry = rule) :
    ∃ found : List Rule,
      ((lines.filter (Text.isRuleLine ·.content)).map fun line =>
        Rule.ofLine line.content line.offset) = found.map .ok ∧
      rules = found.map Rule.entry := by
  induction rules generalizing lines with
  | nil =>
      rw [List.map_nil, List.map_eq_nil_iff] at contents
      exact ⟨[], by simp [contents], rfl⟩
  | cons rule rules ih =>
      rw [List.forall_mem_cons] at shown readable
      rcases List.map_eq_cons_iff.1 contents with ⟨line, later, rfl, first, others⟩
      rcases ih others shown.2 readable.2 with ⟨found, read, entries⟩
      rcases readable.1 line.offset with ⟨head, readHead, entry⟩
      exists head :: found
      constructor
      · rw [List.filter_cons_of_pos (by rw [first]; exact shown.1), List.map_cons, first, readHead,
          read, List.map_cons]
      · rw [List.map_cons, entry, ← entries]

/-- A well-formed grammar is read back from what is written, whether or not the
last line is ended. -/
theorem parse_write (formed : grammar.WellFormed) {ending : String}
    (ends : ending = "" ∨ ending = "\n") : parse (grammar.write ++ ending) = .ok grammar := by
  have named : ∀ rule ∈ grammar.rules.entries, IsRuleName rule.1 := by
    intro rule listed
    exact formed.named rule.1 (List.mem_map_of_mem listed)
  have someRule : grammar.rules.entries ≠ [] := by
    intro none
    have head := formed.startsFirst
    simp [Grammar.names, Table.keys, none] at head
  have contents : (Text.lines (grammar.write ++ ending)).map Text.SourceLine.content =
      grammar.rules.entries.map Grammar.writeRule := by
    apply Text.contents_lines
    · simpa using someRule
    · intro written member
      rcases List.mem_map.1 member with ⟨rule, listed, rfl⟩
      constructor
      · apply isContent_writeRule (named rule listed)
        intro line inRule symbol inLine
        exact isWritable_of_wellFormed formed listed inRule inLine
      · intro empty
        have shown := isRuleLine_writeRule (named rule listed)
        rw [empty] at shown
        cases shown
    · exact ends
  have shown : ∀ rule ∈ grammar.rules.entries,
      Text.isRuleLine (Grammar.writeRule rule) = true := by
    intro rule listed
    exact isRuleLine_writeRule (named rule listed)
  have readable : ∀ rule ∈ grammar.rules.entries, ∀ offset, ∃ found,
      Rule.ofLine (Grammar.writeRule rule) offset = .ok found ∧ found.entry = rule := by
    intro rule listed offset
    apply exists_rule_of_writeRule (named rule listed) (formed.inhabited rule listed)
    intro line inRule symbol inLine
    exact isWritable_of_wellFormed formed listed inRule inLine
  rcases exists_rules_of_contents contents shown readable with ⟨found, read, entries⟩
  exact parse_eq_ok_iff.2 ⟨found, read, entries, formed.startsFirst, formed.closed⟩

/-- Reading gives well-formed grammars only, and gives every one of them for its
own text. -/
theorem text_and_grammar_determine_each_other :
    (∀ text grammar, parse text = .ok grammar → grammar.WellFormed) ∧
      ∀ grammar : Grammar, grammar.WellFormed →
        parse grammar.write = .ok grammar ∧ parse (grammar.write ++ "\n") = .ok grammar := by
  constructor
  · intro text grammar read
    exact wellFormed_of_parse read
  · intro grammar formed
    have unended := parse_write formed (.inl rfl)
    rw [String.append_empty] at unended
    exact ⟨unended, parse_write formed (.inr rfl)⟩

/-- Alternatives with empty ones at both ends, and terminals made of characters
that have a meaning elsewhere. -/
def fringedAlternatives : Grammar :=
  .ofRules (.ofEntries
    [("S;", [[], [.terminal "=|;", .nonterminal "λ"], []]),
      ("λ", [[.terminal "\r"], [.terminal "ε", .nonterminal "S;"]])])

/-- The text of such a grammar is read as this grammar, which is well-formed. -/
theorem fringedAlternatives_reads :
    fringedAlternatives.WellFormed ∧
      fringedAlternatives.write = "S; =  | \"=|;\" λ | \nλ = \"\r\" | \"ε\" S;" ∧
      parse "S; =  | \"=|;\" λ | \nλ = \"\r\" | \"ε\" S;" = .ok fringedAlternatives := by
  have formed : fringedAlternatives.WellFormed := by decide
  have written : fringedAlternatives.write = "S; =  | \"=|;\" λ | \nλ = \"\r\" | \"ε\" S;" := by
    decide +kernel
  have read := (text_and_grammar_determine_each_other.2 _ formed).1
  rw [written] at read
  exact ⟨text_and_grammar_determine_each_other.1 _ _ read, written, read⟩

end Lookahead.Source
