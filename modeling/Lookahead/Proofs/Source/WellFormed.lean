import Lookahead.Proofs.Source.Reading
import Lookahead.Proofs.Text.RuleLines

/-!
# Grammars that a text can give

Reading refuses every text that does not give a grammar of a certain form.  The
form says which names rules can have, which terminals can stand between quotes,
and that every nonterminal is declared.
-/

namespace Lookahead

/-- A rule can have this name. -/
structure IsRuleName (name : String) : Prop where
  inhabited : name ≠ ""
  plain : ∀ char ∈ name.toList,
    Text.isBlank char = false ∧ char ≠ '=' ∧ char ≠ '|' ∧ char ≠ '"'
  noComment : name.toList.head? ≠ some ';'
  unreserved : name ≠ "ε"

/-- A computable form of being the name of a rule. -/
theorem isRuleName_iff {name : String} :
    (name ≠ "" ∧ name.toList.all Source.isNameChar = true ∧
      name.toList.head? ≠ some ';' ∧ name ≠ "ε") ↔ IsRuleName name := by
  simp only [List.all_eq_true, Source.isNameChar_iff]
  constructor
  · intro checks
    rcases checks with ⟨inhabited, plain, noComment, unreserved⟩
    exact ⟨inhabited, plain, noComment, unreserved⟩
  · intro named
    exact ⟨named.inhabited, named.plain, named.noComment, named.unreserved⟩

instance (name : String) : Decidable (IsRuleName name) :=
  decidable_of_iff _ isRuleName_iff

/-- The name of a rule is read as one token. -/
theorem IsRuleName.isSpelled {name : String} (named : IsRuleName name) :
    (Source.Token.nonterminal name).IsSpelled :=
  ⟨named.inhabited, fun char inside => Source.isNameChar_iff.2 (named.plain char inside)⟩

/-- A terminal can stand between quotes in a line. -/
def Symbol.IsQuotable : Symbol → Prop
  | .terminal text => text ≠ "" ∧ '"' ∉ text.toList ∧ '\n' ∉ text.toList
  | .nonterminal _ => True

instance : DecidablePred Symbol.IsQuotable
  | .terminal text =>
      inferInstanceAs (Decidable (text ≠ "" ∧ '"' ∉ text.toList ∧ '\n' ∉ text.toList))
  | .nonterminal _ => inferInstanceAs (Decidable True)

namespace Grammar

/-- The grammars that a text can give. -/
structure WellFormed (grammar : Grammar) : Prop where
  /-- There is a first rule, and it gives the start symbol. -/
  startsFirst : grammar.names.head? = some grammar.start
  named : ∀ name ∈ grammar.names, IsRuleName name
  inhabited : ∀ rule ∈ grammar.rules.entries, rule.2 ≠ []
  closed : grammar.IsClosed
  quotable : ∀ line ∈ grammar.rules.values.flatten, ∀ symbol ∈ line, symbol.IsQuotable

instance (grammar : Grammar) : Decidable grammar.WellFormed :=
  decidable_of_iff
    (grammar.names.head? = some grammar.start ∧ (∀ name ∈ grammar.names, IsRuleName name) ∧
      (∀ rule ∈ grammar.rules.entries, rule.2 ≠ []) ∧ grammar.IsClosed ∧
      ∀ line ∈ grammar.rules.values.flatten, ∀ symbol ∈ line, symbol.IsQuotable)
    ⟨fun fields =>
        ⟨fields.1, fields.2.1, fields.2.2.1, fields.2.2.2.1, fields.2.2.2.2⟩,
      fun formed =>
        ⟨formed.startsFirst, formed.named, formed.inhabited, formed.closed, formed.quotable⟩⟩

end Grammar

/-- A symbol can stand in a line of a grammar that is read. -/
def Symbol.IsReadable : Symbol → Prop
  | .terminal text => (Symbol.terminal text).IsQuotable
  | .nonterminal name => IsRuleName name

/-- The suffixes of a grammar are made of symbols of its lines. -/
theorem Grammar.WellFormed.isReadable {grammar : Grammar} (formed : grammar.WellFormed)
    {line : Line} (registered : grammar.IsRegistered line) :
    ∀ symbol ∈ line, symbol.IsReadable := by
  rcases registered with ⟨owner, alternative, listed, suffix⟩ | ⟨name, declared, rfl⟩ | rfl
  · intro symbol member
    have inValues := mem_flatten_values.2 ⟨owner, listed⟩
    have inside := suffix.mem member
    cases symbol with
    | terminal text => exact formed.quotable alternative inValues _ inside
    | nonterminal name =>
        exact formed.named name (formed.closed alternative inValues name inside)
  · intro symbol member
    rw [List.mem_singleton.1 member]
    exact formed.named name declared
  · exact List.forall_mem_nil _

namespace Source

variable {line text : String} {offset : Nat} {rule : Rule} {grammar : Grammar}

/-! ## Rules that are read -/

/-- The name of a rule line stands at its front. -/
theorem head?_name_of_isRuleLine {name : String} {span : Span} {lexemes : List Lexeme}
    (shown : Text.isRuleLine line = true) (inhabited : name ≠ "")
    (layout : Layout offset line.toList (⟨.nonterminal name, span⟩ :: lexemes)) :
    name.toList.head? ≠ some ';' := by
  obtain ⟨blanks, rest, shape, blank, _, _, spelled, _, _⟩ := layout.uncons
  cases letters : name.toList with
  | nil => exact absurd (String.toList_eq_nil_iff.1 letters) inhabited
  | cons letter letters' =>
      have solid := (isNameChar_iff.1 (spelled.2 letter (by simp [letters]))).1
      have split : line.toList = blanks ++ letter :: (letters' ++ rest) := by
        simp [shape, Token.spelling, letters]
      rw [Text.isRuleLine_eq split blank solid, bne_iff_ne] at shown
      simpa using shown

theorem isRuleName_of_ofLine (shown : Text.isRuleLine line = true)
    (read : Rule.ofLine line offset = .ok rule) : IsRuleName rule.name := by
  rcases Rule.ofLine_eq_ok_iff.1 read with ⟨mark, body, layout, unreserved, _⟩
  have spelled := (layout.spelled_of_mem List.mem_cons_self).1
  constructor
  · exact spelled.1
  · intro char member
    exact isNameChar_iff.1 (spelled.2 char member)
  · exact head?_name_of_isRuleLine shown spelled.1 layout
  · exact unreserved

theorem alternatives_ne_nil_of_ofLine (read : Rule.ofLine line offset = .ok rule) :
    rule.alternatives ≠ [] := by
  rcases Rule.ofLine_eq_ok_iff.1 read with ⟨mark, body, _, _, _, alternatives⟩
  rw [alternatives]
  intro empty
  exact splitAtBars_ne_nil body (List.map_eq_nil_iff.1 empty)

theorem symbol?_eq_some_terminal {token : Token} {terminal : Terminal}
    (shown : token.symbol? = some (.terminal terminal)) :
    token = .terminal terminal ∧ terminal ≠ epsilon := by
  cases token with
  | equals => cases shown
  | bar => cases shown
  | nonterminal name => cases shown
  | terminal text =>
      by_cases empty : text = epsilon
      · simp [Token.symbol?, empty] at shown
      · rw [Token.symbol?, if_neg empty] at shown
        cases shown
        exact ⟨rfl, empty⟩

theorem isQuotable_of_ofLine (noFeed : '\n' ∉ line.toList)
    (read : Rule.ofLine line offset = .ok rule) {alternative : LocatedLine}
    (listed : alternative ∈ rule.alternatives) {symbol : Located Symbol}
    (member : symbol ∈ alternative) : symbol.value.IsQuotable := by
  rcases Rule.ofLine_eq_ok_iff.1 read with ⟨mark, body, layout, _, _, alternatives⟩
  rw [alternatives] at listed
  rcases List.mem_map.1 listed with ⟨run, inBody, rfl⟩
  rcases mem_symbolsOf member with ⟨lexeme, inRun, shown, _⟩
  have laidOut : lexeme ∈ body := (mem_of_mem_splitAtBars inBody inRun).1
  cases kind : symbol.value with
  | nonterminal name => trivial
  | terminal terminal =>
      rw [kind] at shown
      rcases symbol?_eq_some_terminal shown with ⟨token, visible⟩
      have spelled := layout.spelled_of_mem
        (List.mem_cons_of_mem _ (List.mem_cons_of_mem _ laidOut))
      rw [token] at spelled
      have feedless : '\n' ∉ terminal.toList := by
        intro feed
        exact noFeed (spelled.2 '\n' (by simp [Token.spelling, feed]))
      exact ⟨visible, spelled.1, feedless⟩

/-! ## Grammars that are read -/

theorem exists_line_of_mem_entries (read : parse text = .ok grammar) {entry : String × List Line}
    (member : entry ∈ grammar.rules.entries) :
    ∃ rule line, entry = rule.entry ∧ line ∈ Text.lines text ∧
      Text.isRuleLine line.content = true ∧ Rule.ofLine line.content line.offset = .ok rule := by
  rcases parse_eq_ok_iff.1 read with ⟨rules, results, entries, _⟩
  rw [entries] at member
  rcases List.mem_map.1 member with ⟨rule, inRules, rfl⟩
  have listed : .ok rule ∈ readRules text := by
    rw [results]
    exact List.mem_map_of_mem inRules
  rcases ok_mem_readRules_iff.1 listed with ⟨line, inText, shown, readLine⟩
  exact ⟨rule, line, rfl, inText, shown, readLine⟩

/-- Every grammar that is read is well-formed. -/
theorem wellFormed_of_parse (read : parse text = .ok grammar) : grammar.WellFormed := by
  rcases parse_eq_ok_iff.1 read with ⟨_, _, _, startsFirst, closed⟩
  constructor
  · exact startsFirst
  · intro name member
    rcases List.mem_map.1 member with ⟨entry, listed, rfl⟩
    rcases exists_line_of_mem_entries read listed with ⟨rule, line, rfl, _, shown, readLine⟩
    exact isRuleName_of_ofLine shown readLine
  · intro entry listed
    rcases exists_line_of_mem_entries read listed with ⟨rule, line, rfl, _, _, readLine⟩
    simpa [Rule.entry] using alternatives_ne_nil_of_ofLine readLine
  · exact closed
  · intro symbols listed symbol member
    rcases List.mem_flatten.1 listed with ⟨alternatives, inValues, inAlternatives⟩
    rcases List.mem_map.1 inValues with ⟨entry, inEntries, rfl⟩
    rcases exists_line_of_mem_entries read inEntries with ⟨rule, line, rfl, inText, _, readLine⟩
    rcases List.mem_map.1 inAlternatives with ⟨alternative, inRule, rfl⟩
    rcases List.mem_map.1 member with ⟨placed, inAlternative, rfl⟩
    exact isQuotable_of_ofLine (Text.no_lineFeed_in_lines inText) readLine inRule inAlternative

end Source

end Lookahead
