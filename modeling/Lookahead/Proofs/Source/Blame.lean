import Lookahead.Proofs.Source.Diagnoses

/-!
# Places to blame

The span of every diagnostic marks exactly the text that is at fault: a name, an
equals sign, an open quote and what follows it, or the first tokens of a line.
-/

namespace Lookahead.Source

/-- The span goes over the first two of some lexemes, or over the only one. -/
def CoversFirstTwo (span : Span) (part : List Char) : List Lexeme → Prop
  | [] => False
  | [first] => span = first.span ∧ part = first.value.spelling
  | first :: second :: _ =>
      span = first.span.to second.span ∧
        ∃ gap, (∀ char ∈ gap, Text.isBlank char = true) ∧
          part = first.value.spelling ++ (gap ++ second.value.spelling)

/-- What stands under the span of a diagnostic is what its fault says.  Two faults
never arise. -/
def Blames (text : String) (diagnostic : Diagnostic) (part : List Char) : Prop :=
  match diagnostic.value with
  | .missingEquals =>
      ∃ line lexemes, Text.SourceLine.StandsIn line text.toList ∧
        Layout line.offset line.content.toList lexemes ∧
        CoversFirstTwo diagnostic.span part lexemes
  | .extraEquals => part = ['=']
  | .notNonterminal =>
      ∃ line first lexemes, Text.SourceLine.StandsIn line text.toList ∧
        Layout line.offset line.content.toList (first :: lexemes) ∧
        diagnostic.span = first.span ∧ part = first.value.spelling ∧
        (first.value = .equals ∨ first.value = .bar ∨ ∃ quoted, first.value = .terminal quoted)
  | .openQuote =>
      (∃ rest, part = '"' :: rest ∧ '"' ∉ rest) ∧
        ∃ line front, Text.SourceLine.StandsIn line text.toList ∧
          line.content.toList = front ++ part ∧ diagnostic.span.stop = line.span.stop
  | .undefinedName name => part = name.toList
  | .repeatedName name => part = name.toList
  | .reservedName name => part = name.toList
  | .noRules => diagnostic.span = ⟨0, 0⟩
  | .strayBar => False
  | .blankRule => False

variable {text : String} {line : Text.SourceLine} {diagnostic : Diagnostic} {part : List Char}
variable {rule : Rule} {rules : List Rule}

/-! ## One line -/

/-- A malformed line is blamed for what stands under the span. -/
theorem Malformed.blames (stands : line.StandsIn text.toList)
    (malformed : Malformed line.offset line.content.toList diagnostic)
    (marks : diagnostic.span.Marks line.offset line.content.toList part) :
    Blames text diagnostic part := by
  cases malformed with
  | openQuote open' unclosed stop =>
      obtain rfl := marks.part_eq open'
      obtain ⟨front, shape⟩ := marks.exists_front stop
      exact ⟨⟨_, rfl, unclosed⟩, line, front, stands, shape, stop⟩
  | @notNonterminal first lexemes layout other =>
      obtain rfl := marks.part_eq (layout.marks List.mem_cons_self)
      refine ⟨line, first, lexemes, stands, layout, rfl, rfl, ?_⟩
      cases kind : first.value with
      | equals => exact .inl rfl
      | bar => exact .inr (.inl rfl)
      | terminal quoted => exact .inr (.inr ⟨quoted, rfl⟩)
      | nonterminal name => exact absurd kind (other name)
  | reservedName layout => exact marks.part_eq (layout.marks List.mem_cons_self)
  | @noSecond first layout =>
      exact ⟨line, [first], stands, layout, rfl,
        marks.part_eq (layout.marks List.mem_cons_self)⟩
  | @otherSecond first second lexemes layout _ =>
      obtain ⟨gap, blank, both⟩ := layout.marks_to_second
      exact ⟨line, first :: second :: lexemes, stands, layout, rfl, gap, blank,
        marks.part_eq both⟩
  | extraEquals layout member => exact marks.part_eq (layout.marks member)

/-- A rule has its name where it says. -/
theorem Rule.marks_name {content : String} {offset : Nat}
    (read : Rule.ofLine content offset = .ok rule) :
    rule.span.Marks offset content.toList rule.name.toList ∧ rule.name.toList ≠ [] := by
  rcases Rule.ofLine_eq_ok_iff.1 read with ⟨mark, body, layout, _⟩
  have spelled := (layout.spelled_of_mem List.mem_cons_self).1
  exact ⟨layout.marks List.mem_cons_self, spelled.spelling_ne_nil⟩

/-- A nonterminal of a rule is named where it says. -/
theorem Rule.marks_symbol {content name : String} {offset : Nat}
    (read : Rule.ofLine content offset = .ok rule) {symbol : Located Symbol}
    (member : symbol ∈ rule.alternatives.flatten) (named : symbol.value = .nonterminal name) :
    symbol.span.Marks offset content.toList name.toList ∧ name.toList ≠ [] := by
  rcases Rule.ofLine_eq_ok_iff.1 read with ⟨mark, body, layout, _, _, alternatives⟩
  rw [alternatives, flatten_symbolsOf_splitAtBars] at member
  rcases mem_symbolsOf member with ⟨lexeme, inBody, shown, place⟩
  have inLine := List.mem_cons_of_mem ⟨.nonterminal rule.name, rule.span⟩
    (List.mem_cons_of_mem ⟨.equals, mark⟩ inBody)
  have token : lexeme.value = .nonterminal name := by
    rw [named] at shown
    exact symbol?_eq_some_nonterminal shown
  have marks := layout.marks inLine
  have spelled := (layout.spelled_of_mem inLine).1
  rw [token] at marks spelled
  rw [← place]
  exact ⟨marks, spelled.spelling_ne_nil⟩

/-! ## Texts -/

/-- A diagnostic is about a part of a line of the text. -/
def IsAboutLine (text : String) (diagnostic : Diagnostic) : Prop :=
  diagnostic.value ≠ .noRules ∧
    ∃ line ∈ Text.lines text, ∃ part,
      diagnostic.span.Marks line.offset line.content.toList part ∧ part ≠ [] ∧
        Blames text diagnostic part

/-- A rule line is at fault for a diagnostic: it is no rule, or the name of its rule is
repeated, or its rule uses a name that is undefined. -/
inductive AtFault (line : Text.SourceLine) : Diagnostic → Prop where
  | noRule {diagnostic : Diagnostic} :
      Rule.ofLine line.content line.offset = .error diagnostic → AtFault line diagnostic
  | repeatedName {rule : Rule} :
      Rule.ofLine line.content line.offset = .ok rule →
        AtFault line ⟨.repeatedName rule.name, rule.span⟩
  | undefinedName {rule : Rule} {symbol : Located Symbol} {name : String} :
      Rule.ofLine line.content line.offset = .ok rule → symbol ∈ rule.alternatives.flatten →
        symbol.value = .nonterminal name → AtFault line ⟨.undefinedName name, symbol.span⟩

/-- What a rule line is at fault for is about a part of it. -/
theorem AtFault.exists_marks (shown : Text.isRuleLine line.content = true)
    (stands : line.StandsIn text.toList) (atFault : AtFault line diagnostic) :
    diagnostic.value ≠ .noRules ∧
      ∃ part, diagnostic.span.Marks line.offset line.content.toList part ∧ part ≠ [] ∧
        Blames text diagnostic part := by
  cases atFault with
  | noRule failed =>
      have malformed := Malformed.of_ofLine shown failed
      obtain ⟨part, marks, inhabited⟩ := malformed.exists_marks
      exact ⟨malformed.fault_ne.1, part, marks, inhabited, malformed.blames stands marks⟩
  | repeatedName read =>
      obtain ⟨marks, inhabited⟩ := Rule.marks_name read
      exact ⟨by simp, _, marks, inhabited, rfl⟩
  | undefinedName read member named =>
      obtain ⟨marks, inhabited⟩ := Rule.marks_symbol read member named
      exact ⟨by simp, _, marks, inhabited, rfl⟩

theorem exists_line_of_mem_rules (read : readRules text = rules.map .ok) (listed : rule ∈ rules) :
    ∃ line ∈ Text.lines text, Text.isRuleLine line.content = true ∧
      Rule.ofLine line.content line.offset = .ok rule := by
  apply ok_mem_readRules_iff.1
  rw [read]
  exact List.mem_map_of_mem listed

/-- A rule line of the text is at fault for every diagnostic, but for the one that there are
no rules. -/
theorem exists_atFault_of_parse {diagnostics : List Diagnostic}
    (refused : parse text = .error diagnostics) (listed : diagnostic ∈ diagnostics) :
    (∃ line ∈ Text.lines text, Text.isRuleLine line.content = true ∧ AtFault line diagnostic) ∨
      diagnostic = ⟨.noRules, 0, 0⟩ := by
  rcases diagnostics_of_parse refused with ⟨_, rfl⟩ | rfl | ⟨rules, read, _, rfl⟩
  · obtain ⟨line, inText, failed⟩ := List.mem_map.1 (mem_separate_iff.1 listed)
    rw [List.mem_filter] at inText
    exact .inl ⟨line, inText.1, inText.2, .noRule failed⟩
  · exact .inr (List.mem_singleton.1 listed)
  · left
    rcases List.mem_append.1 listed with repeated | dangling
    · obtain ⟨rule, inRules, rfl⟩ := mem_repetitions repeated
      obtain ⟨line, inText, shown, readLine⟩ := exists_line_of_mem_rules read inRules
      exact ⟨line, inText, shown, .repeatedName readLine⟩
    · obtain ⟨rule, inRules, symbol, member, name, named, rfl⟩ := mem_danglingUses dangling
      obtain ⟨line, inText, shown, readLine⟩ := exists_line_of_mem_rules read inRules
      exact ⟨line, inText, shown, .undefinedName readLine member named⟩

/-- Every diagnostic is about a part of a line, but the one that there are no
rules. -/
theorem isAboutLine_of_parse {diagnostics : List Diagnostic}
    (refused : parse text = .error diagnostics) (listed : diagnostic ∈ diagnostics) :
    IsAboutLine text diagnostic ∨ diagnostic = ⟨.noRules, 0, 0⟩ := by
  rcases exists_atFault_of_parse refused listed with ⟨line, inText, shown, atFault⟩ | none
  · obtain ⟨fault, about⟩ := atFault.exists_marks shown (Text.standsIn_of_mem_lines inText)
    exact .inl ⟨fault, line, inText, about⟩
  · exact .inr none

/-- The span of every diagnostic lies between two characters of the text, and what
stands under it is what is at fault.  It is part of a line and not empty, unless
there are no rules to blame. -/
theorem diagnostics_stand_at_their_causes (text : String) (diagnostics : List Diagnostic)
    (refused : parse text = .error diagnostics) (diagnostic : Diagnostic)
    (listed : diagnostic ∈ diagnostics) :
    diagnostic.span.start ≤ diagnostic.span.stop ∧
      diagnostic.span.stop ≤ text.utf8ByteSize ∧
      String.Pos.Raw.IsValid text ⟨diagnostic.span.start⟩ ∧
      String.Pos.Raw.IsValid text ⟨diagnostic.span.stop⟩ ∧
      ∃ part, diagnostic.span.Marks 0 text.toList part ∧ '\n' ∉ part ∧
        (part = [] ↔ diagnostic.value = .noRules) ∧ Blames text diagnostic part := by
  have found : ∃ part, diagnostic.span.Marks 0 text.toList part ∧ '\n' ∉ part ∧
      (part = [] ↔ diagnostic.value = .noRules) ∧ Blames text diagnostic part := by
    rcases isAboutLine_of_parse refused listed with
      ⟨fault, line, inText, part, marks, inhabited, blames⟩ | rfl
    · have stands := Text.standsIn_of_mem_lines inText
      have noFeed : '\n' ∉ part := fun feed => stands.isContent.1 (marks.sublist.mem feed)
      exact ⟨part, stands.marks.trans marks, noFeed, iff_of_false inhabited fault, blames⟩
    · exact ⟨[], ⟨[], text.toList, rfl, rfl, rfl⟩, List.not_mem_nil, iff_of_true rfl rfl, rfl⟩
  obtain ⟨part, marks, shown⟩ := found
  have bounds := marks.bounds
  rw [Nat.zero_add, Text.byteLength_toList] at bounds
  exact ⟨bounds.2.1, bounds.2.2, marks.isValid.1, marks.isValid.2, part, marks, shown⟩

/-- Lines with an open quote, without an equals sign and without a name, two of them
ended by a carriage return and a line feed. -/
def crookedLines : String := "A = \"é\r\nλ B\r\n| C"

/-- The second diagnostic is about the two names, by their bytes. -/
theorem crookedLines_blamed :
    parse crookedLines =
        .error [⟨.openQuote, 4, 7⟩, ⟨.missingEquals, 9, 13⟩, ⟨.notNonterminal, 15, 16⟩] ∧
      String.Pos.Raw.IsValid crookedLines ⟨9⟩ ∧ String.Pos.Raw.IsValid crookedLines ⟨13⟩ ∧
      Span.Marks ⟨9, 13⟩ 0 crookedLines.toList "λ B".toList ∧
      Blames crookedLines ⟨.missingEquals, 9, 13⟩ "λ B".toList := by
  have refused : parse crookedLines =
      .error [⟨.openQuote, 4, 7⟩, ⟨.missingEquals, 9, 13⟩, ⟨.notNonterminal, 15, 16⟩] := by
    decide +kernel
  obtain ⟨_, _, first, last, part, marks, _, _, blames⟩ :=
    diagnostics_stand_at_their_causes crookedLines _ refused ⟨.missingEquals, 9, 13⟩ (by simp)
  have names : Span.Marks ⟨9, 13⟩ 0 crookedLines.toList "λ B".toList :=
    ⟨"A = \"é\r\n".toList, "\r\n| C".toList, by decide +kernel, by decide +kernel,
      by decide +kernel⟩
  rw [marks.part_eq names] at blames
  exact ⟨refused, first, last, names, blames⟩

end Lookahead.Source
