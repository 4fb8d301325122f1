import Lookahead.Proofs.Source.Blame

/-!
# Faults that only the reader could cause

Two faults are there for mistakes of the reader itself.  No bar can stand in a run between
bars, and only a line of blanks has no tokens.  Lines of blanks are told from rule lines by
the blanks that part tokens, so none of them is read as a rule.
-/

namespace Lookahead.Source

variable {line : String} {offset : Nat} {span : Span} {lexemes : List Lexeme}
variable {diagnostic : Diagnostic}

/-! ## Lines by themselves -/

/-- A line is not read if its tokens cannot be read, or if they are no rule. -/
theorem Rule.ofLine_eq_error_iff :
    Rule.ofLine line offset = .error diagnostic ↔
      lex line offset = .error diagnostic ∨
        ∃ lexemes, lex line offset = .ok lexemes ∧
          Refused ⟨offset, offset + Text.byteLength line.toList⟩ lexemes diagnostic := by
  cases found : lex line offset with
  | error other =>
      have unread : Rule.ofLine line offset = .error other := by
        rw [Rule.ofLine, found]
        rfl
      simp [unread]
  | ok lexemes =>
      rw [Rule.ofLine_of_lex found, Rule.ofLexemes_eq_error_iff]
      simp

theorem openQuote_of_lex (failed : lex line offset = .error diagnostic) :
    diagnostic.value = .openQuote := by
  obtain ⟨_, _, _, _, _, _, rfl⟩ := openQuote_of_lexFrom _ _ failed
  rfl

/-- No line is refused for a bar between bars. -/
theorem Rule.ofLine_ne_strayBar (failed : Rule.ofLine line offset = .error diagnostic) :
    diagnostic.value ≠ .strayBar := by
  rcases Rule.ofLine_eq_error_iff.1 failed with unlexed | ⟨_, _, refused⟩
  · simp [openQuote_of_lex unlexed]
  · -- What is refused in a right-hand side is an equals sign, since bars have cut it.
    cases refused <;> simp

theorem lex_eq_nil_iff (offset : Nat) :
    lex line offset = .ok [] ↔ ∀ char ∈ line.toList, Text.isBlank char = true := by
  rw [lex, lexFrom_eq_ok_iff_layout]
  constructor
  · exact Layout.blank_of_nil
  · intro blank
    have layout := Layout.append_blanks blank (.done (offset + Text.byteLength line.toList))
    rwa [List.append_nil] at layout

theorem Refused.eq_nil_of_blankRule (refused : Refused span lexemes diagnostic)
    (blankRule : diagnostic.value = .blankRule) : lexemes = [] ∧ diagnostic.span = span := by
  cases refused with
  | blankRule => exact ⟨rfl, rfl⟩
  | _ => cases blankRule

/-- A line is refused for having no tokens exactly if it is made of blanks. -/
theorem Rule.ofLine_eq_blankRule_iff :
    Rule.ofLine line offset = .error ⟨.blankRule, span⟩ ↔
      (∀ char ∈ line.toList, Text.isBlank char = true) ∧
        span = ⟨offset, offset + Text.byteLength line.toList⟩ := by
  rw [Rule.ofLine_eq_error_iff, ← lex_eq_nil_iff offset]
  constructor
  · rintro (unlexed | ⟨lexemes, read, refused⟩)
    · cases openQuote_of_lex unlexed
    · obtain ⟨rfl, rfl⟩ := refused.eq_nil_of_blankRule rfl
      exact ⟨read, rfl⟩
  · rintro ⟨read, rfl⟩
    exact .inr ⟨[], read, .blankRule⟩

/-! ## Texts -/

/-- A rule line is at fault for nothing that only the reader could cause. -/
theorem AtFault.fault_ne {line : Text.SourceLine} (shown : Text.isRuleLine line.content = true)
    (atFault : AtFault line diagnostic) :
    diagnostic.value ≠ .strayBar ∧ diagnostic.value ≠ .blankRule := by
  cases atFault with
  | noRule failed =>
      refine ⟨Rule.ofLine_ne_strayBar failed, ?_⟩
      intro same
      obtain ⟨fault, span⟩ := diagnostic
      obtain rfl : fault = .blankRule := same
      have bare := Text.isRuleLine_of_blank (Rule.ofLine_eq_blankRule_iff.1 failed).1
      rw [shown] at bare
      cases bare
  | repeatedName _ => simp
  | undefinedName _ _ _ => simp

/-- No diagnostic says that the reader made a mistake. -/
theorem reader_faults_never_reported (text : String) (diagnostics : List Diagnostic)
    (refused : parse text = .error diagnostics) :
    ∀ diagnostic ∈ diagnostics, diagnostic.value ≠ .strayBar ∧ diagnostic.value ≠ .blankRule := by
  intro diagnostic listed
  rcases exists_atFault_of_parse refused listed with ⟨line, _, shown, atFault⟩ | rfl
  · exact atFault.fault_ne shown
  · simp

/-- Lines of bars, of wide blanks, and with a comment after a wide blank. -/
def barsAndBlanks : String :=
  "A = | \"x\" || = |\n\u2003\u00a0\u2028\n\u3000;=|\n| C\nD"

theorem barsAndBlanks_reported :
    parse barsAndBlanks =
        .error [⟨.extraEquals, 13, 14⟩, ⟨.notNonterminal, 33, 34⟩, ⟨.missingEquals, 37, 38⟩] ∧
      ∀ diagnostic ∈ ([⟨.extraEquals, 13, 14⟩, ⟨.notNonterminal, 33, 34⟩,
          ⟨.missingEquals, 37, 38⟩] : List Diagnostic),
        diagnostic.value ≠ .strayBar ∧ diagnostic.value ≠ .blankRule := by
  have refused : parse barsAndBlanks =
      .error [⟨.extraEquals, 13, 14⟩, ⟨.notNonterminal, 33, 34⟩, ⟨.missingEquals, 37, 38⟩] := by
    decide +kernel
  exact ⟨refused, reader_faults_never_reported barsAndBlanks _ refused⟩

end Lookahead.Source
