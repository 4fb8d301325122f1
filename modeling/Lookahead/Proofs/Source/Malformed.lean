import Lookahead.Proofs.Source.Places
import Lookahead.Proofs.Source.Refusals
import Lookahead.Proofs.Text.RuleLines

/-!
# Malformed rule lines

A rule line that is not read has one of five faults.  Each of them lies on tokens
of the line, or on the rest of the line after an open quote, so the place to blame
is a part of the line and is not empty.
-/

namespace Lookahead.Source

/-- What is wrong with characters that begin at a byte and are no rule. -/
inductive Malformed (start : Nat) (chars : List Char) : Diagnostic → Prop where
  /-- A quote is the last one of the line, and the rest of the line is to blame. -/
  | openQuote {span : Span} {rest : List Char} :
      span.Marks start chars ('"' :: rest) → '"' ∉ rest →
        span.stop = start + Text.byteLength chars → Malformed start chars ⟨.openQuote, span⟩
  | notNonterminal {first : Lexeme} {lexemes : List Lexeme} :
      Layout start chars (first :: lexemes) → (∀ name, first.value ≠ .nonterminal name) →
        Malformed start chars ⟨.notNonterminal, first.span⟩
  | reservedName {place : Span} {lexemes : List Lexeme} :
      Layout start chars (⟨.nonterminal emptyLineName, place⟩ :: lexemes) →
        Malformed start chars ⟨.reservedName emptyLineName, place⟩
  /-- Nothing follows the name. -/
  | noSecond {first : Lexeme} :
      Layout start chars [first] → Malformed start chars ⟨.missingEquals, first.span⟩
  /-- Something else follows the name. -/
  | otherSecond {first second : Lexeme} {lexemes : List Lexeme} :
      Layout start chars (first :: second :: lexemes) → second.value ≠ .equals →
        Malformed start chars ⟨.missingEquals, first.span.to second.span⟩
  | extraEquals {place : Span} {lexemes : List Lexeme} :
      Layout start chars lexemes → ⟨.equals, place⟩ ∈ lexemes →
        Malformed start chars ⟨.extraEquals, place⟩

variable {start : Nat} {first : Char} {chars rest unread : List Char}
variable {fault : Fault} {diagnostic : Diagnostic} {lexemes : List Lexeme}

/-! ## Open quotes -/

/-- Only a terminal can fail to be read, and only for want of a second quote. -/
theorem openQuote_of_readToken (read : readToken first rest = (.error fault, unread)) :
    fault = .openQuote ∧ first = '"' ∧ '"' ∉ rest := by
  unfold readToken at read
  split at read
  · cases read
  · split at read
    · cases read
    · split at read
      · next quote =>
          simp only [readTerminal, List.drop_succ_cons, List.drop_zero] at read
          split at read
          · next toEnd =>
              cases read
              refine ⟨rfl, quote, ?_⟩
              intro closing
              have quoted := List.dropWhile_eq_nil_iff.1 toEnd '"' closing
              simp [isQuotedChar] at quoted
          · cases read
      · cases read

theorem Token.EndsBefore.of_append {token : Token} {front back : List Char}
    (ends : token.EndsBefore (front ++ back)) : token.EndsBefore front := by
  cases token with
  | equals => trivial
  | bar => trivial
  | terminal text => trivial
  | nonterminal name =>
      intro char head
      apply ends
      rw [List.head?_append, head, Option.some_or]

/-- Lexing fails at a quote that no other quote follows.  What stands before it is laid
out. -/
theorem openQuote_of_lexFrom (start : Nat) (chars : List Char) :
    lexFrom start chars = .error diagnostic →
      ∃ front rest lexemes, chars = front ++ '"' :: rest ∧ '"' ∉ rest ∧
        Layout start front lexemes ∧
        diagnostic =
          ⟨.openQuote, start + Text.byteLength front, start + Text.byteLength chars⟩ := by
  induction start, chars using lexFrom.induct with
  | case1 start =>
      intro failed
      rw [lexFrom] at failed
      cases failed
  | case2 start first rest blank ih =>
      intro failed
      rw [lexFrom_blank blank] at failed
      obtain ⟨front, later, lexemes, rfl, unclosed, layout, rfl⟩ := ih failed
      refine ⟨first :: front, later, lexemes, rfl, unclosed, .blank blank layout, ?_⟩
      rw [Text.byteLength_cons, Text.byteLength_cons, Nat.add_assoc, Nat.add_assoc]
  | case3 start first rest solid fault unread read =>
      intro failed
      rw [lexFrom_error (Bool.eq_false_iff.2 solid) read] at failed
      cases failed
      obtain ⟨rfl, rfl, unclosed⟩ := openQuote_of_readToken read
      exact ⟨[], rest, [], rfl, unclosed, .done start, rfl⟩
  | @case4 start first rest solid token unread read shorter stop ih =>
      intro failed
      have solid := Bool.eq_false_iff.2 solid
      rw [lexFrom_token solid read] at failed
      obtain ⟨shape, spelled, ends⟩ := spelling_of_readToken solid read
      cases found : lexFrom (start + token.width) unread with
      | ok others =>
          rw [found] at failed
          cases failed
      | error diagnostic =>
          rw [found] at failed
          cases failed
          obtain ⟨front, later, lexemes, rfl, unclosed, layout, rfl⟩ := ih found
          refine ⟨token.spelling ++ front, later, _, ?_, unclosed,
            .token spelled ends.of_append layout, ?_⟩
          · rw [← shape, List.append_assoc]
          · simp only [← shape, stop, Text.byteLength_append, Token.width, Nat.add_assoc]

theorem Malformed.of_lexFrom (failed : lexFrom start chars = .error diagnostic) :
    Malformed start chars diagnostic := by
  obtain ⟨front, rest, _, rfl, unclosed, _, rfl⟩ := openQuote_of_lexFrom start chars failed
  refine .openQuote ⟨front, [], by simp, rfl, ?_⟩ unclosed rfl
  rw [Text.byteLength_append, Nat.add_assoc]

/-! ## Faults of lexemes -/

/-- Lexemes that are laid out and are no rule are malformed, if there are any. -/
theorem Malformed.of_ofLexemes {span : Span} (layout : Layout start chars lexemes)
    (inhabited : lexemes ≠ []) (failed : Rule.ofLexemes lexemes span = .error diagnostic) :
    Malformed start chars diagnostic := by
  cases Rule.ofLexemes_eq_error_iff.1 failed with
  | blankRule => exact absurd rfl inhabited
  | notNonterminal notName => exact .notNonterminal layout notName
  | reservedName => exact .reservedName layout
  | noSecond _ => exact .noSecond layout
  | otherSecond _ notEquals => exact .otherSecond layout notEquals
  | extraEquals _ _ => exact .extraEquals layout (by simp)

/-! ## Rule lines -/

variable {line : String} {offset : Nat}

/-- A rule line that is not read is malformed. -/
theorem Malformed.of_ofLine (shown : Text.isRuleLine line = true)
    (failed : Rule.ofLine line offset = .error diagnostic) :
    Malformed offset line.toList diagnostic := by
  cases found : lex line offset with
  | error other =>
      rw [Rule.ofLine, found] at failed
      cases failed
      exact .of_lexFrom found
  | ok lexemes =>
      rw [Rule.ofLine_of_lex found] at failed
      have layout := lexFrom_eq_ok_iff_layout.1 found
      refine .of_ofLexemes layout ?_ failed
      rintro rfl
      rw [Text.isRuleLine_of_blank layout.blank_of_nil] at shown
      cases shown

/-- The place to blame is a part of the line, and something stands there. -/
theorem Malformed.exists_marks (malformed : Malformed start chars diagnostic) :
    ∃ part, diagnostic.span.Marks start chars part ∧ part ≠ [] := by
  have onLexeme {lexemes : List Lexeme} {lexeme : Lexeme} (layout : Layout start chars lexemes)
      (member : lexeme ∈ lexemes) :
      ∃ part, lexeme.span.Marks start chars part ∧ part ≠ [] :=
    ⟨_, layout.marks member, (layout.spelled_of_mem member).1.spelling_ne_nil⟩
  cases malformed with
  | openQuote marks _ _ => exact ⟨_, marks, List.cons_ne_nil _ _⟩
  | notNonterminal layout _ => exact onLexeme layout List.mem_cons_self
  | reservedName layout => exact onLexeme layout List.mem_cons_self
  | noSecond layout => exact onLexeme layout List.mem_cons_self
  | otherSecond layout _ =>
      obtain ⟨gap, _, marks⟩ := layout.marks_to_second
      have spelled := (layout.spelled_of_mem List.mem_cons_self).1
      exact ⟨_, marks, by simp [spelled.spelling_ne_nil]⟩
  | extraEquals layout member => exact onLexeme layout member

/-- A malformed line is not blamed for what only all lines together can show. -/
theorem Malformed.fault_ne (malformed : Malformed start chars diagnostic) :
    diagnostic.value ≠ .noRules ∧
      ∀ name, diagnostic.value ≠ .repeatedName name ∧ diagnostic.value ≠ .undefinedName name := by
  cases malformed <;> simp

end Lookahead.Source
