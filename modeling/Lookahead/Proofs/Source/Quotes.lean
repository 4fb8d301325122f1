import Lookahead.Proofs.Source.Malformed
import Mathlib.Algebra.Ring.Parity

/-!
# Quotes in pairs

A terminal takes up two quotes and no other token takes up any, so what is laid out
holds an even number of them.  Lexing fails only at a quote that has no partner, which
is then the last quote of the line.
-/

namespace Lookahead.Source

variable {start : Nat} {chars : List Char} {lexemes : List Lexeme} {token : Token}

/-- The quotes of a token come in pairs. -/
theorem Token.IsSpelled.even_count_quotes (spelled : token.IsSpelled) :
    Even (token.spelling.count '"') := by
  cases token with
  | equals => exact Even.zero
  | bar => exact Even.zero
  | nonterminal name =>
      have none : (nonterminal name).spelling.count '"' = 0 := by
        rw [List.count_eq_zero]
        intro member
        exact absurd (spelled.2 _ member) (by decide)
      rw [none]
      exact Even.zero
  | terminal text =>
      have pair : (terminal text).spelling.count '"' = 2 := by
        simp [spelling, List.count_eq_zero.2 spelled]
      rw [pair]
      exact even_two

/-- The quotes of what is laid out come in pairs. -/
theorem Layout.even_count_quotes (layout : Layout start chars lexemes) :
    Even (chars.count '"') := by
  induction layout with
  | done => exact Even.zero
  | @blank start char rest lexemes blank _ ih =>
      have solid : char ≠ '"' := by
        rintro rfl
        exact absurd blank (by decide)
      rwa [List.count_cons_of_ne solid]
  | token spelled _ _ ih =>
      rw [List.count_append]
      exact spelled.even_count_quotes.add ih

/-- Lexing fails at a quote that has no partner. -/
theorem odd_count_quotes_of_lexFrom {diagnostic : Diagnostic}
    (failed : lexFrom start chars = .error diagnostic) : Odd (chars.count '"') := by
  obtain ⟨front, rest, _, rfl, unclosed, layout, _⟩ := openQuote_of_lexFrom start chars failed
  rw [List.count_append, List.count_cons_self, List.count_eq_zero.2 unclosed, Nat.zero_add]
  exact layout.even_count_quotes.add_one

/-- Lexing fails exactly if the line holds an odd number of quotes.  The last quote is then
open, and all from there to the end of the line is to blame. -/
theorem lex_fails_iff_odd_quotes (line : String) (offset : Nat) :
    ((∃ diagnostic, lex line offset = .error diagnostic) ↔ Odd (line.toList.count '"')) ∧
      (Odd (line.toList.count '"') ↔
        ∃ front rest, line.toList = front ++ '"' :: rest ∧ '"' ∉ rest ∧
          lex line offset = .error
            ⟨.openQuote, offset + Text.byteLength front, offset + line.utf8ByteSize⟩) := by
  have fails : (∃ diagnostic, lex line offset = .error diagnostic) ↔
      Odd (line.toList.count '"') := by
    constructor
    · rintro ⟨diagnostic, failed⟩
      exact odd_count_quotes_of_lexFrom failed
    · intro odd
      cases read : lex line offset with
      | error diagnostic => exact ⟨diagnostic, rfl⟩
      | ok lexemes =>
          have even := (lexFrom_eq_ok_iff_layout.1 read).even_count_quotes
          exact absurd odd (Nat.not_odd_iff_even.2 even)
  refine ⟨fails, ?_⟩
  constructor
  · intro odd
    obtain ⟨diagnostic, failed⟩ := fails.2 odd
    obtain ⟨front, rest, _, shape, unclosed, _, rfl⟩ := openQuote_of_lexFrom _ _ failed
    rw [Text.byteLength_toList] at failed
    exact ⟨front, rest, shape, unclosed, failed⟩
  · rintro ⟨_, _, _, _, failed⟩
    exact fails.1 ⟨_, failed⟩

end Lookahead.Source
