import Lookahead.Grammar.Symbol
import Lookahead.Source.Token

/-!
# Rules of a grammar text

A rule line defines one nonterminal: its name, an equals sign, and alternatives
separated by bars.  The empty terminal stands for nothing and is left out.
Symbols keep their spans, because references are checked later, when all rules
are known.
-/

namespace Lookahead.Source

/-- A symbol of a rule and where it was found. -/
abbrev LocatedLine := List (Located Symbol)

/-- A rule as it was read: the name it defines and where that name stands, and
the alternatives. -/
structure Rule where
  name : String
  alternatives : List LocatedLine
  span : Span
  deriving DecidableEq, Repr

/-- The symbol that a lexeme of an alternative stands for. -/
def symbolOfLexeme (lexeme : Lexeme) : Except Diagnostic (Located Symbol) :=
  match lexeme.value with
  | .equals => .error ⟨.extraEquals, lexeme.span⟩
  | .bar => .error ⟨.strayBar, lexeme.span⟩
  | .nonterminal name => .ok ⟨.nonterminal name, lexeme.span⟩
  | .terminal text => .ok ⟨.terminal text, lexeme.span⟩

/-- Read one alternative.  The leftmost lexeme that is no symbol is at fault. -/
def alternativeOfLexemes (lexemes : List Lexeme) : Except Diagnostic LocatedLine :=
  (lexemes.filter (·.value ≠ .terminal epsilon)).mapM symbolOfLexeme

/-- The runs of lexemes between bars, one more than there are bars. -/
def splitAtBars : List Lexeme → List (List Lexeme)
  | [] => [[]]
  | lexeme :: rest =>
      if lexeme.value = .bar then [] :: splitAtBars rest
      else
        match splitAtBars rest with
        | [] => [[lexeme]]
        | run :: later => (lexeme :: run) :: later

/-- Read the right-hand side of a rule.  The leftmost fault counts. -/
def alternativesOfLexemes (lexemes : List Lexeme) : Except Diagnostic (List LocatedLine) :=
  (splitAtBars lexemes).mapM alternativeOfLexemes

namespace Rule

/-- Read a rule from the lexemes of its line.  `span` is the place of the whole
line, which is at fault if it has no lexemes. -/
def ofLexemes (lexemes : List Lexeme) (span : Span) : Except Diagnostic Rule :=
  match lexemes with
  | [] => .error ⟨.blankRule, span⟩
  | ⟨.nonterminal name, place⟩ :: rest =>
      if name = emptyLineName then .error ⟨.reservedName name, place⟩
      else
        match rest with
        | [] => .error ⟨.missingEquals, place⟩
        | ⟨.equals, _⟩ :: body => do
            let alternatives ← alternativesOfLexemes body
            return ⟨name, alternatives, place⟩
        | other :: _ => .error ⟨.missingEquals, place.to other.span⟩
  | other :: _ => .error ⟨.notNonterminal, other.span⟩

/-- Read a rule line that begins at byte `offset` of its text. -/
def ofLine (line : String) (offset : Nat) : Except Diagnostic Rule := do
  let lexemes ← lex line offset
  ofLexemes lexemes ⟨offset, offset + Text.byteLength line.toList⟩

end Rule

end Lookahead.Source
