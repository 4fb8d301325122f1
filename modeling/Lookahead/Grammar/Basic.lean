import Lookahead.Grammar.Symbol
import Lookahead.Table

/-!
# Grammars

A grammar gives every declared nonterminal its alternatives and names a start
symbol.  Nothing forces the start symbol or the nonterminals inside a line to be
declared: an undeclared nonterminal has no alternatives.
-/

namespace Lookahead

/-- Rules in the order of their declaration, and a start symbol. -/
structure Grammar where
  start : String
  rules : Table String (List Line)
  deriving DecidableEq

namespace Grammar

/-- The grammar of some rules that starts with the first of them. -/
def ofRules (rules : Table String (List Line)) : Grammar where
  start := rules.keys.head?.getD ""
  rules := rules

/-- The same rules with another start symbol. -/
def withStart (grammar : Grammar) (start : String) : Grammar :=
  { grammar with start := start }

/-- The declared nonterminals in order. -/
def names (grammar : Grammar) : List String :=
  grammar.rules.keys

/-- The alternatives of a nonterminal, none if it is not declared. -/
def lines (grammar : Grammar) (name : String) : List Line :=
  (grammar.rules.get? name).getD []

/-- The lines whose FIRST sets are computed: every suffix of every alternative,
each declared nonterminal on its own, and the empty line. -/
def suffixes (grammar : Grammar) : List Line :=
  grammar.rules.values.flatten.flatMap Line.suffixes ++
    grammar.names.map (fun name => [.nonterminal name]) ++ [[]]

/-- What follows one occurrence of a nonterminal in an alternative of
`owner`. -/
structure Ending where
  owner : String
  rest : Line
  deriving DecidableEq, Repr

/-- The endings after every occurrence of a nonterminal, in the order of the
rules, of their alternatives and of the occurrences. -/
def endings (grammar : Grammar) (name : String) : List Ending :=
  grammar.rules.entries.flatMap fun rule =>
    rule.2.flatMap fun line =>
      (occurrences (.nonterminal name) line).map fun place => ⟨rule.1, line.drop (place + 1)⟩

end Grammar

end Lookahead
