import Lookahead.Grammar.Basic
import Lookahead.Source.Rule
import Lookahead.Text.Lines

/-!
# Reading a grammar

The rules of a text make a grammar when every line can be read, no name is
defined twice and every nonterminal that is used has a rule.  Lines are checked
first; names are compared only if all lines can be read.  The first rule gives
the start symbol.
-/

namespace Lookahead.Source

/-- Rules collected by name, with the places of their symbols. -/
abbrev RuleBook := Table String (List LocatedLine)

namespace RuleBook

/-- Collect rules in order.  The first rule of a name is kept; each later one is
at fault. -/
def collect (book : RuleBook) : List Rule → RuleBook × List Diagnostic
  | [] => (book, [])
  | rule :: later =>
      if book.contains rule.name then
        let (full, diagnostics) := collect book later
        (full, ⟨.repeatedName rule.name, rule.span⟩ :: diagnostics)
      else
        collect (book.insert rule.name rule.alternatives) later

/-- The fault of a symbol: a nonterminal without a rule. -/
def undefined? (book : RuleBook) (symbol : Located Symbol) : Option Diagnostic :=
  match symbol.value with
  | .terminal _ => none
  | .nonterminal name =>
      if book.contains name then none else some ⟨.undefinedName name, symbol.span⟩

/-- A diagnostic for every use of a nonterminal without a rule, in the order of
the rules and of the symbols in them. -/
def undefinedNames (book : RuleBook) : List Diagnostic :=
  book.values.flatten.flatten.filterMap book.undefined?

/-- The rules without the places of their symbols. -/
def withoutPlaces (book : RuleBook) : Table String (List Line) :=
  book.mapEntries fun _ alternatives => alternatives.map (·.map Located.value)

end RuleBook

/-- The grammar of some rules, or everything that is wrong with their names. -/
def grammarOfRules (rules : List Rule) : Except (List Diagnostic) Grammar :=
  if rules.isEmpty then .error [⟨.noRules, 0, 0⟩]
  else
    let (book, repeated) := RuleBook.collect .empty rules
    let diagnostics := repeated ++ book.undefinedNames
    if diagnostics.isEmpty then .ok (.ofRules book.withoutPlaces) else .error diagnostics

/-- The values and the faults of some results, each in order. -/
def separate {ε α : Type} : List (Except ε α) → List α × List ε
  | [] => ([], [])
  | .ok value :: rest =>
      let (values, faults) := separate rest
      (value :: values, faults)
  | .error fault :: rest =>
      let (values, faults) := separate rest
      (values, fault :: faults)

/-- What became of each rule line of a text, in order. -/
def readRules (text : String) : List (Except Diagnostic Rule) :=
  ((Text.lines text).filter (Text.isRuleLine ·.content)).map fun line =>
    Rule.ofLine line.content line.offset

/-- Read a grammar.  If some line cannot be read, only such lines are
reported. -/
def parse (text : String) : Except (List Diagnostic) Grammar :=
  let (rules, faults) := separate (readRules text)
  if faults.isEmpty then grammarOfRules rules else .error faults

end Lookahead.Source
