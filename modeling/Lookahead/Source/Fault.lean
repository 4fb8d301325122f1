import Lookahead.Span
import Lookahead.Text.Position

/-!
# Faults of a grammar text

A fault is a reason why a grammar text is refused.  A diagnostic is a fault and
the place to blame for it; it is shown with the positions where that place
begins and ends.
-/

namespace Lookahead.Source

/-- A reason to refuse a grammar text. -/
inductive Fault where
  /-- The name of a rule is not followed by an equals sign. -/
  | missingEquals
  /-- A right-hand side holds an equals sign. -/
  | extraEquals
  /-- A rule line begins with something that cannot be defined. -/
  | notNonterminal
  /-- A terminal has no closing quote. -/
  | openQuote
  /-- A nonterminal is used and has no rule. -/
  | undefinedName (name : String)
  /-- A nonterminal has a rule already. -/
  | repeatedName (name : String)
  /-- A rule takes the name of the empty line. -/
  | reservedName (name : String)
  /-- The text has no rules. -/
  | noRules
  /-- A bar was left inside an alternative, which only a mistake of the reader
  could cause. -/
  | strayBar
  /-- A line without tokens was read as a rule, which only a mistake of the reader
  could cause. -/
  | blankRule
  deriving DecidableEq, Repr

/-- What is said about a fault. -/
def Fault.message : Fault → String
  | .missingEquals => "Expected `=` after nonterminal"
  | .extraEquals => "Unexpected `=` encountered"
  | .notNonterminal => "Tried to define something other than a nonterminal"
  | .openQuote => "Unmatched quotes"
  | .undefinedName name => "Could not find definition for `" ++ name ++ "`"
  | .repeatedName name => "`" ++ name ++ "` is defined more than once"
  | .reservedName name => "`" ++ name ++ "` is reserved for the empty line"
  | .noRules => "The grammar has no rules"
  | .strayBar =>
      "Rewrite was not fully split (this is a problem with the parser, not the grammar)"
  | .blankRule =>
      "Blank line encountered in rule parser (this is a problem with the parser, not the grammar)"

/-- A fault and the place to blame for it. -/
abbrev Diagnostic := Located Fault

/-- One message, with the positions of its span in the text. -/
def renderMessage (text : String) (message : Located String) : String :=
  "FATAL " ++ (Text.Position.ofOffset text message.span.start).render ++ "-" ++
    (Text.Position.ofOffset text message.span.stop).render ++ ": " ++ message.value

/-- Messages about a text, one on each line. -/
def renderMessages (text : String) (messages : List (Located String)) : String :=
  "\n".intercalate (messages.map (renderMessage text))

/-- Diagnostics of a text, one on each line. -/
def renderDiagnostics (text : String) (diagnostics : List Diagnostic) : String :=
  renderMessages text (diagnostics.map (Located.map Fault.message))

end Lookahead.Source
