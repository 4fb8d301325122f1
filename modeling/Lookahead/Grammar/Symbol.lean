import Lookahead.TerminalSet
import Lookahead.Text.Escape

/-!
# Symbols and lines

A line is a sequence of symbols: one alternative of a rule, or what is left of
one.  Lines are shown with their terminals quoted and escaped, their
nonterminals bare, and the line without symbols as `ε`.
-/

namespace Lookahead

/-- A terminal or a nonterminal.  A terminal and a nonterminal of one name are
different symbols. -/
inductive Symbol where
  | terminal (text : Terminal)
  | nonterminal (name : String)
  deriving DecidableEq, Repr

/-- A sequence of symbols. -/
abbrev Line := List Symbol

/-- How the empty line is written.  No rule may have this name. -/
def emptyLineName : String := "ε"

/-- A terminal between quotes, its characters written in the given way. -/
def Terminal.renderWith (escaping : Text.Escaping) (terminal : Terminal) : String :=
  if terminal = epsilon then emptyLineName
  else "\"" ++ Text.escapeWith escaping terminal ++ "\""

/-- A symbol, the characters of a terminal written in the given way. -/
def Symbol.renderWith (escaping : Text.Escaping) : Symbol → String
  | .terminal text => Terminal.renderWith escaping text
  | .nonterminal name => name

/-- A line, the characters of its terminals written in the given way. -/
def Line.renderWith (escaping : Text.Escaping) (line : Line) : String :=
  if line.isEmpty then emptyLineName
  else " ".intercalate (line.map (Symbol.renderWith escaping))

/-- A set of terminals, their characters written in the given way. -/
def TerminalSet.renderWith (escaping : Text.Escaping) (set : TerminalSet) : String :=
  " ".intercalate (set.members.map (Terminal.renderWith escaping))

/-- A terminal as it is written in reports. -/
def Terminal.render (terminal : Terminal) : String :=
  Terminal.renderWith Text.escapeChar terminal

/-- A line as it is written in reports. -/
def Line.render (line : Line) : String :=
  Line.renderWith Text.escapeChar line

/-- The line and everything that is left of it after some of its first
symbols. -/
def Line.suffixes : Line → List Line
  | [] => [[]]
  | symbol :: rest => (symbol :: rest) :: suffixes rest

/-- The suffixes of a line are its tails, the line itself and the empty line
included. -/
@[simp] theorem Line.mem_suffixes {line suffix : Line} :
    suffix ∈ line.suffixes ↔ suffix <:+ line := by
  induction line with
  | nil => simp [Line.suffixes]
  | cons symbol rest ih => simp [Line.suffixes, ih, List.suffix_cons_iff]

/-- The places, counted from zero, where an item occurs in a list. -/
def occurrences {α : Type} [DecidableEq α] (item : α) : List α → List Nat
  | [] => []
  | first :: rest =>
      let later := (occurrences item rest).map (· + 1)
      if first = item then 0 :: later else later

/-- A place is listed exactly when the item stands there. -/
@[simp] theorem mem_occurrences {α : Type} [DecidableEq α] {item : α} {items : List α}
    {place : Nat} : place ∈ occurrences item items ↔ items[place]? = some item := by
  induction items generalizing place with
  | nil => simp [occurrences]
  | cons first rest ih =>
      cases place with
      | zero => by_cases equal : first = item <;> simp [occurrences, equal]
      | succ place => by_cases equal : first = item <;> simp [occurrences, equal, ih]

end Lookahead
