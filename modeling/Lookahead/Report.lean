import Lookahead.Follow.Basic

/-!
# Reports

A report shows the computed sets in sections: a title, and below it a row for
each key.  Nonterminals come in the order of their declaration, suffixes in the
order of their written form.
-/

namespace Lookahead.Report

/-- The sections to be shown. -/
structure Sections where
  first : Bool
  follow : Bool
  suffixes : Bool
  deriving DecidableEq, Repr

/-- The written form of a key, and its set. -/
abbrev Row := String × TerminalSet

/-- Lists of terminals in the order of a dictionary. -/
def membersLe : List Terminal → List Terminal → Bool
  | [], _ => true
  | _ :: _, [] => false
  | left :: lefts, right :: rights =>
      decide (left < right) || (left == right && membersLe lefts rights)

/-- Rows in order: by the written form of the key, then by the members of the
set. -/
def Row.le (left right : Row) : Bool :=
  decide (left.1 < right.1) ||
    (left.1 == right.1 && membersLe left.2.members right.2.members)

/-- A row as it is written. -/
def Row.renderWith (escaping : Text.Escaping) (row : Row) : String :=
  "  " ++ row.1 ++ ": " ++ TerminalSet.renderWith escaping row.2

/-- A section: its title and its rows, one on each line. -/
def renderSection (escaping : Text.Escaping) (title : String) (rows : List Row) : String :=
  "\n".intercalate (title :: rows.map (Row.renderWith escaping))

/-- The rows of FIRST, one for each declared nonterminal. -/
def firstRows (grammar : Grammar) (firstSets : FirstSets) : List Row :=
  grammar.names.map fun name => (name, firstSets.ofNonterminal name)

/-- The rows of SUFFIXES, one for each line that has a FIRST set. -/
def suffixRows (escaping : Text.Escaping) (firstSets : FirstSets) : List Row :=
  (firstSets.entries.map fun entry =>
    (Line.renderWith escaping entry.1, entry.2)).mergeSort Row.le

/-- The rows of FOLLOW, one for each declared nonterminal. -/
def followRows (grammar : Grammar) (followSets : FollowSets) : List Row :=
  grammar.names.map fun name => (name, followSets.ofNonterminal name)

/-- The chosen sections in their order. -/
def sectionTexts (escaping : Text.Escaping) (grammar : Grammar) (firstSets : FirstSets)
    (followSets : FollowSets) (sections : Sections) : List String :=
  (if sections.first then [renderSection escaping "FIRST" (firstRows grammar firstSets)]
    else []) ++
  (if sections.suffixes then [renderSection escaping "SUFFIXES" (suffixRows escaping firstSets)]
    else []) ++
  (if sections.follow then [renderSection escaping "FOLLOW" (followRows grammar followSets)]
    else [])

/-- Sections one after the other.  Each ends its last line, and a blank line stands
between two of them. -/
def joinSections (texts : List String) : String :=
  "\n".intercalate (texts.map (· ++ "\n"))

/-- The report, the characters of terminals written in the given way. -/
def renderWith (escaping : Text.Escaping) (grammar : Grammar) (firstSets : FirstSets)
    (followSets : FollowSets) (sections : Sections) : String :=
  joinSections (sectionTexts escaping grammar firstSets followSets sections)

/-- The report. -/
def render (grammar : Grammar) (firstSets : FirstSets) (followSets : FollowSets)
    (sections : Sections) : String :=
  renderWith Text.escapeChar grammar firstSets followSets sections

end Lookahead.Report
