import Lookahead.Grammar.Basic
import Lookahead.Iteration

/-!
# FIRST sets

The FIRST set of a line holds the terminals that can begin what the line
derives, and `epsilon` if the line can vanish.  The sets of all suffixes of a
grammar are computed together: each round recomputes every set from the sets of
the round before, until a round changes nothing.
-/

namespace Lookahead

/-- A set of terminals for each of some lines. -/
abbrev FirstSets := Table Line TerminalSet

namespace FirstSets

/-- The set of a line, empty if the line has none. -/
def ofLine (sets : FirstSets) (line : Line) : TerminalSet :=
  (sets.get? line).getD ∅

/-- The set of a nonterminal, which is that of the line made of it alone. -/
def ofNonterminal (sets : FirstSets) (name : String) : TerminalSet :=
  sets.ofLine [.nonterminal name]

/-- The set of a line as the sets of one round determine it for the next.  The
rest of a line counts when the nonterminal at its head can vanish. -/
def recompute (grammar : Grammar) (sets : FirstSets) : Line → TerminalSet
  | [] => .singleton epsilon
  | .terminal text :: _ => .singleton text
  | .nonterminal name :: rest =>
      let heads := TerminalSet.unions ((grammar.lines name).map sets.ofLine)
      if epsilon ∈ heads then heads.erase epsilon ∪ sets.ofLine rest
      else heads.erase epsilon

/-- One round: every set is recomputed from the sets before it. -/
def round (grammar : Grammar) (sets : FirstSets) : FirstSets :=
  sets.mapEntries fun line _ => recompute grammar sets line

/-- The state before the first round: the empty set for every suffix. -/
def initial (grammar : Grammar) : FirstSets :=
  .constant grammar.suffixes ∅

end FirstSets

namespace Grammar

/-- A number of calls that ends the iteration of the rounds.  Whether a line can
vanish is settled in at most one round for each suffix, and from then on a
terminal reaches a line in at most one more round for each suffix. -/
def firstLimit (grammar : Grammar) : Nat :=
  2 * (FirstSets.initial grammar).entries.length + 2

/-- The FIRST sets of all suffixes of a grammar. -/
def firstSets (grammar : Grammar) : FirstSets :=
  saturate (FirstSets.round grammar) grammar.firstLimit (FirstSets.initial grammar)

end Grammar

end Lookahead
