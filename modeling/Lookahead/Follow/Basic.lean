import Lookahead.First.Basic

/-!
# FOLLOW sets

The FOLLOW set of a nonterminal holds the terminals that can come right after
it, and `epsilon` for the end of the input.  The sets are computed in rounds from
given FIRST sets.  After an occurrence of the nonterminal, the rest of the line
gives its FIRST set; a rest that can vanish, or that has no FIRST terminals,
gives the FOLLOW set of the line's owner instead.
-/

namespace Lookahead

/-- A set of terminals for each of some nonterminals. -/
abbrev FollowSets := Table String TerminalSet

namespace FollowSets

/-- The set of a nonterminal, empty if it has none. -/
def ofNonterminal (sets : FollowSets) (name : String) : TerminalSet :=
  (sets.get? name).getD ∅

/-- What one ending gives to the nonterminal before it. -/
def contribution (firstSets : FirstSets) (sets : FollowSets) (ending : Grammar.Ending) :
    TerminalSet :=
  let beginnings := firstSets.ofLine ending.rest
  if beginnings.erase epsilon = ∅ ∨ epsilon ∈ beginnings then sets.ofNonterminal ending.owner
  else beginnings.erase epsilon

/-- The set of a nonterminal as the sets of one round determine it for the next.
The end of the input follows the start symbol. -/
def recompute (grammar : Grammar) (firstSets : FirstSets) (sets : FollowSets) (name : String) :
    TerminalSet :=
  let seed : TerminalSet := if name = grammar.start then .singleton epsilon else ∅
  seed ∪ .unions ((grammar.endings name).map (contribution firstSets sets))

/-- One round: every set is recomputed from the sets before it. -/
def round (grammar : Grammar) (firstSets : FirstSets) (sets : FollowSets) : FollowSets :=
  sets.mapEntries fun name _ => recompute grammar firstSets sets name

/-- The state before the first round: the empty set for every declared
nonterminal. -/
def initial (grammar : Grammar) : FollowSets :=
  .constant grammar.names ∅

end FollowSets

namespace Grammar

/-- A number of calls that ends the iteration of the rounds: a terminal reaches a
nonterminal over different owners, so in at most one round for each rule. -/
def followLimit (grammar : Grammar) : Nat :=
  grammar.rules.entries.length + 2

/-- The FOLLOW sets of all declared nonterminals, from given FIRST sets. -/
def followSetsFrom (grammar : Grammar) (firstSets : FirstSets) : FollowSets :=
  saturate (FollowSets.round grammar firstSets) grammar.followLimit (FollowSets.initial grammar)

/-- The FOLLOW sets of all declared nonterminals. -/
def followSets (grammar : Grammar) : FollowSets :=
  grammar.followSetsFrom grammar.firstSets

end Grammar

end Lookahead
