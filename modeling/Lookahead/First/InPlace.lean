import Lookahead.Grammar.Basic

/-!
# FIRST sets in place

The customary way to compute FIRST sets keeps one entry for each nonterminal: the
terminals that are known to begin it, and whether it is known to vanish.  The
alternatives are swept over in order, and what is found counts at once, also for
the rest of the same sweep.  Sweeping is repeated until a whole sweep finds
nothing new.
-/

namespace Lookahead

namespace InPlace

/-- What is known of a nonterminal: terminals that begin it, and whether it can
vanish. -/
structure Known where
  terminals : TerminalSet
  vanishes : Bool
  deriving DecidableEq

/-- The FIRST set that an entry stands for, with `epsilon` if the nonterminal can
vanish. -/
def Known.beginnings (known : Known) : TerminalSet :=
  if known.vanishes then known.terminals.insert epsilon else known.terminals

/-- What is known of every declared nonterminal. -/
abbrev Tables := Table String Known

/-- The FIRST sets that the tables stand for. -/
def Tables.firstSets (tables : Tables) : Table String TerminalSet :=
  tables.mapEntries fun _ known => known.beginnings

/-- The tables before the first sweep. -/
def Tables.initial (grammar : Grammar) : Tables :=
  grammar.rules.mapEntries fun _ _ => ⟨∅, false⟩

/-- A sweep under way: the tables, and whether the sweep has changed them. -/
structure Sweep where
  tables : Tables
  changed : Bool
  deriving DecidableEq

namespace Sweep

/-- What is known of a symbol.  A nonterminal without a rule has no entry to look
up. -/
def symbol? (sweep : Sweep) : Symbol → Option Known
  | .terminal text => some ⟨.singleton text, false⟩
  | .nonterminal name => sweep.tables.get? name

/-- Let terminals begin a nonterminal. -/
def addTerminals (owner : String) (found : TerminalSet) (sweep : Sweep) : Option Sweep := do
  let known ← sweep.tables.get? owner
  let new := found.members.any (· ∉ known.terminals)
  return ⟨sweep.tables.insert owner { known with terminals := known.terminals ∪ found },
    sweep.changed || new⟩

/-- Let a nonterminal vanish. -/
def addVanishing (owner : String) (sweep : Sweep) : Option Sweep := do
  let known ← sweep.tables.get? owner
  if known.vanishes then return sweep
  else return ⟨sweep.tables.insert owner { known with vanishes := true }, true⟩

/-- Sweep over an alternative of `owner` up to its first symbol that is not known
to vanish.  If there is none, `owner` vanishes. -/
def overLine (owner : String) : Line → Sweep → Option Sweep
  | [], sweep => sweep.addVanishing owner
  | symbol :: rest, sweep => do
      let known ← sweep.symbol? symbol
      let after ← sweep.addTerminals owner known.terminals
      if known.vanishes then overLine owner rest after else return after

/-- Sweep over some alternatives, each with its owner. -/
def overLines (productions : List (String × Line)) (sweep : Sweep) : Option Sweep :=
  productions.foldlM (fun sweep production => overLine production.1 production.2 sweep) sweep

end Sweep

end InPlace

namespace Grammar

/-- Every alternative with its owner, in order. -/
def productions (grammar : Grammar) : List (String × Line) :=
  grammar.rules.entries.flatMap fun rule => rule.2.map fun line => (rule.1, line)

/-- Sweep until a sweep changes nothing, at most `limit` times. -/
def sweepRepeatedly (grammar : Grammar) : Nat → InPlace.Tables → Option InPlace.Tables
  | 0, _ => none
  | limit + 1, tables => do
      let after ← InPlace.Sweep.overLines grammar.productions ⟨tables, false⟩
      if after.changed then grammar.sweepRepeatedly limit after.tables else return after.tables

/-- The FIRST sets of the declared nonterminals, computed in place.  There is no
result if a nonterminal without a rule is looked up, or if `limit` sweeps do not
end the computation. -/
def firstInPlace? (grammar : Grammar) (limit : Nat) : Option (Table String TerminalSet) := do
  let tables ← grammar.sweepRepeatedly limit (.initial grammar)
  return tables.firstSets

end Grammar

end Lookahead
