import Lookahead.Proofs.Derivation
import Lookahead.Proofs.Simulation

/-!
# Renamed grammars

A renaming gives nonterminals and terminals other names, each kind for itself.  A
grammar mirrors another one if its productions are the renamed productions of the
other, in whatever order and however often each of them is listed.
-/

namespace Lookahead

/-- New names for nonterminals and for terminals.  Different names stay different,
and `epsilon` stays what it is. -/
structure Renaming where
  name : String → String
  terminal : Terminal → Terminal
  name_injective : Function.Injective name
  terminal_injective : Function.Injective terminal
  terminal_epsilon : terminal epsilon = epsilon

namespace Renaming

/-- The renaming that keeps all names. -/
def identity : Renaming where
  name := id
  terminal := id
  name_injective := Function.injective_id
  terminal_injective := Function.injective_id
  terminal_epsilon := rfl

variable {relabel : Renaming} {name : String} {source front rest : Line}

/-- A symbol under its new name. -/
def symbol (relabel : Renaming) : Symbol → Symbol
  | .terminal text => .terminal (relabel.terminal text)
  | .nonterminal name => .nonterminal (relabel.name name)

/-- A line with its symbols under their new names. -/
def line (relabel : Renaming) (line : Line) : Line :=
  line.map relabel.symbol

theorem symbol_injective (relabel : Renaming) : Function.Injective relabel.symbol := by
  intro left right same
  cases left with
  | terminal text =>
      cases right with
      | terminal other =>
          exact congrArg _ (relabel.terminal_injective (Symbol.terminal.inj same))
      | nonterminal name => cases same
  | nonterminal name =>
      cases right with
      | terminal text => cases same
      | nonterminal other =>
          exact congrArg _ (relabel.name_injective (Symbol.nonterminal.inj same))

theorem line_injective (relabel : Renaming) : Function.Injective relabel.line :=
  List.map_injective_iff.2 relabel.symbol_injective

theorem line_identity : identity.line = id := by
  have symbols : identity.symbol = id := by
    funext symbol
    cases symbol <;> rfl
  funext line
  rw [Renaming.line, symbols, List.map_id, id]

theorem terminal_eq_epsilon_iff {terminal : Terminal} :
    relabel.terminal terminal = epsilon ↔ terminal = epsilon := by
  conv_lhs => rw [← relabel.terminal_epsilon]
  exact relabel.terminal_injective.eq_iff

theorem epsilon_mem_map_iff {set : TerminalSet} :
    epsilon ∈ set.map relabel.terminal ↔ epsilon ∈ set := by
  conv_lhs => rw [← relabel.terminal_epsilon]
  exact TerminalSet.image_mem_map relabel.terminal_injective

/-- A nonterminal that occurs in a renamed line occurs there in the line before. -/
theorem line_eq_append_nonterminal_iff :
    relabel.line source = front ++ .nonterminal (relabel.name name) :: rest ↔
      ∃ before after, source = before ++ .nonterminal name :: after ∧
        relabel.line before = front ∧ relabel.line after = rest := by
  constructor
  · intro shape
    obtain ⟨before, others, rfl, front, tail⟩ := List.map_eq_append_iff.1 shape
    obtain ⟨symbol, after, rfl, same, rest⟩ := List.map_eq_cons_iff.1 tail
    have kept : symbol = .nonterminal name := relabel.symbol_injective same
    exact ⟨before, after, by rw [kept], front, rest⟩
  · intro given
    rcases given with ⟨before, after, rfl, rfl, rfl⟩
    exact List.map_append

end Renaming

namespace Grammar

variable {relabel : Renaming} {source mirror : Grammar} {name : String} {line rest : Line}

/-- A grammar with its symbols under their new names. -/
def rename (grammar : Grammar) (relabel : Renaming) : Grammar where
  start := relabel.name grammar.start
  rules := {
    entries := grammar.rules.entries.map fun rule =>
      (relabel.name rule.1, rule.2.map relabel.line)
    distinct := by
      have names := grammar.rules.distinct.map relabel.name_injective
      rwa [List.map_map] at names ⊢ }

/-- The productions of `mirror` are those of `source` under their new names. -/
structure Mirrors (relabel : Renaming) (source mirror : Grammar) : Prop where
  start : mirror.start = relabel.name source.start
  names : ∀ name, name ∈ mirror.names ↔ ∃ origin ∈ source.names, relabel.name origin = name
  lines : ∀ name line, line ∈ mirror.lines (relabel.name name) ↔
    ∃ origin ∈ source.lines name, relabel.line origin = line

theorem mirrors_rename (grammar : Grammar) (relabel : Renaming) :
    Mirrors relabel grammar (grammar.rename relabel) := by
  constructor
  · rfl
  · intro name
    simp [names, Table.keys, rename]
  · intro name line
    simp only [mem_lines, rename, List.mem_map, Prod.mk.injEq, Prod.exists]
    constructor
    · intro given
      rcases given with ⟨_, ⟨other, alternatives, rule, same, rfl⟩, member⟩
      obtain ⟨origin, inside, rfl⟩ := List.mem_map.1 member
      obtain rfl := relabel.name_injective same
      exact ⟨origin, ⟨alternatives, rule, inside⟩, rfl⟩
    · intro given
      rcases given with ⟨origin, ⟨alternatives, rule, inside⟩, rfl⟩
      exact ⟨_, ⟨name, alternatives, rule, rfl, rfl⟩, List.mem_map_of_mem inside⟩

namespace Mirrors

theorem exists_origin (mirrors : Mirrors relabel source mirror) {owner : String}
    (member : line ∈ mirror.lines owner) :
    ∃ origin, relabel.name origin = owner ∧
      ∃ alternative ∈ source.lines origin, relabel.line alternative = line := by
  obtain ⟨origin, _, rfl⟩ := (mirrors.names owner).1 (mem_names_of_mem_lines member)
  exact ⟨origin, rfl, (mirrors.lines origin line).1 member⟩

/-- Endings in the mirror are renamed endings. -/
theorem occurs_iff (mirrors : Mirrors relabel source mirror) {owner : String} :
    mirror.Occurs owner (relabel.name name) rest ↔
      ∃ origin after, source.Occurs origin name after ∧
        relabel.name origin = owner ∧ relabel.line after = rest := by
  constructor
  · intro given
    rcases given with ⟨front, member⟩
    obtain ⟨origin, rfl, alternative, listed, shape⟩ := mirrors.exists_origin member
    obtain ⟨before, after, rfl, _, rest⟩ := Renaming.line_eq_append_nonterminal_iff.1 shape
    exact ⟨origin, after, ⟨before, listed⟩, rfl, rest⟩
  · intro given
    rcases given with ⟨origin, after, ⟨before, listed⟩, rfl, rfl⟩
    refine ⟨relabel.line before, (mirrors.lines _ _).2 ⟨_, listed, ?_⟩⟩
    exact Renaming.line_eq_append_nonterminal_iff.2 ⟨before, after, rfl, rfl, rfl⟩

/-- The registered lines of the mirror are the renamed registered lines. -/
theorem isRegistered_iff (mirrors : Mirrors relabel source mirror) :
    mirror.IsRegistered line ↔ ∃ origin, source.IsRegistered origin ∧ relabel.line origin = line := by
  constructor
  · intro given
    rcases given with ⟨owner, alternative, member, suffix⟩ | ⟨name, declared, rfl⟩ | rfl
    · obtain ⟨origin, rfl, other, listed, rfl⟩ := mirrors.exists_origin member
      obtain ⟨rest, inside, rfl⟩ := List.suffix_map_iff.1 suffix
      exact ⟨rest, .inl ⟨origin, other, listed, inside⟩, rfl⟩
    · obtain ⟨origin, listed, rfl⟩ := (mirrors.names name).1 declared
      exact ⟨[.nonterminal origin], .inr (.inl ⟨origin, listed, rfl⟩), rfl⟩
    · exact ⟨[], .inr (.inr rfl), rfl⟩
  · intro given
    rcases given with ⟨_, ⟨owner, alternative, member, suffix⟩ | ⟨name, declared, rfl⟩ | rfl, rfl⟩
    · exact .inl ⟨_, _, (mirrors.lines owner _).2 ⟨alternative, member, rfl⟩, suffix.map _⟩
    · exact .inr (.inl ⟨_, (mirrors.names _).2 ⟨name, declared, rfl⟩, rfl⟩)
    · exact .inr (.inr rfl)

end Mirrors

end Grammar

end Lookahead
