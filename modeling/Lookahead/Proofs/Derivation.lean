import Lookahead.Grammar.Basic
import Lookahead.Proofs.Tables
import Mathlib.Logic.Relation

/-!
# Derivations

A grammar rewrites a line by replacing one occurrence of a nonterminal by one of
its alternatives.  This module relates the computable views of a grammar, which
walk its rules in order, to rewriting.
-/

namespace Lookahead.Grammar

variable {grammar : Grammar} {name owner : String} {line before after front back : Line}

/-! ## Alternatives and occurrences -/

theorem mem_lines :
    line ∈ grammar.lines name ↔
      ∃ alternatives, (name, alternatives) ∈ grammar.rules.entries ∧ line ∈ alternatives := by
  constructor
  · intro member
    rw [lines] at member
    cases found : grammar.rules.get? name with
    | none => simp [found] at member
    | some alternatives =>
        rw [found, Option.getD_some] at member
        exact ⟨alternatives, Table.get?_eq_some_iff.1 found, member⟩
  · intro given
    rcases given with ⟨alternatives, rule, member⟩
    rw [lines, Table.get?_eq_some_iff.2 rule, Option.getD_some]
    exact member

theorem mem_flatten_values :
    line ∈ grammar.rules.values.flatten ↔ ∃ name, line ∈ grammar.lines name := by
  simp only [List.mem_flatten, Table.values, List.mem_map, Prod.exists, mem_lines]
  constructor
  · intro listed
    rcases listed with ⟨alternatives, ⟨name, _, rule, rfl⟩, member⟩
    exact ⟨name, _, rule, member⟩
  · intro given
    rcases given with ⟨name, alternatives, rule, member⟩
    exact ⟨alternatives, ⟨name, _, rule, rfl⟩, member⟩

theorem mem_names_of_mem_lines (member : line ∈ grammar.lines name) : name ∈ grammar.names := by
  obtain ⟨alternatives, rule, _⟩ := mem_lines.1 member
  exact List.mem_map.2 ⟨(name, alternatives), rule, rfl⟩

/-- Some alternative of `owner` has the nonterminal `name` just before `rest`. -/
def Occurs (grammar : Grammar) (owner name : String) (rest : Line) : Prop :=
  ∃ front, front ++ .nonterminal name :: rest ∈ grammar.lines owner

/-- The computed endings are what follows the occurrences of a nonterminal. -/
theorem mem_endings {ending : Ending} :
    ending ∈ grammar.endings name ↔ grammar.Occurs ending.owner name ending.rest := by
  obtain ⟨owner, rest⟩ := ending
  simp only [endings, List.mem_flatMap, List.mem_map, mem_occurrences, Occurs, mem_lines,
    Prod.exists, Ending.mk.injEq]
  constructor
  · intro listed
    rcases listed with ⟨_, alternatives, rule, line, member, place, found, rfl, rfl⟩
    obtain ⟨inside, symbol⟩ := List.getElem?_eq_some_iff.1 found
    refine ⟨line.take place, alternatives, rule, ?_⟩
    rw [← symbol, List.getElem_cons_drop, List.take_append_drop]
    exact member
  · intro occurs
    rcases occurs with ⟨front, alternatives, rule, member⟩
    refine ⟨owner, alternatives, rule, _, member, front.length, ?_, rfl, ?_⟩
    · simp
    · simp [List.drop_append]

/-- The lines whose FIRST sets are computed: the suffixes of the alternatives,
the declared nonterminals, and the empty line. -/
def IsRegistered (grammar : Grammar) (line : Line) : Prop :=
  (∃ name, ∃ alternative ∈ grammar.lines name, line <:+ alternative) ∨
    (∃ name ∈ grammar.names, line = [.nonterminal name]) ∨ line = []

theorem mem_suffixes : line ∈ grammar.suffixes ↔ grammar.IsRegistered line := by
  simp only [suffixes, List.mem_append, List.mem_flatMap, Line.mem_suffixes, mem_flatten_values,
    List.mem_map, List.mem_singleton, IsRegistered, or_assoc]
  apply or_congr _ (or_congr _ Iff.rfl)
  · constructor
    · intro listed
      rcases listed with ⟨alternative, ⟨name, member⟩, suffix⟩
      exact ⟨name, alternative, member, suffix⟩
    · intro given
      rcases given with ⟨name, alternative, member, suffix⟩
      exact ⟨alternative, ⟨name, member⟩, suffix⟩
  · simp only [eq_comm]

instance (grammar : Grammar) (line : Line) : Decidable (grammar.IsRegistered line) :=
  decidable_of_iff (line ∈ grammar.suffixes) mem_suffixes

theorem isRegistered_of_mem_lines (member : line ∈ grammar.lines name) :
    grammar.IsRegistered line :=
  .inl ⟨name, line, member, List.suffix_refl line⟩

theorem isRegistered_of_occurs {rest : Line} (occurs : grammar.Occurs owner name rest) :
    grammar.IsRegistered rest := by
  obtain ⟨front, member⟩ := occurs
  exact .inl ⟨owner, _, member, ⟨front ++ [.nonterminal name], by simp⟩⟩

theorem IsRegistered.tail {symbol : Symbol} {rest : Line}
    (registered : grammar.IsRegistered (symbol :: rest)) : grammar.IsRegistered rest := by
  rcases registered with ⟨name, alternative, member, suffix⟩ | ⟨name, _, single⟩ | empty
  · exact .inl ⟨name, alternative, member, (List.suffix_cons symbol rest).trans suffix⟩
  · rw [List.cons.injEq] at single
    exact .inr (.inr single.2)
  · cases empty

/-- Every nonterminal in an alternative is declared. -/
def IsClosed (grammar : Grammar) : Prop :=
  ∀ line ∈ grammar.rules.values.flatten, ∀ name, .nonterminal name ∈ line → name ∈ grammar.names

/-- A computable form of being declared, for single symbols. -/
def declares (grammar : Grammar) : Symbol → Bool
  | .terminal _ => true
  | .nonterminal name => grammar.names.contains name

theorem isClosed_iff_declares :
    (∀ line ∈ grammar.rules.values.flatten, ∀ symbol ∈ line, grammar.declares symbol = true) ↔
      grammar.IsClosed := by
  constructor
  · intro every line listed name member
    simpa [declares] using every line listed (.nonterminal name) member
  · intro closed line listed symbol member
    cases symbol with
    | terminal text => rfl
    | nonterminal name => simpa [declares] using closed line listed name member

instance (grammar : Grammar) : Decidable grammar.IsClosed :=
  decidable_of_iff _ isClosed_iff_declares

theorem IsClosed.mem_names_of_occurs (closed : grammar.IsClosed) {rest : Line}
    (occurs : grammar.Occurs owner name rest) : name ∈ grammar.names := by
  rcases occurs with ⟨front, member⟩
  exact closed _ (mem_flatten_values.2 ⟨owner, member⟩) name (by simp)

/-! ## Rewriting -/

/-- One rewriting step. -/
inductive Step (grammar : Grammar) : Line → Line → Prop where
  | replace (front back : Line) {name : String} {line : Line} :
      line ∈ grammar.lines name →
      Step grammar (front ++ .nonterminal name :: back) (front ++ line ++ back)

/-- Any number of rewriting steps. -/
def Derives (grammar : Grammar) : Line → Line → Prop :=
  Relation.ReflTransGen grammar.Step

theorem Step.frame (step : grammar.Step before after) (front back : Line) :
    grammar.Step (front ++ before ++ back) (front ++ after ++ back) := by
  cases step with
  | replace left right member =>
      have framed := Step.replace (front ++ left) (right ++ back) member
      simpa using framed

namespace Derives

theorem refl (line : Line) : grammar.Derives line line :=
  Relation.ReflTransGen.refl

theorem trans {middle : Line} (first : grammar.Derives before middle)
    (second : grammar.Derives middle after) : grammar.Derives before after :=
  Relation.ReflTransGen.trans first second

/-- A derivation goes on inside any context. -/
theorem frame (derives : grammar.Derives before after) (front back : Line) :
    grammar.Derives (front ++ before ++ back) (front ++ after ++ back) := by
  induction derives with
  | refl => exact refl _
  | tail _ step ih => exact Relation.ReflTransGen.tail ih (step.frame front back)

theorem append_right (derives : grammar.Derives before after) (back : Line) :
    grammar.Derives (before ++ back) (after ++ back) := by
  simpa using derives.frame [] back

theorem of_mem_lines (member : line ∈ grammar.lines name) (back : Line) :
    grammar.Derives (.nonterminal name :: back) (line ++ back) :=
  Relation.ReflTransGen.single (by simpa using Step.replace [] back member)

end Derives

/-! ## Terminals without characters -/

/-- No alternative holds the terminal without characters. -/
def HasNoEmptyTerminal (grammar : Grammar) : Prop :=
  ∀ line ∈ grammar.rules.values.flatten, Symbol.terminal epsilon ∉ line

instance (grammar : Grammar) : Decidable grammar.HasNoEmptyTerminal :=
  inferInstanceAs (Decidable (∀ line ∈ grammar.rules.values.flatten, _ ∉ line))

namespace HasNoEmptyTerminal

variable (solid : grammar.HasNoEmptyTerminal)

include solid

theorem not_mem_of_mem_lines (member : line ∈ grammar.lines name) :
    Symbol.terminal epsilon ∉ line :=
  solid line (mem_flatten_values.2 ⟨name, member⟩)

theorem not_mem_of_isRegistered (registered : grammar.IsRegistered line) :
    Symbol.terminal epsilon ∉ line := by
  rcases registered with ⟨name, alternative, member, suffix⟩ | ⟨name, _, rfl⟩ | rfl
  · intro inLine
    exact solid.not_mem_of_mem_lines member (suffix.mem inLine)
  · simp
  · simp

theorem not_mem_of_step (step : grammar.Step before after)
    (absent : Symbol.terminal epsilon ∉ before) : Symbol.terminal epsilon ∉ after := by
  cases step with
  | replace left right member =>
      have inLine := solid.not_mem_of_mem_lines member
      simp only [List.mem_append, List.mem_cons, not_or] at absent ⊢
      exact ⟨⟨absent.1, inLine⟩, absent.2.2⟩

/-- Rewriting brings in no terminal without characters. -/
theorem not_mem_of_derives (derives : grammar.Derives before after)
    (absent : Symbol.terminal epsilon ∉ before) : Symbol.terminal epsilon ∉ after := by
  induction derives with
  | refl => exact absent
  | tail _ step ih => exact solid.not_mem_of_step step ih

end HasNoEmptyTerminal

end Lookahead.Grammar
