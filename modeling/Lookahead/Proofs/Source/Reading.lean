import Lookahead.Proofs.Derivation
import Lookahead.Proofs.Source.Names
import Lookahead.Proofs.Source.Rules

/-!
# Grammars read from rules

A text is read as a grammar exactly if its rule lines are read as the entries of
the grammar in order, the grammar is closed, and it starts with its first rule.
-/

namespace Lookahead.Source

/-- The name that a rule defines, and its alternatives without places. -/
def Rule.entry (rule : Rule) : String × List Line :=
  (rule.name, rule.alternatives.map (·.map Located.value))

variable {ε α : Type} {rules : List Rule} {grammar : Grammar} {text : String}

/-! ## Names -/

namespace RuleBook

/-- Rules with distinct names make a book of their entries. -/
theorem entries_withoutPlaces_collect (distinct : (rules.map Rule.name).Nodup) :
    (collect .empty rules).1.withoutPlaces.entries = rules.map Rule.entry := by
  have entries := (collect_empty rules).1
  rw [firstRules_eq_self (repetitions_eq_nil_iff.2 distinct)] at entries
  simp [withoutPlaces, Table.mapEntries, entries, Rule.entry]

theorem flatten_values_withoutPlaces (book : RuleBook) :
    book.withoutPlaces.values.flatten = book.values.flatten.map (·.map Located.value) := by
  simp [Table.values, withoutPlaces, Table.mapEntries, List.map_flatten, Function.comp_def]

/-- Nothing is undefined in a book whose rules make a closed grammar. -/
theorem undefinedNames_eq_nil_iff {book : RuleBook} :
    book.undefinedNames = [] ↔ (Grammar.ofRules book.withoutPlaces).IsClosed := by
  have names : (Grammar.ofRules book.withoutPlaces).names = book.keys :=
    Table.keys_mapEntries _ book
  have lines : (Grammar.ofRules book.withoutPlaces).rules.values.flatten =
      book.values.flatten.map (·.map Located.value) := flatten_values_withoutPlaces book
  rw [undefinedNames, undefined?_eq, List.filterMap_eq_nil_iff, Grammar.IsClosed, names, lines]
  constructor
  · intro every line listed name member
    rcases List.mem_map.1 listed with ⟨placed, inBook, rfl⟩
    rcases List.mem_map.1 member with ⟨symbol, inLine, same⟩
    apply danglingUse?_eq_none_iff.1 (every symbol (List.mem_flatten.2 ⟨placed, inBook, inLine⟩))
    exact same
  · intro closed symbol listed
    rcases List.mem_flatten.1 listed with ⟨placed, listed, member⟩
    apply danglingUse?_eq_none_iff.2
    intro name same
    exact closed _ (List.mem_map_of_mem listed) name (List.mem_map.2 ⟨symbol, member, same⟩)

end RuleBook

/-! ## Grammars -/

theorem eq_ofRules_iff {table : Table String (List Line)} (inhabited : table.entries ≠ []) :
    Grammar.ofRules table = grammar ↔
      grammar.rules.entries = table.entries ∧ grammar.names.head? = some grammar.start := by
  rcases grammar with ⟨start, rules⟩
  cases entries : table.entries with
  | nil => exact absurd entries inhabited
  | cons rule later =>
      have first : table.keys.head? = some rule.1 := by simp [Table.keys, entries]
      simp only [Grammar.ofRules, Grammar.mk.injEq, Grammar.names, first, Option.getD_some]
      constructor
      · intro equal
        rcases equal with ⟨rfl, rfl⟩
        exact ⟨entries, first⟩
      · intro equal
        have same : table = rules := Table.ext (entries.trans equal.1.symm)
        rw [← same, first] at equal
        exact ⟨Option.some.inj equal.2, same⟩

theorem names_of_entries (entries : grammar.rules.entries = rules.map Rule.entry) :
    grammar.names = rules.map Rule.name := by
  simp [Grammar.names, Table.keys, entries, Rule.entry, Function.comp_def]

/-- Rules make a grammar exactly if they are its entries, it starts with the first
of them, and it is closed. -/
theorem grammarOfRules_eq_ok_iff :
    grammarOfRules rules = .ok grammar ↔
      grammar.rules.entries = rules.map Rule.entry ∧
        grammar.names.head? = some grammar.start ∧ grammar.IsClosed := by
  by_cases inhabited : rules = []
  · apply iff_of_false (by simp [inhabited, grammarOfRules])
    intro shape
    rcases shape with ⟨entries, head, _⟩
    rw [names_of_entries entries, inhabited] at head
    cases head
  · rw [grammarOfRules_eq_ok_iff_reports inhabited, repetitions_eq_nil_iff,
      ← RuleBook.undefinedNames_collect, RuleBook.undefinedNames_eq_nil_iff]
    constructor
    · intro made
      rcases made with ⟨distinct, closed, same⟩
      rw [same] at closed
      rw [eq_ofRules_iff, RuleBook.entries_withoutPlaces_collect distinct] at same
      · exact ⟨same.1, same.2, closed⟩
      · simp [RuleBook.entries_withoutPlaces_collect distinct, inhabited]
    · intro shape
      rcases shape with ⟨entries, head, closed⟩
      have distinct : (rules.map Rule.name).Nodup := by
        rw [← names_of_entries entries]
        exact grammar.rules.nodup_keys
      have same : Grammar.ofRules (RuleBook.collect .empty rules).1.withoutPlaces = grammar := by
        rw [eq_ofRules_iff, RuleBook.entries_withoutPlaces_collect distinct]
        · exact ⟨entries, head⟩
        · simp [RuleBook.entries_withoutPlaces_collect distinct, inhabited]
      exact ⟨distinct, same ▸ closed, same⟩

/-! ## Texts -/

/-- Separating leaves no faults exactly if all results are values. -/
theorem separate_eq_iff {results : List (Except ε α)} {values : List α} :
    separate results = (values, []) ↔ results = values.map .ok := by
  induction results generalizing values with
  | nil => simp [separate, eq_comm]
  | cons result results ih =>
      cases result with
      | error fault => cases values <;> simp [separate]
      | ok value =>
          cases rest : separate results with
          | mk others faults =>
              cases values with
              | nil => simp [separate, rest]
              | cons other values =>
                  rw [List.map_cons, List.cons.injEq, ← ih, rest]
                  simp [separate, rest, and_assoc]

theorem readRules_of_no_faults (silent : (separate (readRules text)).2 = []) :
    readRules text = (separate (readRules text)).1.map .ok :=
  separate_eq_iff.1 (Prod.ext rfl silent)

/-- If some rule line is not read, the faults of such lines are reported. -/
theorem parse_of_faults (loud : (separate (readRules text)).2 ≠ []) :
    parse text = .error (separate (readRules text)).2 := by
  rw [parse]
  cases found : separate (readRules text) with
  | mk rules faults =>
      rw [found] at loud
      exact if_neg (by simpa using loud)

/-- If all rule lines are read, the rules decide. -/
theorem parse_of_readRules (read : readRules text = rules.map .ok) :
    parse text = grammarOfRules rules := by
  rw [parse, separate_eq_iff.2 read]
  rfl

theorem parse_eq_ok_iff_rules :
    parse text = .ok grammar ↔
      ∃ rules, readRules text = rules.map .ok ∧ grammarOfRules rules = .ok grammar := by
  constructor
  · intro read
    have silent : (separate (readRules text)).2 = [] := by
      by_contra loud
      rw [parse_of_faults loud] at read
      cases read
    have lines := readRules_of_no_faults silent
    rw [parse_of_readRules lines] at read
    exact ⟨_, lines, read⟩
  · intro read
    rcases read with ⟨rules, lines, made⟩
    rwa [parse_of_readRules lines]

/-- A text is read as a grammar exactly if its rule lines are read as the entries
of the grammar in order, the grammar starts with the first of them, and it is
closed. -/
theorem parse_eq_ok_iff :
    parse text = .ok grammar ↔
      ∃ rules : List Rule, readRules text = rules.map .ok ∧
        grammar.rules.entries = rules.map Rule.entry ∧
        grammar.names.head? = some grammar.start ∧ grammar.IsClosed := by
  simp only [parse_eq_ok_iff_rules, grammarOfRules_eq_ok_iff]

theorem ok_mem_readRules_iff {rule : Rule} :
    .ok rule ∈ readRules text ↔
      ∃ line ∈ Text.lines text, Text.isRuleLine line.content = true ∧
        Rule.ofLine line.content line.offset = .ok rule := by
  simp [readRules, and_assoc]

end Lookahead.Source
