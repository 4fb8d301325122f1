import Lookahead.Proofs.Tables
import Lookahead.Source.Reading

/-!
# Names of rules

Of the rules with one name, the first is kept and the others are repetitions.  A
nonterminal that the kept rules use and no rule has for its name is a dangling use.
Collecting rules in a book reports exactly the repetitions, and the book then
reports exactly the dangling uses.
-/

namespace Lookahead.Source

variable {rules front : List Rule}

/-- Whether an earlier rule has the name of the rule at a place. -/
def isRepeated (rules : List Rule) (numbered : Rule × Nat) : Bool :=
  decide (numbered.1.name ∈ (rules.take numbered.2).map Rule.name)

/-- The rules whose name an earlier rule has. -/
def laterRules (rules : List Rule) : List Rule :=
  (rules.zipIdx.filter (isRepeated rules)).map Prod.fst

/-- The first rule of every name. -/
def firstRules (rules : List Rule) : List Rule :=
  (rules.zipIdx.filter (!isRepeated rules ·)).map Prod.fst

/-- A diagnostic for every rule whose name an earlier rule has. -/
def repetitions (rules : List Rule) : List Diagnostic :=
  (laterRules rules).map fun rule => ⟨.repeatedName rule.name, rule.span⟩

/-- A diagnostic for the use of a name that is not among the given ones. -/
def danglingUse? (names : List String) (symbol : Located Symbol) : Option Diagnostic :=
  match symbol.value with
  | .terminal _ => none
  | .nonterminal name => if name ∈ names then none else some ⟨.undefinedName name, symbol.span⟩

/-- A diagnostic for every use, in the first rule of a name, of a name that no rule
has. -/
def danglingUses (rules : List Rule) : List Diagnostic :=
  ((firstRules rules).flatMap (·.alternatives.flatten)).filterMap
    (danglingUse? (rules.map Rule.name))

theorem isRepeated_append_cons (front : List Rule) (rule : Rule) (rules : List Rule) :
    isRepeated (front ++ rule :: rules) (rule, front.length) =
      decide (rule.name ∈ front.map Rule.name) := by
  rw [isRepeated, List.take_left']
  rfl

theorem danglingUse?_congr {names others : List String}
    (same : ∀ name, name ∈ names ↔ name ∈ others) : danglingUse? names = danglingUse? others := by
  funext symbol
  simp only [danglingUse?, same]

/-! ## Books of rules -/

namespace RuleBook

theorem collect_cons_of_mem {book : RuleBook} {rule : Rule} (known : rule.name ∈ book.keys) :
    collect book (rule :: rules) =
      ((collect book rules).1,
        ⟨.repeatedName rule.name, rule.span⟩ :: (collect book rules).2) := by
  rw [collect, if_pos (Table.contains_iff.2 known)]

theorem collect_cons_of_not_mem {book : RuleBook} {rule : Rule} (fresh : rule.name ∉ book.keys) :
    collect book (rule :: rules) = collect (book.insert rule.name rule.alternatives) rules := by
  rw [collect, if_neg (by simpa using fresh)]

theorem keys_insert_of_not_mem {book : RuleBook} {rule : Rule} (fresh : rule.name ∉ book.keys) :
    (book.insert rule.name rule.alternatives).keys = book.keys ++ [rule.name] := by
  rw [Table.keys_insert, if_neg fresh]

/-- Collecting reports nothing if no name is defined twice. -/
theorem collect_reports_nothing_iff (book : RuleBook) (rules : List Rule) :
    (collect book rules).2 = [] ↔ (book.keys ++ rules.map Rule.name).Nodup := by
  induction rules generalizing book with
  | nil => simpa [collect] using book.nodup_keys
  | cons rule rules ih =>
      by_cases known : rule.name ∈ book.keys
      · rw [collect_cons_of_mem known]
        apply iff_of_false (List.cons_ne_nil _ _)
        intro distinct
        exact (List.nodup_append.1 distinct).2.2 _ known _ (by simp) rfl
      · rw [collect_cons_of_not_mem known, ih, keys_insert_of_not_mem known, List.append_assoc,
          List.map_cons, List.singleton_append]

/-- A book that knows the names of the rules in front goes on with the first rules
of other names, and reports the other ones. -/
theorem collect_eq (rules : List Rule) {book : RuleBook}
    (known : ∀ name, name ∈ book.keys ↔ name ∈ front.map Rule.name) :
    (collect book rules).1.entries =
        book.entries ++
          ((rules.zipIdx front.length).filter (!isRepeated (front ++ rules) ·)).map
            (fun numbered => (numbered.1.name, numbered.1.alternatives)) ∧
      (collect book rules).2 =
        ((rules.zipIdx front.length).filter (isRepeated (front ++ rules))).map
          (fun numbered => ⟨.repeatedName numbered.1.name, numbered.1.span⟩) := by
  -- A collected rule joins the front, so that numbers stay places in the whole list.
  induction rules generalizing book front with
  | nil => simp [collect]
  | cons rule rules ih =>
      have moved : front ++ rule :: rules = front ++ [rule] ++ rules := by simp
      have length : (front ++ [rule]).length = front.length + 1 := by simp
      have first := isRepeated_append_cons front rule rules
      rw [List.zipIdx_cons, List.filter_cons, List.filter_cons, first]
      by_cases repeated : rule.name ∈ book.keys
      · have inFront := (known rule.name).1 repeated
        have known' : ∀ name, name ∈ book.keys ↔ name ∈ (front ++ [rule]).map Rule.name := by
          intro name
          rw [known name, List.map_append, List.mem_append, List.map_singleton, List.mem_singleton]
          constructor
          · exact .inl
          · rintro (earlier | rfl)
            · exact earlier
            · exact inFront
        rw [collect_cons_of_mem repeated, moved, ← length]
        simp [ih known', inFront]
      · have notInFront : rule.name ∉ front.map Rule.name := by rwa [← known]
        have known' : ∀ name, name ∈ (book.insert rule.name rule.alternatives).keys ↔
            name ∈ (front ++ [rule]).map Rule.name := by
          intro name
          simp only [keys_insert_of_not_mem repeated, List.map_append, List.mem_append, known name,
            List.map_singleton]
        rw [collect_cons_of_not_mem repeated, moved, ← length]
        simp [ih known', notInFront, Table.entries_insert_of_not_mem _ repeated]

theorem mem_keys_collect {book : RuleBook} {name : String} :
    name ∈ (collect book rules).1.keys ↔ name ∈ book.keys ∨ name ∈ rules.map Rule.name := by
  induction rules generalizing book with
  | nil => simp [collect]
  | cons rule rules ih =>
      rw [List.map_cons, List.mem_cons]
      by_cases repeated : rule.name ∈ book.keys
      · rw [collect_cons_of_mem repeated, ih]
        constructor
        · exact Or.imp_right .inr
        · rintro (known | rfl | later)
          · exact .inl known
          · exact .inl repeated
          · exact .inr later
      · rw [collect_cons_of_not_mem repeated, ih, keys_insert_of_not_mem repeated, List.mem_append,
          List.mem_singleton, or_assoc]

/-- The first rules of all names are collected, and the other rules reported. -/
theorem collect_empty (rules : List Rule) :
    (collect .empty rules).1.entries =
        (firstRules rules).map (fun rule => (rule.name, rule.alternatives)) ∧
      (collect .empty rules).2 = repetitions rules := by
  have known : ∀ name, name ∈ (Table.empty : RuleBook).keys ↔
      name ∈ ([] : List Rule).map Rule.name := by
    simp [Table.keys, Table.empty]
  have collected := collect_eq rules known
  simp only [List.nil_append, List.length_nil, Table.empty] at collected
  simp only [firstRules, repetitions, laterRules, List.map_map]
  exact collected

theorem undefined?_eq (book : RuleBook) : book.undefined? = danglingUse? book.keys := by
  funext symbol
  rcases symbol with ⟨symbol, span⟩
  cases symbol with
  | terminal text => rfl
  | nonterminal name => simp only [undefined?, danglingUse?, Table.contains_iff]

/-- The book of some rules reports their dangling uses. -/
theorem undefinedNames_collect (rules : List Rule) :
    (collect .empty rules).1.undefinedNames = danglingUses rules := by
  have known (name : String) :
      name ∈ (collect .empty rules).1.keys ↔ name ∈ rules.map Rule.name := by
    rw [mem_keys_collect]
    exact or_iff_right List.not_mem_nil
  have values : (collect .empty rules).1.values = (firstRules rules).map Rule.alternatives := by
    rw [Table.values, (collect_empty rules).1, List.map_map]
    rfl
  rw [undefinedNames, values, undefined?_eq, danglingUse?_congr known, danglingUses,
    List.flatMap_def, List.flatten_flatten, List.map_map]
  rfl

end RuleBook

/-! ## Nothing to report -/

/-- Names that are all different leave no repetitions. -/
theorem repetitions_eq_nil_iff : repetitions rules = [] ↔ (rules.map Rule.name).Nodup := by
  rw [← (RuleBook.collect_empty rules).2, RuleBook.collect_reports_nothing_iff]
  rfl

/-- Without repetitions, all rules are the first ones of their names. -/
theorem firstRules_eq_self (distinct : repetitions rules = []) : firstRules rules = rules := by
  rw [repetitions, laterRules, List.map_eq_nil_iff, List.map_eq_nil_iff] at distinct
  have all : rules.zipIdx.filter (!isRepeated rules ·) = rules.zipIdx := by
    rw [List.filter_eq_self]
    intro numbered member
    simpa using List.filter_eq_nil_iff.1 distinct numbered member
  rw [firstRules, all, List.zipIdx_map_fst]

theorem danglingUse?_eq_some {names : List String} {symbol : Located Symbol}
    {diagnostic : Diagnostic} (said : danglingUse? names symbol = some diagnostic) :
    ∃ name, symbol.value = .nonterminal name ∧ diagnostic = ⟨.undefinedName name, symbol.span⟩ := by
  rcases symbol with ⟨symbol, span⟩
  cases symbol with
  | terminal text => cases said
  | nonterminal name =>
      simp only [danglingUse?] at said
      split at said
      · cases said
      · cases said
        exact ⟨name, rfl, rfl⟩

theorem danglingUse?_eq_none_iff {names : List String} {symbol : Located Symbol} :
    danglingUse? names symbol = none ↔ ∀ name, symbol.value = .nonterminal name → name ∈ names := by
  rcases symbol with ⟨symbol, span⟩
  cases symbol with
  | terminal text => simp [danglingUse?]
  | nonterminal name => simp [danglingUse?]

theorem danglingUses_eq_nil_iff (distinct : repetitions rules = []) :
    danglingUses rules = [] ↔
      ∀ rule ∈ rules, ∀ symbol ∈ rule.alternatives.flatten, ∀ name,
        symbol.value = .nonterminal name → name ∈ rules.map Rule.name := by
  simp only [danglingUses, firstRules_eq_self distinct, List.filterMap_eq_nil_iff,
    List.mem_flatMap, danglingUse?_eq_none_iff]
  constructor
  · intro every rule listed symbol member
    exact every symbol ⟨rule, listed, member⟩
  · rintro every symbol ⟨rule, listed, member⟩
    exact every rule listed symbol member

theorem filter_zipIdx_sublist (rules : List Rule) (keeps : Rule × Nat → Bool) :
    ((rules.zipIdx.filter keeps).map Prod.fst).Sublist rules := by
  have whole := (List.filter_sublist (p := keeps) (l := rules.zipIdx)).map Prod.fst
  rwa [List.zipIdx_map_fst] at whole

theorem mem_repetitions {diagnostic : Diagnostic} (listed : diagnostic ∈ repetitions rules) :
    ∃ rule ∈ rules, diagnostic = ⟨.repeatedName rule.name, rule.span⟩ := by
  obtain ⟨rule, later, rfl⟩ := List.mem_map.1 listed
  exact ⟨rule, (filter_zipIdx_sublist rules _).mem later, rfl⟩

theorem mem_danglingUses {diagnostic : Diagnostic} (listed : diagnostic ∈ danglingUses rules) :
    ∃ rule ∈ rules, ∃ symbol ∈ rule.alternatives.flatten, ∃ name,
      symbol.value = .nonterminal name ∧ diagnostic = ⟨.undefinedName name, symbol.span⟩ := by
  obtain ⟨symbol, used, said⟩ := List.mem_filterMap.1 listed
  obtain ⟨rule, first, member⟩ := List.mem_flatMap.1 used
  exact ⟨rule, (filter_zipIdx_sublist rules _).mem first, symbol, member, danglingUse?_eq_some said⟩

/-! ## Grammars -/

/-- Rules make the grammar of their book, unless there are repetitions and dangling
uses to report. -/
theorem grammarOfRules_eq (inhabited : rules ≠ []) :
    grammarOfRules rules =
      if repetitions rules ++ danglingUses rules = [] then
        .ok (.ofRules (RuleBook.collect .empty rules).1.withoutPlaces)
      else .error (repetitions rules ++ danglingUses rules) := by
  rw [grammarOfRules, List.isEmpty_eq_false_iff.2 inhabited, if_neg Bool.false_ne_true]
  rw [← (RuleBook.collect_empty _).2, ← RuleBook.undefinedNames_collect]
  simp only [List.isEmpty_iff]

theorem grammarOfRules_eq_ok_iff_reports (inhabited : rules ≠ []) {grammar : Grammar} :
    grammarOfRules rules = .ok grammar ↔
      repetitions rules = [] ∧ danglingUses rules = [] ∧
        Grammar.ofRules (RuleBook.collect .empty rules).1.withoutPlaces = grammar := by
  rw [grammarOfRules_eq inhabited, ← and_assoc, ← List.append_eq_nil_iff]
  split
  · next silent => simp [silent]
  · next loud => simp [loud]

/-- Rules are refused for their repetitions, and then for their dangling uses. -/
theorem grammarOfRules_eq_error_iff (inhabited : rules ≠ []) {diagnostics : List Diagnostic} :
    grammarOfRules rules = .error diagnostics ↔
      diagnostics ≠ [] ∧ diagnostics = repetitions rules ++ danglingUses rules := by
  rw [grammarOfRules_eq inhabited]
  split
  · next silent => simp [silent]
  · next loud =>
      rw [Except.error.injEq]
      constructor
      · rintro rfl
        exact ⟨loud, rfl⟩
      · exact fun said => said.2.symm

theorem exists_grammarOfRules_iff (inhabited : rules ≠ []) :
    (∃ grammar, grammarOfRules rules = .ok grammar) ↔
      repetitions rules = [] ∧ danglingUses rules = [] := by
  simp [grammarOfRules_eq_ok_iff_reports inhabited]

end Lookahead.Source
