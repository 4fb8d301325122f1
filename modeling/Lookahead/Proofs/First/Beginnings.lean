import Lookahead.Proofs.First.Facts

/-!
# FIRST sets and derivations

FIRST sets are sound: what the rules derive for a line begins a line derived from
it.  They are complete because the beginnings of a line, read off the sets of its
nonterminals one after the other, only grow when a rewriting step is undone.
-/

namespace Lookahead

namespace Grammar

variable {grammar : Grammar} {name : String} {line rest : Line} {terminal : Terminal}

/-- A line derives one that begins with a terminal; `epsilon` stands for the
line that derives the empty line. -/
def CanBegin (grammar : Grammar) (line : Line) (terminal : Terminal) : Prop :=
  (∃ rest, grammar.Derives line (.terminal terminal :: rest)) ∨
    terminal = epsilon ∧ grammar.Derives line []

theorem derives_nil_of_canBegin (solid : grammar.HasNoEmptyTerminal)
    (absent : Symbol.terminal epsilon ∉ line) (vanishes : grammar.CanBegin line epsilon) :
    grammar.Derives line [] := by
  cases vanishes with
  | inl begins =>
      rcases begins with ⟨rest, derives⟩
      exact absurd List.mem_cons_self (solid.not_mem_of_derives derives absent)
  | inr vanishes => exact vanishes.2

theorem canBegin_of_derives {before after : Line} (derives : grammar.Derives before after)
    (begins : grammar.CanBegin after terminal) : grammar.CanBegin before terminal := by
  cases begins with
  | inl begins =>
      rcases begins with ⟨rest, later⟩
      exact .inl ⟨rest, derives.trans later⟩
  | inr vanishes => exact .inr ⟨vanishes.1, derives.trans vanishes.2⟩

theorem canBegin_append (visible : terminal ≠ epsilon) (begins : grammar.CanBegin line terminal)
    (back : Line) : grammar.CanBegin (line ++ back) terminal := by
  cases begins with
  | inl begins =>
      rcases begins with ⟨rest, derives⟩
      exact .inl ⟨rest ++ back, derives.append_right back⟩
  | inr vanishes => exact absurd vanishes.1 visible

/-- What the rules derive for a line can begin it. -/
theorem HasFirst.canBegin (solid : grammar.HasNoEmptyTerminal)
    (derived : grammar.HasFirst line terminal) : grammar.CanBegin line terminal := by
  induction derived with
  | empty => exact .inr ⟨rfl, .refl []⟩
  | terminal text rest => exact .inl ⟨rest, .refl _⟩
  | alternative rest alternative _ visible begins =>
      apply canBegin_of_derives (.of_mem_lines alternative rest)
      exact canBegin_append visible begins rest
  | @skipped name line rest terminal alternative _ _ vanishes begins =>
      have absent := solid.not_mem_of_mem_lines alternative
      have vanish := derives_nil_of_canBegin solid absent vanishes
      have skip : grammar.Derives (.nonterminal name :: rest) rest :=
        (Derives.of_mem_lines alternative rest).trans (vanish.append_right rest)
      exact canBegin_of_derives skip begins

theorem canBegin_of_mem_firstSets (solid : grammar.HasNoEmptyTerminal)
    (member : terminal ∈ grammar.firstSets.setOf line) : grammar.CanBegin line terminal :=
  (mem_firstSets_iff_hasFirst.1 member).2.canBegin solid

theorem derives_nil_of_mem_firstSets (solid : grammar.HasNoEmptyTerminal)
    (vanishes : epsilon ∈ grammar.firstSets.setOf line) : grammar.Derives line [] := by
  have registered := (mem_firstSets_iff_recompute.1 vanishes).1
  exact derives_nil_of_canBegin solid (solid.not_mem_of_isRegistered registered)
    (canBegin_of_mem_firstSets solid vanishes)

/-! ## The beginnings of any line -/

/-- What begins a line, as the FIRST sets of its nonterminals determine it. -/
def Begins (grammar : Grammar) (terminal : Terminal) : Line → Prop
  | [] => terminal = epsilon
  | .terminal text :: _ => terminal = text
  | .nonterminal name :: rest =>
      terminal ≠ epsilon ∧ terminal ∈ grammar.firstSets.setOf [.nonterminal name] ∨
        epsilon ∈ grammar.firstSets.setOf [.nonterminal name] ∧ Begins grammar terminal rest

theorem mem_firstSets_nil : terminal ∈ grammar.firstSets.setOf [] ↔ terminal = epsilon := by
  rw [mem_firstSets_iff_recompute, FirstSets.mem_recompute_nil]
  exact and_iff_right (.inr (.inr rfl))

/-- A nonterminal begins as its alternatives do. -/
theorem mem_firstSets_nonterminal :
    terminal ∈ grammar.firstSets.setOf [.nonterminal name] ↔
      ∃ line ∈ grammar.lines name, terminal ∈ grammar.firstSets.setOf line := by
  rw [mem_firstSets_iff_recompute, FirstSets.mem_recompute_nonterminal, mem_firstSets_nil]
  constructor
  · intro member
    cases member.2 with
    | inl begins => exact begins.2
    | inr vanishes => exact vanishes.2 ▸ vanishes.1
  · intro found
    have declared : name ∈ grammar.names := by
      rcases found with ⟨line, alternative, _⟩
      exact mem_names_of_mem_lines alternative
    constructor
    · exact .inr (.inl ⟨name, declared, rfl⟩)
    · by_cases marker : terminal = epsilon
      · exact .inr ⟨marker ▸ found, marker⟩
      · exact .inl ⟨marker, found⟩

/-- The FIRST set of a registered line is read off its nonterminals. -/
theorem mem_firstSets_iff_begins (registered : grammar.IsRegistered line) :
    terminal ∈ grammar.firstSets.setOf line ↔ grammar.Begins terminal line := by
  induction line with
  | nil => exact mem_firstSets_nil
  | cons symbol rest ih =>
      rw [mem_firstSets_iff_recompute, and_iff_right registered]
      cases symbol with
      | terminal text => exact FirstSets.mem_recompute_terminal
      | nonterminal name =>
          rw [FirstSets.mem_recompute_nonterminal, ← mem_firstSets_nonterminal,
            ← mem_firstSets_nonterminal, ih registered.tail]
          exact Iff.rfl

/-- A line begins as its front does, and as its back does if the front can
vanish. -/
theorem begins_append {front back : Line} (absent : Symbol.terminal epsilon ∉ front) :
    grammar.Begins terminal (front ++ back) ↔
      terminal ≠ epsilon ∧ grammar.Begins terminal front ∨
        grammar.Begins epsilon front ∧ grammar.Begins terminal back := by
  induction front with
  | nil => simp [Begins]
  | cons symbol front ih =>
      rw [List.mem_cons, not_or] at absent
      cases symbol with
      | terminal text =>
          have solid : epsilon ≠ text := by
            intro marker
            exact absent.1 (congrArg Symbol.terminal marker)
          simp only [List.cons_append, Begins, solid, false_and, or_false]
          constructor
          · intro same
            exact ⟨same ▸ solid.symm, same⟩
          · exact And.right
      | nonterminal name =>
          simp only [List.cons_append, Begins, ih absent.2, ne_eq, not_true_eq_false, false_and,
            false_or]
          constructor
          · intro begins
            rcases begins with ⟨visible, now⟩ | ⟨vanishes, ⟨visible, later⟩ | ⟨gone, later⟩⟩
            · exact .inl ⟨visible, .inl ⟨visible, now⟩⟩
            · exact .inl ⟨visible, .inr ⟨vanishes, later⟩⟩
            · exact .inr ⟨⟨vanishes, gone⟩, later⟩
          · intro begins
            rcases begins with ⟨visible, now | ⟨vanishes, later⟩⟩ | ⟨⟨vanishes, gone⟩, later⟩
            · exact .inl now
            · exact .inr ⟨vanishes, .inl ⟨visible, later⟩⟩
            · exact .inr ⟨vanishes, .inr ⟨gone, later⟩⟩

/-- Undoing a rewriting step keeps what begins a line. -/
theorem begins_of_step (solid : grammar.HasNoEmptyTerminal) {before after : Line}
    (step : grammar.Step before after) (begins : grammar.Begins terminal after) :
    grammar.Begins terminal before := by
  cases step with
  | @replace front back name line alternative =>
      -- Only the replaced nonterminal matters; what stands before it is the same on both sides.
      induction front with
      | nil =>
          have registered := isRegistered_of_mem_lines alternative
          have absent := solid.not_mem_of_mem_lines alternative
          rw [List.nil_append, begins_append absent] at begins
          simp only [← mem_firstSets_iff_begins registered] at begins
          cases begins with
          | inl begins =>
              have found := mem_firstSets_nonterminal.2 ⟨line, alternative, begins.2⟩
              exact .inl ⟨begins.1, found⟩
          | inr vanishes =>
              have found := mem_firstSets_nonterminal.2 ⟨line, alternative, vanishes.1⟩
              exact .inr ⟨found, vanishes.2⟩
      | cons symbol front ih =>
          cases symbol with
          | terminal text => exact begins
          | nonterminal other =>
              cases begins with
              | inl now => exact .inl now
              | inr later => exact .inr ⟨later.1, ih later.2⟩

theorem begins_of_derives (solid : grammar.HasNoEmptyTerminal) {before after : Line}
    (derives : grammar.Derives before after) (begins : grammar.Begins terminal after) :
    grammar.Begins terminal before := by
  induction derives with
  | refl => exact begins
  | tail _ step ih => exact ih (begins_of_step solid step begins)

theorem begins_of_canBegin (solid : grammar.HasNoEmptyTerminal)
    (begins : grammar.CanBegin line terminal) : grammar.Begins terminal line := by
  cases begins with
  | inl begins =>
      rcases begins with ⟨rest, derives⟩
      exact begins_of_derives solid derives rfl
  | inr vanishes => exact begins_of_derives solid vanishes.2 vanishes.1

/-- What the rules derive for a registered line is what can begin it. -/
theorem hasFirst_iff_canBegin (solid : grammar.HasNoEmptyTerminal)
    (registered : grammar.IsRegistered line) :
    grammar.HasFirst line terminal ↔ grammar.CanBegin line terminal := by
  constructor
  · intro derived
    exact derived.canBegin solid
  · intro begins
    have held := (mem_firstSets_iff_begins registered).2 (begins_of_canBegin solid begins)
    exact (mem_firstSets_iff_hasFirst.1 held).2

/-! ## FIRST sets -/

/-- FIRST sets are what derivations make of them: the set of a registered line
holds the terminals that can begin it, and `epsilon` exactly if it can vanish.
Other lines have the empty set. -/
theorem firstSets_eq_derivable_beginnings (grammar : Grammar) (solid : grammar.HasNoEmptyTerminal)
    (line : Line) :
    (grammar.IsRegistered line → ∀ terminal,
      (terminal ∈ grammar.firstSets.ofLine line ↔
        (∃ rest, grammar.Derives line (.terminal terminal :: rest)) ∨
          terminal = epsilon ∧ grammar.Derives line [])) ∧
      (¬ grammar.IsRegistered line → grammar.firstSets.ofLine line = ∅) := by
  constructor
  · intro registered terminal
    constructor
    · exact canBegin_of_mem_firstSets solid
    · intro begins
      exact (mem_firstSets_iff_begins registered).2 (begins_of_canBegin solid begins)
  · intro unregistered
    apply TerminalSet.ext
    intro terminal
    constructor
    · intro member
      exact absurd (mem_firstSets_iff_recompute.1 member).1 unregistered
    · intro member
      exact absurd member (TerminalSet.not_mem_empty terminal)

/-- A left-recursive list of items that can vanish, with a nonterminal that has
no rule and a rule that derives nothing. -/
def recursiveList : Grammar :=
  .ofRules (.ofEntries
    [("list", [[.nonterminal "list", .terminal ","], [.nonterminal "item", .terminal ";"]]),
      ("item", [[.terminal "x", .nonterminal "item"], [], [.nonterminal "gone"]]),
      ("loop", [[.nonterminal "loop"]])])

/-- An item can vanish, so a semicolon begins the list; a comma never does.  A
line that stands nowhere has no FIRST terminals. -/
theorem recursiveList_beginnings :
    recursiveList.HasNoEmptyTerminal ∧ recursiveList.IsRegistered [.nonterminal "list"] ∧
      ¬ recursiveList.IsRegistered [.nonterminal "list", .nonterminal "item"] ∧
      recursiveList.firstSets.ofLine [.nonterminal "list", .nonterminal "item"] = ∅ ∧
      (∃ rest, recursiveList.Derives [.nonterminal "list"] (.terminal ";" :: rest)) ∧
      ¬ ∃ rest, recursiveList.Derives [.nonterminal "list"] (.terminal "," :: rest) := by
  have solid : recursiveList.HasNoEmptyTerminal := by decide
  have registered : recursiveList.IsRegistered [.nonterminal "list"] := by decide
  have stranger :
      ¬ recursiveList.IsRegistered [.nonterminal "list", .nonterminal "item"] := by
    decide
  have meaning :=
    (firstSets_eq_derivable_beginnings recursiveList solid [.nonterminal "list"]).1 registered
  refine ⟨solid, registered, stranger, ?_, ?_, ?_⟩
  · exact (firstSets_eq_derivable_beginnings recursiveList solid _).2 stranger
  · have member : ";" ∈ recursiveList.firstSets.ofLine [.nonterminal "list"] := by decide +kernel
    cases (meaning ";").1 member with
    | inl derives => exact derives
    | inr vanishes => exact absurd vanishes.1 (by decide)
  · intro derives
    have absent : "," ∉ recursiveList.firstSets.ofLine [.nonterminal "list"] := by decide +kernel
    exact absent ((meaning ",").2 (.inl derives))

end Grammar

end Lookahead
