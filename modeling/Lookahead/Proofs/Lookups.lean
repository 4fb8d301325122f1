import Lookahead.Proofs.First.Beginnings
import Lookahead.Proofs.Follow.Rounds

/-!
# Lookups of sets

A line without a set counts as one with the empty set, and where the empty set is found
after a nonterminal, a FOLLOW round hands over the owner's set.  So a suffix that was
forgotten would change FOLLOW sets without a word.  None is: the keys stay the same in
all rounds, and what is looked up for a key is a key itself.  To say so, the rounds are
written once more with lookups that may have effects; lookups that fail for a missing key
come to the same sets as those that give the empty set for it.
-/

namespace Lookahead

variable {Effect : Type → Type} [Monad Effect]

/-! ## Rounds with effects -/

namespace Rounds

variable {Key : Type}

/-- The entries after one round, the sets being recomputed with effects. -/
def entriesVia (recompute : Key → Effect TerminalSet) (sets : Table Key TerminalSet) :
    Effect (List (Key × TerminalSet)) :=
  sets.keys.mapM fun key => return (key, ← recompute key)

variable [LawfulMonad Effect]

theorem mapM_eq_pure {α β : Type} {compute : α → Effect β} {image : α → β} {items : List α}
    (plain : ∀ item ∈ items, compute item = pure (image item)) :
    items.mapM compute = pure (items.map image) := by
  induction items with
  | nil => rfl
  | cons item items ih =>
      have later := ih fun other member => plain other (List.mem_cons_of_mem item member)
      rw [List.mapM_cons, plain item List.mem_cons_self, later]
      simp only [pure_bind, List.map_cons]

/-- Where recomputing has no effects, neither has the round. -/
theorem entriesVia_eq_pure {recompute : Table Key TerminalSet → Key → TerminalSet}
    {effectful : Key → Effect TerminalSet} {sets : Table Key TerminalSet}
    (plain : ∀ key ∈ sets.keys, effectful key = pure (recompute sets key)) :
    entriesVia effectful sets = pure (round recompute sets).entries := by
  have entries : (round recompute sets).entries =
      sets.keys.map fun key => (key, recompute sets key) := by
    rw [Table.keys, List.map_map]
    rfl
  rw [entries, entriesVia]
  apply mapM_eq_pure
  intro key listed
  rw [plain key listed, pure_bind]

end Rounds

/-! ## FIRST sets -/

namespace FirstSets

variable {grammar : Grammar} {sets : FirstSets} {line : Line}

/-- The set of a line as the sets of one round determine it for the next, these being
looked up with effects.  Without effects this is `recompute`. -/
def recomputeVia (grammar : Grammar) (lookUp : Line → Effect TerminalSet) :
    Line → Effect TerminalSet
  | [] => return .singleton epsilon
  | .terminal text :: _ => return .singleton text
  | .nonterminal name :: rest => do
      let heads := TerminalSet.unions (← (grammar.lines name).mapM lookUp)
      if epsilon ∈ heads then return heads.erase epsilon ∪ (← lookUp rest)
      else return heads.erase epsilon

/-- Only alternatives and the rest of the line are looked up. -/
theorem recomputeVia_eq_pure [LawfulMonad Effect] {lookUp : Line → Effect TerminalSet}
    (alternatives : ∀ name, ∀ line ∈ grammar.lines name, lookUp line = pure (sets.ofLine line))
    (rest : lookUp line.tail = pure (sets.ofLine line.tail)) :
    recomputeVia grammar lookUp line = pure (recompute grammar sets line) := by
  cases line with
  | nil => rfl
  | cons symbol tail =>
      cases symbol with
      | terminal text => rfl
      | nonterminal name =>
          rw [List.tail_cons] at rest
          simp only [recomputeVia, recompute, Rounds.mapM_eq_pure (alternatives name), rest,
            pure_bind]
          split <;> rfl

/-- Every lookup that recomputes a set of the table finds a key of the table. -/
structure FindsKeys (grammar : Grammar) (sets : FirstSets) : Prop where
  /-- The keys are those of the first state. -/
  sameKeys : sets.keys = (initial grammar).keys
  alternatives : ∀ name, ∀ line ∈ grammar.lines name, line ∈ sets.keys
  nonterminals : ∀ name ∈ grammar.names, [.nonterminal name] ∈ sets.keys
  rests : ∀ symbol rest, symbol :: rest ∈ sets.keys → rest ∈ sets.keys
  /-- The round is made with lookups that give the empty set for a missing key. -/
  lenient : Id.run (Rounds.entriesVia (recomputeVia grammar fun line => pure (sets.ofLine line))
    sets) = (round grammar sets).entries
  /-- With lookups that fail for a missing key it comes to the same. -/
  strict : Rounds.entriesVia (recomputeVia grammar sets.get?) sets =
    some (round grammar sets).entries

/-- A table of all registered lines finds its keys. -/
theorem findsKeys_of_sameKeys (sameKeys : sets.keys = (initial grammar).keys) :
    sets.FindsKeys grammar := by
  have listed {line : Line} : line ∈ sets.keys ↔ grammar.IsRegistered line := by
    rw [sameKeys, initial, Table.mem_keys_constant, Grammar.mem_suffixes]
  have tail {line : Line} (member : line ∈ sets.keys) : line.tail ∈ sets.keys := by
    rw [listed] at member ⊢
    cases line with
    | nil => exact member
    | cons symbol rest => exact member.tail
  have alternatives (name : String) (line : Line) (member : line ∈ grammar.lines name) :
      line ∈ sets.keys :=
    listed.2 (Grammar.isRegistered_of_mem_lines member)
  constructor
  · exact sameKeys
  · exact alternatives
  · intro name declared
    exact listed.2 (.inr (.inl ⟨name, declared, rfl⟩))
  · intro symbol rest member
    exact tail member
  · apply Rounds.entriesVia_eq_pure
    intro line _
    exact recomputeVia_eq_pure (fun _ _ _ => rfl) rfl
  · -- What is looked up for a key is a key, so no lookup fails.
    apply Rounds.entriesVia_eq_pure
    intro line member
    apply recomputeVia_eq_pure
    · intro name alternative listed
      exact Table.get?_eq_some_setOf (alternatives name alternative listed)
    · exact Table.get?_eq_some_setOf (tail member)

end FirstSets

/-! ## FOLLOW sets -/

namespace FollowSets

variable {grammar : Grammar} {firstSets : FirstSets} {sets : FollowSets} {name : String}

/-- What one ending gives to the nonterminal before it, the sets being looked up with
effects. -/
def contributionVia (lookUpFirst : Line → Effect TerminalSet)
    (lookUp : String → Effect TerminalSet) (ending : Grammar.Ending) : Effect TerminalSet := do
  let beginnings ← lookUpFirst ending.rest
  if beginnings.erase epsilon = ∅ ∨ epsilon ∈ beginnings then lookUp ending.owner
  else return beginnings.erase epsilon

/-- The set of a nonterminal as the sets of one round determine it for the next, these
being looked up with effects.  Without effects this is `recompute`. -/
def recomputeVia (grammar : Grammar) (lookUpFirst : Line → Effect TerminalSet)
    (lookUp : String → Effect TerminalSet) (name : String) : Effect TerminalSet := do
  let seed : TerminalSet := if name = grammar.start then .singleton epsilon else ∅
  return seed ∪ .unions (← (grammar.endings name).mapM (contributionVia lookUpFirst lookUp))

/-- Only endings and their owners are looked up. -/
theorem recomputeVia_eq_pure [LawfulMonad Effect] {lookUpFirst : Line → Effect TerminalSet}
    {lookUp : String → Effect TerminalSet}
    (rests : ∀ ending ∈ grammar.endings name,
      lookUpFirst ending.rest = pure (firstSets.ofLine ending.rest))
    (owners : ∀ ending ∈ grammar.endings name,
      lookUp ending.owner = pure (sets.ofNonterminal ending.owner)) :
    recomputeVia grammar lookUpFirst lookUp name =
      pure (recompute grammar firstSets sets name) := by
  have contributions : ∀ ending ∈ grammar.endings name,
      contributionVia lookUpFirst lookUp ending = pure (contribution firstSets sets ending) := by
    intro ending member
    simp only [contributionVia, contribution, rests ending member, owners ending member, pure_bind]
    split <;> rfl
  rw [recomputeVia, Rounds.mapM_eq_pure contributions, pure_bind]
  rfl

/-- Every lookup that recomputes a set of the table finds a key, be it of the table or of
the given FIRST sets. -/
structure FindsKeys (grammar : Grammar) (firstSets : FirstSets) (sets : FollowSets) : Prop where
  owners : ∀ name, ∀ ending ∈ grammar.endings name, ending.owner ∈ sets.keys
  rests : ∀ name, ∀ ending ∈ grammar.endings name, ending.rest ∈ firstSets.keys
  /-- The round is made with lookups that give the empty set for a missing key. -/
  lenient : Id.run (Rounds.entriesVia (recomputeVia grammar
    (fun line => pure (firstSets.ofLine line)) fun name => pure (sets.ofNonterminal name)) sets) =
      (round grammar firstSets sets).entries
  /-- With lookups that fail for a missing key it comes to the same. -/
  strict : Rounds.entriesVia (recomputeVia grammar firstSets.get? sets.get?) sets =
    some (round grammar firstSets sets).entries

/-- The owner of an ending has a rule. -/
theorem owner_mem_keys (sameKeys : sets.keys = (initial grammar).keys)
    {ending : Grammar.Ending} (member : ending ∈ grammar.endings name) :
    ending.owner ∈ sets.keys := by
  rw [sameKeys, initial, Table.mem_keys_constant]
  obtain ⟨front, alternative⟩ := Grammar.mem_endings.1 member
  exact Grammar.mem_names_of_mem_lines alternative

theorem rest_mem_keys {ending : Grammar.Ending} (member : ending ∈ grammar.endings name) :
    ending.rest ∈ grammar.firstSets.keys := by
  rw [Grammar.mem_keys_firstSets, Grammar.mem_suffixes]
  exact Grammar.isRegistered_of_occurs (Grammar.mem_endings.1 member)

/-- A table of all declared nonterminals finds its keys, and those of the grammar's own
FIRST sets. -/
theorem findsKeys_of_sameKeys (sameKeys : sets.keys = (initial grammar).keys) :
    sets.FindsKeys grammar grammar.firstSets := by
  constructor
  · intro name ending member
    exact owner_mem_keys sameKeys member
  · intro name ending member
    exact rest_mem_keys member
  · apply Rounds.entriesVia_eq_pure
    intro name _
    exact recomputeVia_eq_pure (fun _ _ => rfl) (fun _ _ => rfl)
  · apply Rounds.entriesVia_eq_pure
    intro name _
    apply recomputeVia_eq_pure
    · intro ending member
      exact Table.get?_eq_some_setOf (rest_mem_keys member)
    · intro ending member
      exact Table.get?_eq_some_setOf (owner_mem_keys sameKeys member)

end FollowSets

/-! ## All rounds -/

namespace Grammar

/-- No lookup of any round misses.  All states of the FIRST sets have the same keys, and
what is looked up for a key is a key.  A FOLLOW round looks up owners, which are keys of
its state whatever FIRST sets are given, and endings, which are keys of the FIRST sets of
the grammar.  So if the FIRST set of an ending is empty, the rules derive nothing for it:
unless there are terminals without characters, it can neither begin with a terminal nor
vanish. -/
theorem lookups_find_keys (grammar : Grammar) :
    (∀ limit, ∀ sets ∈ (Iteration.begin (FirstSets.initial grammar)).states
        (FirstSets.round grammar) limit, FirstSets.FindsKeys grammar sets) ∧
      (∀ firstSets limit, ∀ sets ∈ (Iteration.begin (FollowSets.initial grammar)).states
        (FollowSets.round grammar firstSets) limit,
          ∀ name, ∀ ending ∈ grammar.endings name, ending.owner ∈ sets.keys) ∧
      (∀ limit, ∀ sets ∈ (Iteration.begin (FollowSets.initial grammar)).states
        (FollowSets.round grammar grammar.firstSets) limit,
          FollowSets.FindsKeys grammar grammar.firstSets sets) ∧
      ∀ name, ∀ ending ∈ grammar.endings name,
        (grammar.firstSets.ofLine ending.rest = ∅ ↔
          ∀ terminal, ¬ grammar.HasFirst ending.rest terminal) ∧
        (grammar.HasNoEmptyTerminal →
          (grammar.firstSets.ofLine ending.rest = ∅ ↔
            ∀ terminal, ¬ grammar.CanBegin ending.rest terminal)) := by
  refine ⟨?_, ?_, ?_, ?_⟩
  · intro limit sets state
    exact FirstSets.findsKeys_of_sameKeys (Rounds.keys_of_mem_states state)
  · intro firstSets limit sets state name ending member
    exact FollowSets.owner_mem_keys (Rounds.keys_of_mem_states state) member
  · intro limit sets state
    exact FollowSets.findsKeys_of_sameKeys (Rounds.keys_of_mem_states state)
  · intro name ending member
    have registered := isRegistered_of_occurs (mem_endings.1 member)
    have nothing := setOf_firstSets_eq_empty_iff registered
    constructor
    · exact nothing
    · intro solid
      simp only [← hasFirst_iff_canBegin solid registered]
      exact nothing

/-- A list with a tail that has no rule, as one of the items has none. -/
def unfinishedList : Grammar :=
  .ofRules (.ofEntries
    [("list", [[.nonterminal "item", .nonterminal "list", .nonterminal "tail"], []]),
      ("item", [[.terminal "x"], [.nonterminal "gone"]])])

/-- The FIRST set of the tail is there and empty, so nothing begins the tail.  Lookups that
fail for missing keys go through the second round of either kind, but not through a
round over the list alone. -/
theorem unfinishedList_lookups :
    unfinishedList.HasNoEmptyTerminal ∧
      ⟨"list", [.nonterminal "tail"]⟩ ∈ unfinishedList.endings "list" ∧
      unfinishedList.firstSets.get? [.nonterminal "tail"] = some ∅ ∧
      (∀ terminal, ¬ unfinishedList.CanBegin [.nonterminal "tail"] terminal) ∧
      FirstSets.FindsKeys unfinishedList
        (FirstSets.round unfinishedList (FirstSets.initial unfinishedList)) ∧
      FollowSets.FindsKeys unfinishedList unfinishedList.firstSets
        (FollowSets.round unfinishedList unfinishedList.firstSets
          (FollowSets.initial unfinishedList)) ∧
      "list" ∈ (FollowSets.initial unfinishedList).keys ∧
      Rounds.entriesVia (FirstSets.recomputeVia unfinishedList
        (Table.constant [[.nonterminal "list"]] ∅ : FirstSets).get?)
          (Table.constant [[.nonterminal "list"]] (∅ : TerminalSet)) = none := by
  have solid : unfinishedList.HasNoEmptyTerminal := by decide
  have ending : ⟨"list", [.nonterminal "tail"]⟩ ∈ unfinishedList.endings "list" := by decide
  have found : unfinishedList.firstSets.get? [.nonterminal "tail"] = some ∅ := by decide +kernel
  have firstState : FirstSets.round unfinishedList (FirstSets.initial unfinishedList) ∈
      (Iteration.begin (FirstSets.initial unfinishedList)).states
        (FirstSets.round unfinishedList) 2 := by
    decide +kernel
  have followState : FollowSets.round unfinishedList unfinishedList.firstSets
        (FollowSets.initial unfinishedList) ∈
      (Iteration.begin (FollowSets.initial unfinishedList)).states
        (FollowSets.round unfinishedList unfinishedList.firstSets) 2 := by
    decide +kernel
  have followStart : FollowSets.initial unfinishedList ∈
      (Iteration.begin (FollowSets.initial unfinishedList)).states
        (FollowSets.round unfinishedList .empty) 1 := by
    decide +kernel
  have empty : unfinishedList.firstSets.ofLine [.nonterminal "tail"] = ∅ := by
    rw [FirstSets.ofLine, found, Option.getD_some]
  obtain ⟨first, owners, follow, endings⟩ := lookups_find_keys unfinishedList
  refine ⟨solid, ending, found, ?_, first 2 _ firstState, follow 2 _ followState, ?_, ?_⟩
  · exact ((endings "list" _ ending).2 solid).1 empty
  · exact owners .empty 1 _ followStart "list" _ ending
  · decide +kernel

end Grammar

end Lookahead
