import Lookahead.Proofs.First.Rounds
import Lookahead.Proofs.Follow.Rounds
import Lookahead.Proofs.Renaming

/-!
# The sets of a mirrored grammar

What a round computes depends on a grammar through its productions alone, so the
rounds over a grammar and over one that mirrors it proceed side by side: their
FIRST and FOLLOW sets are those of the other under the new names.
-/

namespace Lookahead

namespace Grammar.Mirrors

variable {relabel : Renaming} {source mirror : Grammar}
variable (mirrors : Grammar.Mirrors relabel source mirror)

include mirrors

/-! ## FIRST sets -/

section First

variable {sets images : FirstSets}

/-- What begins the alternatives of a nonterminal begins them in the mirror. -/
theorem begins_alternative_iff
    (corresponds : sets.Corresponds relabel.line relabel.terminal images) {name : String}
    {terminal : Terminal} :
    (∃ line ∈ mirror.lines (relabel.name name), terminal ∈ images.setOf line) ↔
      ∃ origin, (∃ line ∈ source.lines name, origin ∈ sets.setOf line) ∧
        relabel.terminal origin = terminal := by
  constructor
  · intro given
    rcases given with ⟨_, alternative, member⟩
    obtain ⟨line, listed, rfl⟩ := (mirrors.lines name _).1 alternative
    rw [corresponds.sets, TerminalSet.mem_map] at member
    obtain ⟨origin, held, rfl⟩ := member
    exact ⟨origin, ⟨line, listed, held⟩, rfl⟩
  · intro given
    rcases given with ⟨origin, ⟨line, listed, held⟩, rfl⟩
    refine ⟨relabel.line line, (mirrors.lines name _).2 ⟨line, listed, rfl⟩, ?_⟩
    rw [corresponds.sets, TerminalSet.mem_map]
    exact ⟨origin, held, rfl⟩

theorem vanishes_alternative_iff
    (corresponds : sets.Corresponds relabel.line relabel.terminal images) {name : String} :
    (∃ line ∈ mirror.lines (relabel.name name), epsilon ∈ images.setOf line) ↔
      ∃ line ∈ source.lines name, epsilon ∈ sets.setOf line := by
  rw [mirrors.begins_alternative_iff corresponds]
  simp only [Renaming.terminal_eq_epsilon_iff, exists_eq_right]

/-- A round recomputes the FIRST set of a renamed line as it does that of the
line before. -/
theorem first_respects :
    Rounds.Respects relabel.line relabel.terminal (FirstSets.recompute source)
      (FirstSets.recompute mirror) := by
  intro sets images corresponds line
  ext terminal
  rw [TerminalSet.mem_map]
  cases line with
  | nil =>
      simp only [Renaming.line, List.map_nil, FirstSets.mem_recompute_nil, exists_eq_left,
        relabel.terminal_epsilon]
      exact eq_comm
  | cons symbol rest =>
      cases symbol with
      | terminal text =>
          simp only [Renaming.line, List.map_cons, Renaming.symbol,
            FirstSets.mem_recompute_terminal, exists_eq_left]
          exact eq_comm
      | nonterminal name =>
          have renamed : relabel.line (.nonterminal name :: rest) =
            .nonterminal (relabel.name name) :: relabel.line rest := rfl
          rw [renamed, FirstSets.mem_recompute_nonterminal,
            mirrors.vanishes_alternative_iff corresponds,
            mirrors.begins_alternative_iff corresponds, corresponds.sets, TerminalSet.mem_map]
          simp only [FirstSets.mem_recompute_nonterminal]
          constructor
          · intro given
            rcases given with ⟨visible, origin, begins, rfl⟩ | ⟨vanishes, origin, held, rfl⟩
            · exact ⟨origin, .inl ⟨mt Renaming.terminal_eq_epsilon_iff.2 visible, begins⟩, rfl⟩
            · exact ⟨origin, .inr ⟨vanishes, held⟩, rfl⟩
          · intro given
            rcases given with ⟨origin, ⟨visible, begins⟩ | ⟨vanishes, held⟩, rfl⟩
            · exact .inl ⟨mt Renaming.terminal_eq_epsilon_iff.1 visible, origin, begins, rfl⟩
            · exact .inr ⟨vanishes, origin, held, rfl⟩

theorem mem_suffixes_iff (line : Line) :
    line ∈ mirror.suffixes ↔ ∃ origin ∈ source.suffixes, relabel.line origin = line := by
  simp only [mem_suffixes]
  exact mirrors.isRegistered_iff

/-- The states of the FIRST iteration correspond one by one. -/
theorem first_states (limit : Nat) :
    List.Forall₂ (Table.Corresponds relabel.line relabel.terminal)
      ((Iteration.begin (FirstSets.initial source)).states (FirstSets.round source) limit)
      ((Iteration.begin (FirstSets.initial mirror)).states (FirstSets.round mirror) limit) :=
  (Rounds.simulates relabel.line_injective relabel.terminal_injective
    mirrors.first_respects).states (Rounds.constant_corresponds mirrors.mem_suffixes_iff) limit

theorem firstSets_corresponds :
    source.firstSets.Corresponds relabel.line relabel.terminal mirror.firstSets :=
  Rounds.saturate_corresponds relabel.line_injective relabel.terminal_injective
    mirrors.first_respects mirrors.mem_suffixes_iff first_settles first_settles_lt_limit
    first_settles first_settles_lt_limit

end First

/-! ## FOLLOW sets -/

section Follow

variable {firstSets firstImages : FirstSets}

omit mirrors in
theorem ofLine_image
    (corresponds : firstSets.Corresponds relabel.line relabel.terminal firstImages) (rest : Line) :
    firstImages.ofLine (relabel.line rest) = (firstSets.ofLine rest).map relabel.terminal :=
  corresponds.sets rest

omit mirrors in
theorem handsOn_iff
    (corresponds : firstSets.Corresponds relabel.line relabel.terminal firstImages) {rest : Line} :
    FollowSets.HandsOn firstImages (relabel.line rest) ↔ FollowSets.HandsOn firstSets rest := by
  have visible : ((firstSets.ofLine rest).map relabel.terminal).erase epsilon =
      ((firstSets.ofLine rest).erase epsilon).map relabel.terminal := by
    rw [TerminalSet.map_erase relabel.terminal_injective, relabel.terminal_epsilon]
  rw [FollowSets.HandsOn, ofLine_image corresponds, Renaming.epsilon_mem_map_iff, visible,
    TerminalSet.map_eq_empty_iff]
  exact Iff.rfl

variable (corresponds : firstSets.Corresponds relabel.line relabel.terminal firstImages)

include corresponds

theorem handsOver_iff {giver name : String} :
    FollowSets.HandsOver mirror firstImages giver (relabel.name name) ↔
      ∃ origin, FollowSets.HandsOver source firstSets origin name ∧ relabel.name origin = giver := by
  constructor
  · intro given
    rcases given with ⟨_, occurs, hands⟩
    obtain ⟨origin, rest, listed, rfl, rfl⟩ := mirrors.occurs_iff.1 occurs
    exact ⟨origin, ⟨rest, listed, (handsOn_iff corresponds).1 hands⟩, rfl⟩
  · intro given
    rcases given with ⟨origin, ⟨rest, listed, hands⟩, rfl⟩
    exact ⟨relabel.line rest, mirrors.occurs_iff.2 ⟨origin, rest, listed, rfl, rfl⟩,
      (handsOn_iff corresponds).2 hands⟩

theorem provides_iff {name : String} {terminal : Terminal} :
    FollowSets.Provides mirror firstImages (relabel.name name) terminal ↔
      ∃ origin, FollowSets.Provides source firstSets name origin ∧
        relabel.terminal origin = terminal := by
  constructor
  · intro given
    rcases given with ⟨rfl, starts⟩ | ⟨owner, _, occurs, begins, stays⟩
    · rw [mirrors.start] at starts
      exact ⟨epsilon, .inl ⟨rfl, relabel.name_injective starts⟩, relabel.terminal_epsilon⟩
    · obtain ⟨origin, rest, listed, _, rfl⟩ := mirrors.occurs_iff.1 occurs
      rw [ofLine_image corresponds, Renaming.epsilon_mem_map_iff] at stays
      rw [ofLine_image corresponds, TerminalSet.mem_map] at begins
      obtain ⟨terminal, held, rfl⟩ := begins
      exact ⟨terminal, .inr ⟨origin, rest, listed, held, stays⟩, rfl⟩
  · intro given
    rcases given with ⟨_, ⟨rfl, rfl⟩ | ⟨owner, rest, listed, held, stays⟩, rfl⟩
    · exact .inl ⟨relabel.terminal_epsilon, mirrors.start.symm⟩
    · refine .inr ⟨relabel.name owner, relabel.line rest,
        mirrors.occurs_iff.2 ⟨owner, rest, listed, rfl, rfl⟩, ?_⟩
      rw [ofLine_image corresponds, Renaming.epsilon_mem_map_iff]
      exact ⟨TerminalSet.mem_map.2 ⟨_, held, rfl⟩, stays⟩

/-- A round recomputes the FOLLOW set of a renamed nonterminal as it does that of
the nonterminal before. -/
theorem follow_respects :
    Rounds.Respects relabel.name relabel.terminal (FollowSets.recompute source firstSets)
      (FollowSets.recompute mirror firstImages) := by
  intro sets images states name
  ext terminal
  simp only [TerminalSet.mem_map, FollowSets.mem_recompute, mirrors.provides_iff corresponds,
    mirrors.handsOver_iff corresponds]
  constructor
  · intro given
    rcases given with ⟨origin, provided, rfl⟩ | ⟨_, ⟨giver, hands, rfl⟩, member⟩
    · exact ⟨origin, .inl provided, rfl⟩
    · rw [states.sets, TerminalSet.mem_map] at member
      obtain ⟨origin, held, rfl⟩ := member
      exact ⟨origin, .inr ⟨giver, hands, held⟩, rfl⟩
  · intro given
    rcases given with ⟨origin, provided | ⟨giver, hands, held⟩, rfl⟩
    · exact .inl ⟨origin, provided, rfl⟩
    · refine .inr ⟨relabel.name giver, ⟨giver, hands, rfl⟩, ?_⟩
      rw [states.sets, TerminalSet.mem_map]
      exact ⟨origin, held, rfl⟩

/-- The states of the FOLLOW iteration correspond one by one. -/
theorem follow_states (limit : Nat) :
    List.Forall₂ (Table.Corresponds relabel.name relabel.terminal)
      ((Iteration.begin (FollowSets.initial source)).states
        (FollowSets.round source firstSets) limit)
      ((Iteration.begin (FollowSets.initial mirror)).states
        (FollowSets.round mirror firstImages) limit) :=
  (Rounds.simulates relabel.name_injective relabel.terminal_injective
    (mirrors.follow_respects corresponds)).states
      (Rounds.constant_corresponds mirrors.names) limit

theorem followSetsFrom_corresponds :
    (source.followSetsFrom firstSets).Corresponds relabel.name relabel.terminal
      (mirror.followSetsFrom firstImages) :=
  Rounds.saturate_corresponds relabel.name_injective relabel.terminal_injective
    (mirrors.follow_respects corresponds) mirrors.names follow_settles follow_settles_lt_limit
    follow_settles follow_settles_lt_limit

end Follow

theorem followSets_corresponds :
    source.followSets.Corresponds relabel.name relabel.terminal mirror.followSets :=
  mirrors.followSetsFrom_corresponds mirrors.firstSets_corresponds

end Grammar.Mirrors

namespace Grammar

/-! ## Renaming -/

/-- The sets of a renamed grammar are the renamed sets.  Nonterminals and terminals
are renamed each for themselves, so one of either kind may get, or give up, the name
of one of the other kind. -/
theorem sets_rename (grammar : Grammar) (relabel : Renaming) :
    (∀ line, line ∈ (grammar.rename relabel).firstSets.keys ↔
      ∃ suffix ∈ grammar.suffixes, relabel.line suffix = line) ∧
    (∀ line, (grammar.rename relabel).firstSets.ofLine (relabel.line line) =
      (grammar.firstSets.ofLine line).map relabel.terminal) ∧
    (∀ name, name ∈ (grammar.rename relabel).followSets.keys ↔
      ∃ declared ∈ grammar.names, relabel.name declared = name) ∧
    (∀ name, (grammar.rename relabel).followSets.ofNonterminal (relabel.name name) =
      (grammar.followSets.ofNonterminal name).map relabel.terminal) := by
  have mirrors := mirrors_rename grammar relabel
  refine ⟨?_, mirrors.firstSets_corresponds.sets, ?_, mirrors.followSets_corresponds.sets⟩
  · intro line
    rw [mem_keys_firstSets]
    exact mirrors.mem_suffixes_iff line
  · intro name
    rw [followSets, mem_keys_followSetsFrom]
    exact mirrors.names name

/-- Nonterminals get a prime, and terminals keep their names. -/
def primed : Renaming :=
  { Renaming.identity with
    name := fun name => name ++ "'"
    name_injective := by
      intro left right same
      exact (String.append_left_inj "'").1 same }

/-- Nonterminals get a prime, and the two brackets change places. -/
def crossed : Renaming :=
  { primed with
    terminal := Equiv.swap "(" ")"
    terminal_injective := (Equiv.swap "(" ")").injective
    terminal_epsilon := by decide }

/-- Brackets around a terminal with the primed name of the nonterminal. -/
def bracketed : Grammar :=
  .ofRules (.ofEntries
    [("item", [[.terminal "(", .nonterminal "item", .terminal ")"], [.terminal "item'"]])])

/-- Under its new name the nonterminal still begins with the terminal of that name, which
does not follow it. -/
theorem bracketed_crossed :
    bracketed.firstSets.ofNonterminal "item" = .ofList ["(", "item'"] ∧
      bracketed.followSets.ofNonterminal "item" = .ofList ["", ")"] ∧
      [.nonterminal "item'"] ∈ (bracketed.rename crossed).firstSets.keys ∧
      (bracketed.rename crossed).firstSets.ofNonterminal "item'" = .ofList [")", "item'"] ∧
      "item'" ∈ (bracketed.rename crossed).followSets.keys ∧
      (bracketed.rename crossed).followSets.ofNonterminal "item'" = .ofList ["", "("] := by
  have firsts : bracketed.firstSets.ofNonterminal "item" = .ofList ["(", "item'"] := by
    decide +kernel
  have follows : bracketed.followSets.ofNonterminal "item" = .ofList ["", ")"] := by
    decide +kernel
  have primes : crossed.name "item" = "item'" := by decide
  have alone : crossed.line [.nonterminal "item"] = [.nonterminal "item'"] := by decide
  obtain ⟨suffixes, firstImages, names, followImages⟩ := sets_rename bracketed crossed
  refine ⟨firsts, follows, ?_, ?_, ?_, ?_⟩
  · exact (suffixes _).2 ⟨[.nonterminal "item"], by decide, alone⟩
  · rw [FirstSets.ofNonterminal, ← alone, firstImages, ← FirstSets.ofNonterminal, firsts]
    decide +kernel
  · exact (names _).2 ⟨"item", by decide, primes⟩
  · rw [← primes, followImages, follows]
    decide +kernel

/-! ## The same productions -/

/-- Two grammars have the same start symbol, declare the same nonterminals and give
each of them the same alternatives, in whatever order and however often. -/
structure SameProductions (left right : Grammar) : Prop where
  start : left.start = right.start
  names : ∀ name, name ∈ left.names ↔ name ∈ right.names
  lines : ∀ name line, line ∈ left.lines name ↔ line ∈ right.lines name

theorem sameProductions_iff {left right : Grammar} :
    (left.start = right.start ∧ left.names ⊆ right.names ∧ right.names ⊆ left.names ∧
      ∀ name ∈ left.names, left.lines name ⊆ right.lines name ∧
        right.lines name ⊆ left.lines name) ↔ left.SameProductions right := by
  constructor
  · intro given
    rcases given with ⟨start, forth, back, lines⟩
    refine ⟨start, fun name => ⟨@forth name, @back name⟩, ?_⟩
    intro name line
    constructor
    · intro member
      exact (lines name (mem_names_of_mem_lines member)).1 member
    · intro member
      exact (lines name (back (mem_names_of_mem_lines member))).2 member
  · intro same
    refine ⟨same.start, fun name => (same.names name).1, fun name => (same.names name).2, ?_⟩
    intro name _
    exact ⟨fun line => (same.lines name line).1, fun line => (same.lines name line).2⟩

instance (left right : Grammar) : Decidable (left.SameProductions right) :=
  decidable_of_iff _ sameProductions_iff

theorem SameProductions.mirrors {left right : Grammar} (same : left.SameProductions right) :
    Mirrors .identity left right := by
  constructor
  · exact same.start.symm
  · intro name
    simpa [Renaming.identity] using (same.names name).symm
  · intro name line
    rw [Renaming.line_identity]
    simpa [Renaming.identity] using (same.lines name line).symm

/-- Two grammars with the same productions have the same FIRST and FOLLOW sets, and
so has every state that the two iterations hand out. -/
theorem sets_eq_of_sameProductions {left right : Grammar} (same : left.SameProductions right) :
    left.firstSets.SameMap right.firstSets ∧
    (∀ limit, List.Forall₂ Table.SameMap
      ((Iteration.begin (FirstSets.initial left)).states (FirstSets.round left) limit)
      ((Iteration.begin (FirstSets.initial right)).states (FirstSets.round right) limit)) ∧
    (∀ limit, List.Forall₂ Table.SameMap
      ((Iteration.begin (FollowSets.initial left)).states
        (FollowSets.round left left.firstSets) limit)
      ((Iteration.begin (FollowSets.initial right)).states
        (FollowSets.round right right.firstSets) limit)) ∧
    left.followSets.SameMap right.followSets := by
  have mirrors := same.mirrors
  have first {sets images : FirstSets}
      (corresponds : sets.Corresponds Renaming.identity.line Renaming.identity.terminal images) :
      sets.SameMap images := by
    rw [Renaming.line_identity] at corresponds
    exact corresponds.sameMap
  refine ⟨first mirrors.firstSets_corresponds, ?_, ?_, mirrors.followSets_corresponds.sameMap⟩
  · intro limit
    exact (mirrors.first_states limit).imp fun _ _ => first
  · intro limit
    exact (mirrors.follow_states mirrors.firstSets_corresponds limit).imp fun _ _ =>
      Table.Corresponds.sameMap

/-- A sum of products. -/
def sums : Grammar :=
  .ofRules (.ofEntries
    [("sum", [[.nonterminal "product", .terminal "+", .nonterminal "sum"],
        [.nonterminal "product"]]),
      ("product", [[.terminal "x"], []])])

/-- The rules and the alternatives of `sums` in another order, one of them twice. -/
def reorderedSums : Grammar :=
  .withStart
    (.ofRules (.ofEntries
      [("product", [[], [.terminal "x"], []]),
        ("sum", [[.nonterminal "product"],
          [.nonterminal "product", .terminal "+", .nonterminal "sum"]])]))
    "sum"

/-- The two are different grammars and list their suffixes in different orders. -/
theorem reorderedSums_sets :
    sums.SameProductions reorderedSums ∧ sums.firstSets.keys ≠ reorderedSums.firstSets.keys ∧
      sums.firstSets.SameMap reorderedSums.firstSets ∧
      sums.followSets.SameMap reorderedSums.followSets ∧
      reorderedSums.firstSets.get? [.nonterminal "sum"] = some (.ofList ["", "+", "x"]) ∧
      reorderedSums.followSets.get? "product" = some (.ofList ["", "+"]) := by
  have same : sums.SameProductions reorderedSums := by decide
  have sets := sets_eq_of_sameProductions same
  have firsts : sums.firstSets.get? [.nonterminal "sum"] = some (.ofList ["", "+", "x"]) := by
    decide +kernel
  have follows : sums.followSets.get? "product" = some (.ofList ["", "+"]) := by
    decide +kernel
  exact ⟨same, by decide +kernel, sets.1, sets.2.2.2, (sets.1 _).symm.trans firsts,
    (sets.2.2.2 _).symm.trans follows⟩

end Grammar

end Lookahead
