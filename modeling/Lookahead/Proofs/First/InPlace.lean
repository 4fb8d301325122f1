import Lookahead.First.InPlace
import Lookahead.Proofs.First.Beginnings
import Mathlib.Data.Finset.Union

/-!
# FIRST sets in place and in rounds

Sweeping in place and recomputing in rounds reach the same FIRST sets on different
ways.  Whatever a sweep finds is in the FIRST sets, and tables that a whole sweep
leaves alone hold everything that any round finds.  A sweep that changes the tables
adds to them, so sweeping comes to its end.
-/

namespace Lookahead

namespace Table

variable {Key : Type} [DecidableEq Key]

/-- The members of all sets, each with its key. -/
def facts (sets : Table Key TerminalSet) : Finset (Key × Terminal) :=
  sets.keys.toFinset.biUnion fun key =>
    ((sets.setOf key).members.map fun terminal => (key, terminal)).toFinset

theorem mem_facts {sets : Table Key TerminalSet} {key : Key} {terminal : Terminal} :
    (key, terminal) ∈ sets.facts ↔ terminal ∈ sets.setOf key := by
  simp only [facts, Finset.mem_biUnion, List.mem_toFinset, List.mem_map, Prod.mk.injEq]
  constructor
  · intro given
    rcases given with ⟨_, _, _, member, rfl, rfl⟩
    exact member
  · intro member
    exact ⟨key, mem_keys_of_mem_setOf member, terminal, member, rfl, rfl⟩

theorem Within.facts_subset {left right : Table Key TerminalSet} (within : left.Within right) :
    left.facts ⊆ right.facts := by
  rintro ⟨key, terminal⟩ member
  exact mem_facts.2 (within key terminal (mem_facts.1 member))

theorem Within.card_facts_lt {left right : Table Key TerminalSet} (within : left.Within right)
    (more : ¬ right.Within left) : left.facts.card < right.facts.card := by
  apply Finset.card_lt_card
  apply Finset.ssubset_iff_subset_ne.2 ⟨within.facts_subset, _⟩
  intro same
  apply more
  intro key terminal member
  rw [← mem_facts] at member ⊢
  rwa [same]

end Table

namespace InPlace

variable {grammar : Grammar} {tables : Tables} {known new : Known} {sweep before after : Sweep}
variable {owner name : String} {line rest : Line} {terminal : Terminal}

/-! ## Tables -/

theorem mem_beginnings :
    terminal ∈ known.beginnings ↔
      terminal ∈ known.terminals ∨ terminal = epsilon ∧ known.vanishes = true := by
  rw [Known.beginnings]
  split
  · next vanishes => rw [TerminalSet.mem_insert, or_comm, and_iff_left vanishes]
  · next stays => simp [stays]

theorem mem_beginnings_union {found : TerminalSet} :
    terminal ∈ Known.beginnings { known with terminals := known.terminals ∪ found } ↔
      terminal ∈ known.beginnings ∨ terminal ∈ found := by
  simp only [mem_beginnings, TerminalSet.mem_union]
  rw [or_right_comm]

theorem mem_beginnings_vanishing :
    terminal ∈ Known.beginnings { known with vanishes := true } ↔
      terminal ∈ known.beginnings ∨ terminal = epsilon := by
  simp only [mem_beginnings, and_true, or_assoc]
  apply or_congr_right
  constructor
  · exact .inr
  · exact fun vanishes => vanishes.elim And.left id

theorem setOf_firstSets (entry : tables.get? name = some known) :
    tables.firstSets.setOf name = known.beginnings := by
  rw [Table.setOf, Tables.firstSets, Table.get?_mapEntries, entry, Option.map_some,
    Option.getD_some]

theorem setOf_firstSets_insert :
    (Tables.firstSets (tables.insert owner new)).setOf name =
      if name = owner then new.beginnings else tables.firstSets.setOf name := by
  simp only [Table.setOf, Tables.firstSets, Table.get?_mapEntries, Table.get?_insert]
  split <;> rfl

/-- The tables have an entry for each declared nonterminal, and nothing in it is
wrong. -/
structure Tables.Sound (grammar : Grammar) (tables : Tables) : Prop where
  keys : tables.keys = grammar.names
  terminals : ∀ {name known}, tables.get? name = some known →
    ∀ {terminal}, terminal ∈ known.terminals →
      terminal ≠ epsilon ∧ terminal ∈ grammar.firstSets.setOf [.nonterminal name]
  vanishes : ∀ {name known}, tables.get? name = some known → known.vanishes = true →
    epsilon ∈ grammar.firstSets.setOf [.nonterminal name]

namespace Tables.Sound

theorem initial (grammar : Grammar) : (Tables.initial grammar).Sound grammar := by
  have empty {name : String} {known : Known}
      (entry : (Tables.initial grammar).get? name = some known) : known = ⟨∅, false⟩ := by
    rw [Tables.initial, Table.get?_mapEntries, Option.map_eq_some_iff] at entry
    obtain ⟨_, _, same⟩ := entry
    exact same.symm
  constructor
  · exact Table.keys_mapEntries _ grammar.rules
  · intro name known entry terminal member
    rw [empty entry] at member
    exact absurd member (TerminalSet.not_mem_empty terminal)
  · intro name known entry vanishes
    rw [empty entry] at vanishes
    cases vanishes

theorem exists_entry (sound : tables.Sound grammar) (declared : name ∈ grammar.names) :
    ∃ known, tables.get? name = some known := by
  rw [← sound.keys, ← Table.isSome_get?_iff] at declared
  exact Option.isSome_iff_exists.1 declared

/-- What the tables hold is in the FIRST sets. -/
theorem mem_firstSets (sound : tables.Sound grammar)
    (member : terminal ∈ tables.firstSets.setOf name) :
    terminal ∈ grammar.firstSets.setOf [.nonterminal name] := by
  have listed := Table.mem_keys_of_mem_setOf member
  rw [firstSets, Table.keys_mapEntries, sound.keys] at listed
  obtain ⟨known, entry⟩ := sound.exists_entry listed
  rw [setOf_firstSets entry, mem_beginnings] at member
  cases member with
  | inl begins => exact (sound.terminals entry begins).2
  | inr vanishes => exact vanishes.1 ▸ sound.vanishes entry vanishes.2

/-- Only a nonterminal that is known to vanish has `epsilon`. -/
theorem vanishes_iff (sound : tables.Sound grammar) (entry : tables.get? name = some known) :
    known.vanishes = true ↔ epsilon ∈ tables.firstSets.setOf name := by
  rw [setOf_firstSets entry, mem_beginnings]
  constructor
  · intro vanishes
    exact .inr ⟨rfl, vanishes⟩
  · intro member
    cases member with
    | inl begins => exact absurd rfl (sound.terminals entry begins).1
    | inr vanishes => exact vanishes.2

/-- An entry may be replaced by one in which nothing is wrong. -/
theorem insert (sound : tables.Sound grammar) (declared : owner ∈ grammar.names)
    (terminals : ∀ {terminal}, terminal ∈ new.terminals →
      terminal ≠ epsilon ∧ terminal ∈ grammar.firstSets.setOf [.nonterminal owner])
    (vanishes : new.vanishes = true → epsilon ∈ grammar.firstSets.setOf [.nonterminal owner]) :
    Tables.Sound grammar (tables.insert owner new) := by
  constructor
  · rw [Table.keys_insert, sound.keys, if_pos declared]
  · intro name known entry terminal member
    rw [Table.get?_insert] at entry
    split at entry
    · next same =>
        cases entry
        exact same ▸ terminals member
    · exact sound.terminals entry member
  · intro name known entry gone
    rw [Table.get?_insert] at entry
    split at entry
    · next same =>
        cases entry
        exact same ▸ vanishes gone
    · exact sound.vanishes entry gone

end Tables.Sound

/-! ## One sweep -/

/-- A sweep goes on to sound tables that hold no less, and notes whether they hold
more. -/
structure Sweep.Advances (grammar : Grammar) (before after : Sweep) : Prop where
  sound : after.tables.Sound grammar
  within : before.tables.firstSets.Within after.tables.firstSets
  changed_iff : after.changed = true ↔
    before.changed = true ∨ ¬ after.tables.firstSets.Within before.tables.firstSets

namespace Sweep

theorem Advances.refl (sound : sweep.tables.Sound grammar) : sweep.Advances grammar sweep := by
  have same := Table.Within.refl sweep.tables.firstSets
  exact ⟨sound, same, by simp [same]⟩

theorem Advances.trans {middle : Sweep} (first : before.Advances grammar middle)
    (second : middle.Advances grammar after) : before.Advances grammar after := by
  constructor
  · exact second.sound
  · exact first.within.trans second.within
  · rw [second.changed_iff, first.changed_iff, or_assoc]
    apply or_congr_right
    rw [← not_and_or, not_iff_not]
    constructor
    · intro given
      rcases given with ⟨earlier, later⟩
      exact later.trans earlier
    · intro back
      exact ⟨second.within.trans back, back.trans first.within⟩

/-- A sweep advances by replacing an entry, if it notes that there is something new
in it. -/
theorem Advances.insert (entry : sweep.tables.get? owner = some known)
    (sound : Tables.Sound grammar (sweep.tables.insert owner new))
    (grows : ∀ terminal, terminal ∈ known.beginnings → terminal ∈ new.beginnings)
    {changed : Bool}
    (noted : changed = true ↔
      sweep.changed = true ∨ ∃ terminal ∈ new.beginnings, terminal ∉ known.beginnings) :
    sweep.Advances grammar ⟨sweep.tables.insert owner new, changed⟩ := by
  have held := setOf_firstSets entry
  constructor
  · exact sound
  · intro name terminal member
    rw [setOf_firstSets_insert]
    split
    · next same =>
        rw [same, held] at member
        exact grows terminal member
    · exact member
  · rw [noted]
    apply or_congr_right
    constructor
    · intro given back
      rcases given with ⟨terminal, member, absent⟩
      apply absent
      rw [← held]
      apply back owner terminal
      rwa [setOf_firstSets_insert, if_pos rfl]
    · intro more
      by_contra nothing
      apply more
      intro name terminal member
      rw [setOf_firstSets_insert] at member
      split at member
      · next same =>
          rw [same, held]
          by_contra absent
          exact nothing ⟨terminal, member, absent⟩
      · exact member

/-- Terminals that begin a nonterminal can be added to its entry. -/
theorem exists_addTerminals (sound : sweep.tables.Sound grammar)
    (declared : owner ∈ grammar.names) (found : TerminalSet)
    (begins : ∀ {terminal}, terminal ∈ found →
      terminal ≠ epsilon ∧ terminal ∈ grammar.firstSets.setOf [.nonterminal owner]) :
    ∃ after, sweep.addTerminals owner found = some after ∧ sweep.Advances grammar after ∧
      ∀ terminal, terminal ∈ found → terminal ∈ after.tables.firstSets.setOf owner := by
  obtain ⟨known, entry⟩ := sound.exists_entry declared
  refine ⟨_, by rw [addTerminals, entry]; rfl, ?_, ?_⟩
  · apply Advances.insert entry
    · apply sound.insert declared
      · intro terminal member
        cases TerminalSet.mem_union.1 member with
        | inl old => exact sound.terminals entry old
        | inr new => exact begins new
      · intro vanishes
        exact sound.vanishes entry vanishes
    · intro terminal member
      exact mem_beginnings_union.2 (.inl member)
    · rw [Bool.or_eq_true, List.any_eq_true]
      apply or_congr_right
      constructor
      · intro given
        rcases given with ⟨terminal, member, absent⟩
        refine ⟨terminal, mem_beginnings_union.2 (.inr member), ?_⟩
        rw [mem_beginnings, not_or]
        exact ⟨of_decide_eq_true absent, fun vanishes => (begins member).1 vanishes.1⟩
      · intro given
        rcases given with ⟨terminal, member, absent⟩
        have new := (mem_beginnings_union.1 member).resolve_left absent
        rw [mem_beginnings, not_or] at absent
        exact ⟨terminal, new, decide_eq_true absent.1⟩
  · intro terminal member
    rw [setOf_firstSets_insert, if_pos rfl]
    exact mem_beginnings_union.2 (.inr member)

/-- A nonterminal that can vanish can be noted to do so. -/
theorem exists_addVanishing (sound : sweep.tables.Sound grammar)
    (declared : owner ∈ grammar.names)
    (vanishes : epsilon ∈ grammar.firstSets.setOf [.nonterminal owner]) :
    ∃ after, sweep.addVanishing owner = some after ∧ sweep.Advances grammar after ∧
      epsilon ∈ after.tables.firstSets.setOf owner := by
  obtain ⟨known, entry⟩ := sound.exists_entry declared
  cases noted : known.vanishes with
  | true =>
      refine ⟨sweep, ?_, .refl sound, (sound.vanishes_iff entry).1 noted⟩
      simp [addVanishing, entry, noted]
  | false =>
      have absent : epsilon ∉ known.beginnings := by
        rw [← setOf_firstSets entry, ← sound.vanishes_iff entry, noted]
        exact Bool.false_ne_true
      refine ⟨⟨sweep.tables.insert owner ⟨known.terminals, true⟩, true⟩, ?_, ?_, ?_⟩
      · simp [addVanishing, entry, noted]
      · apply Advances.insert entry
        · apply sound.insert declared
          · intro terminal member
            exact sound.terminals entry member
          · intro _
            exact vanishes
        · intro terminal member
          exact mem_beginnings_vanishing.2 (.inl member)
        · apply iff_of_true rfl
          exact .inr ⟨epsilon, mem_beginnings_vanishing.2 (.inr rfl), absent⟩
      · rw [setOf_firstSets_insert, if_pos rfl]
        exact mem_beginnings_vanishing.2 (.inr rfl)

end Sweep

/-! ## Lines -/

/-- What begins a line, as sets for its nonterminals determine it. -/
def Begins (sets : Table String TerminalSet) (terminal : Terminal) : Line → Prop
  | [] => terminal = epsilon
  | .terminal text :: _ => terminal = text
  | .nonterminal name :: rest =>
      terminal ≠ epsilon ∧ terminal ∈ sets.setOf name ∨
        epsilon ∈ sets.setOf name ∧ Begins sets terminal rest

theorem Begins.mono {left right : Table String TerminalSet} (within : left.Within right)
    (begins : Begins left terminal line) : Begins right terminal line := by
  induction line with
  | nil => exact begins
  | cons symbol rest ih =>
      cases symbol with
      | terminal text => exact begins
      | nonterminal name =>
          cases begins with
          | inl now => exact .inl ⟨now.1, within name terminal now.2⟩
          | inr later => exact .inr ⟨within name epsilon later.1, ih later.2⟩

/-- A sweep gets over an alternative, and then has what began it before. -/
theorem Sweep.exists_overLine (sound : sweep.tables.Sound grammar)
    (declared : owner ∈ grammar.names) (closed : ∀ name, .nonterminal name ∈ line →
      name ∈ grammar.names) (solid : Symbol.terminal epsilon ∉ line)
    (begins : ∀ terminal, grammar.Begins terminal line →
      terminal ∈ grammar.firstSets.setOf [.nonterminal owner]) :
    ∃ after, overLine owner line sweep = some after ∧ sweep.Advances grammar after ∧
      ∀ terminal, Begins sweep.tables.firstSets terminal line →
        terminal ∈ after.tables.firstSets.setOf owner := by
  induction line generalizing sweep with
  | nil =>
      obtain ⟨after, done, advances, held⟩ :=
        exists_addVanishing sound declared (begins epsilon rfl)
      refine ⟨after, done, advances, ?_⟩
      intro terminal vanishes
      exact vanishes ▸ held
  | cons symbol rest ih =>
      rw [List.mem_cons, not_or] at solid
      cases symbol with
      | terminal text =>
          have visible : text ≠ epsilon := by
            intro marker
            exact solid.1 (congrArg Symbol.terminal marker.symm)
          obtain ⟨after, done, advances, held⟩ :=
            exists_addTerminals sound declared (.singleton text) (by
              intro terminal member
              rw [TerminalSet.mem_singleton] at member
              exact ⟨member ▸ visible, begins terminal member⟩)
          refine ⟨after, by simp [overLine, symbol?, done], advances, ?_⟩
          intro terminal same
          exact held terminal (TerminalSet.mem_singleton.2 same)
      | nonterminal name =>
          obtain ⟨known, entry⟩ := sound.exists_entry (closed name List.mem_cons_self)
          obtain ⟨middle, added, advances, held⟩ :=
            exists_addTerminals sound declared known.terminals (by
              intro terminal member
              have first := sound.terminals entry member
              exact ⟨first.1, begins terminal (.inl first)⟩)
          have now {terminal : Terminal} (visible : terminal ≠ epsilon)
              (member : terminal ∈ sweep.tables.firstSets.setOf name) :
              terminal ∈ middle.tables.firstSets.setOf owner := by
            rw [setOf_firstSets entry, mem_beginnings] at member
            exact held terminal (member.resolve_right fun vanishes => visible vanishes.1)
          cases noted : known.vanishes with
          | false =>
              refine ⟨middle, by simp [overLine, symbol?, entry, added, noted], advances, ?_⟩
              intro terminal found
              cases found with
              | inl found => exact now found.1 found.2
              | inr later =>
                  rw [← sound.vanishes_iff entry, noted] at later
                  exact absurd later.1 Bool.false_ne_true
          | true =>
              obtain ⟨after, done, further, later⟩ := ih advances.sound
                (fun other member => closed other (List.mem_cons_of_mem _ member)) solid.2
                (fun terminal found => begins terminal (.inr ⟨sound.vanishes entry noted, found⟩))
              refine ⟨after, by simp [overLine, symbol?, entry, added, noted, done],
                advances.trans further, ?_⟩
              intro terminal found
              cases found with
              | inl found => exact further.within owner terminal (now found.1 found.2)
              | inr found => exact later terminal (found.2.mono advances.within)

/-- A sweep gets over all alternatives, and then has what began each of them
before. -/
theorem Sweep.exists_overLines (solid : grammar.HasNoEmptyTerminal) (closed : grammar.IsClosed)
    {productions : List (String × Line)}
    (every : ∀ production ∈ productions, production.2 ∈ grammar.lines production.1)
    (sound : sweep.tables.Sound grammar) :
    ∃ after, overLines productions sweep = some after ∧ sweep.Advances grammar after ∧
      ∀ production ∈ productions, ∀ terminal,
        Begins sweep.tables.firstSets terminal production.2 →
          terminal ∈ after.tables.firstSets.setOf production.1 := by
  induction productions generalizing sweep with
  | nil => exact ⟨sweep, rfl, .refl sound, by simp⟩
  | cons production productions ih =>
      rw [List.forall_mem_cons] at every
      obtain ⟨owner, line⟩ := production
      have alternative : line ∈ grammar.lines owner := every.1
      obtain ⟨middle, swept, advances, held⟩ :=
        exists_overLine sound (Grammar.mem_names_of_mem_lines alternative)
          (closed line (Grammar.mem_flatten_values.2 ⟨owner, alternative⟩))
          (solid.not_mem_of_mem_lines alternative)
          (fun terminal found => Grammar.mem_firstSets_nonterminal.2 ⟨line, alternative,
            (Grammar.mem_firstSets_iff_begins
              (Grammar.isRegistered_of_mem_lines alternative)).2 found⟩)
      obtain ⟨after, done, further, later⟩ := ih every.2 advances.sound
      refine ⟨after, ?_, advances.trans further, ?_⟩
      · rw [overLines, List.foldlM_cons, swept]
        exact done
      · rw [List.forall_mem_cons]
        constructor
        · intro terminal found
          exact further.within owner terminal (held terminal found)
        · intro production listed terminal found
          exact later production listed terminal (found.mono advances.within)

/-! ## Nothing new -/

/-- Tables that hold for every nonterminal what begins its alternatives hold all that
the rules of FIRST sets derive. -/
theorem begins_of_hasFirst {sets : Table String TerminalSet}
    (stable : ∀ {name line}, line ∈ grammar.lines name → ∀ {terminal},
      Begins sets terminal line → terminal ∈ sets.setOf name)
    (derived : grammar.HasFirst line terminal) : Begins sets terminal line := by
  induction derived with
  | empty => rfl
  | terminal text rest => rfl
  | alternative rest alternative _ visible begins =>
      exact .inl ⟨visible, stable alternative begins⟩
  | skipped alternative _ _ vanishes begins =>
      exact .inr ⟨stable alternative vanishes, begins⟩

theorem mem_of_mem_firstSets {sets : Table String TerminalSet}
    (stable : ∀ {name line}, line ∈ grammar.lines name → ∀ {terminal},
      Begins sets terminal line → terminal ∈ sets.setOf name)
    (member : terminal ∈ grammar.firstSets.setOf [.nonterminal name]) :
    terminal ∈ sets.setOf name := by
  cases begins_of_hasFirst stable (Grammar.mem_firstSets_iff_hasFirst.1 member).2 with
  | inl begins => exact begins.2
  | inr vanishes =>
      have marker : terminal = epsilon := vanishes.2
      exact marker ▸ vanishes.1

end InPlace

namespace Grammar

variable {grammar : Grammar} {tables : InPlace.Tables}

theorem mem_productions {production : String × Line} :
    production ∈ grammar.productions ↔ production.2 ∈ grammar.lines production.1 := by
  obtain ⟨owner, line⟩ := production
  simp only [productions, List.mem_flatMap, List.mem_map, Prod.exists, Prod.mk.injEq, mem_lines]
  constructor
  · intro given
    rcases given with ⟨_, alternatives, rule, _, member, rfl, rfl⟩
    exact ⟨alternatives, rule, member⟩
  · intro given
    rcases given with ⟨alternatives, rule, member⟩
    exact ⟨owner, alternatives, rule, line, member, rfl, rfl⟩

/-- The FIRST sets of the declared nonterminals. -/
def nonterminalFirstSets (grammar : Grammar) : Table String TerminalSet :=
  grammar.rules.mapEntries fun name _ => grammar.firstSets.ofNonterminal name

theorem keys_nonterminalFirstSets : grammar.nonterminalFirstSets.keys = grammar.names :=
  Table.keys_mapEntries _ grammar.rules

theorem get?_nonterminalFirstSets {name : String} (declared : name ∈ grammar.names) :
    grammar.nonterminalFirstSets.get? name = some (grammar.firstSets.ofNonterminal name) := by
  obtain ⟨alternatives, rule⟩ := Option.isSome_iff_exists.1 (Table.isSome_get?_iff.2 declared)
  rw [nonterminalFirstSets, Table.get?_mapEntries, rule, Option.map_some]

theorem mem_nonterminalFirstSets {name : String} {terminal : Terminal} :
    terminal ∈ grammar.nonterminalFirstSets.setOf name ↔
      terminal ∈ grammar.firstSets.setOf [.nonterminal name] := by
  by_cases declared : name ∈ grammar.names
  · rw [Table.setOf, get?_nonterminalFirstSets declared]
    exact Iff.rfl
  · rw [Table.setOf_of_not_mem_keys (by rwa [keys_nonterminalFirstSets]),
      mem_firstSets_nonterminal]
    apply iff_of_false (TerminalSet.not_mem_empty terminal)
    intro given
    rcases given with ⟨line, alternative, _⟩
    exact declared (mem_names_of_mem_lines alternative)

theorem within_of_sound (sound : tables.Sound grammar) :
    tables.firstSets.Within grammar.nonterminalFirstSets := by
  intro name terminal member
  exact mem_nonterminalFirstSets.2 (sound.mem_firstSets member)

/-- A sweep that changes nothing has left the FIRST sets in the tables. -/
theorem firstSets_of_unchanged {before after : InPlace.Sweep}
    (advances : before.Advances grammar after) (unchanged : after.changed = false)
    (held : ∀ production ∈ grammar.productions, ∀ terminal,
      InPlace.Begins before.tables.firstSets terminal production.2 →
        terminal ∈ after.tables.firstSets.setOf production.1) :
    after.tables.firstSets = grammar.nonterminalFirstSets := by
  have back : after.tables.firstSets.Within before.tables.firstSets := by
    by_contra more
    rw [advances.changed_iff.2 (.inr more)] at unchanged
    cases unchanged
  apply Table.eq_of_agree
  · rw [keys_nonterminalFirstSets, ← advances.sound.keys]
    exact Table.keys_mapEntries _ _
  · intro terminal name
    constructor
    · exact within_of_sound advances.sound name terminal
    · intro member
      apply InPlace.mem_of_mem_firstSets _ (mem_nonterminalFirstSets.1 member)
      intro name line alternative terminal begins
      exact held (name, line) (mem_productions.2 alternative) terminal (begins.mono back)

/-- A sweep over all alternatives finds something new or leaves the FIRST sets in
the tables. -/
theorem exists_sweep (solid : grammar.HasNoEmptyTerminal) (closed : grammar.IsClosed)
    (sound : tables.Sound grammar) :
    ∃ after, InPlace.Sweep.overLines grammar.productions ⟨tables, false⟩ = some after ∧
      after.tables.Sound grammar ∧
      (after.changed = true → tables.firstSets.facts.card < after.tables.firstSets.facts.card) ∧
      (after.changed = false → after.tables.firstSets = grammar.nonterminalFirstSets) := by
  have fresh : (InPlace.Sweep.mk tables false).tables.Sound grammar := sound
  obtain ⟨after, swept, advances, held⟩ :=
    InPlace.Sweep.exists_overLines solid closed (fun _ => mem_productions.1) fresh
  refine ⟨after, swept, advances.sound, ?_, ?_⟩
  · intro changed
    exact advances.within.card_facts_lt
      ((advances.changed_iff.1 changed).resolve_left Bool.false_ne_true)
  · intro unchanged
    exact firstSets_of_unchanged advances unchanged held

/-- Sweeping ends with the FIRST sets: each sweep but the last finds one of the
facts that are missing. -/
theorem exists_sweepRepeatedly (solid : grammar.HasNoEmptyTerminal) (closed : grammar.IsClosed)
    (sound : tables.Sound grammar) {limit : Nat}
    (enough : grammar.nonterminalFirstSets.facts.card < limit + tables.firstSets.facts.card) :
    ∃ result, grammar.sweepRepeatedly limit tables = some result ∧
      result.firstSets = grammar.nonterminalFirstSets := by
  induction limit generalizing tables with
  | zero =>
      have bounded := Finset.card_le_card (within_of_sound sound).facts_subset
      omega
  | succ limit ih =>
      obtain ⟨after, swept, kept, more, done⟩ := exists_sweep solid closed sound
      cases changed : after.changed with
      | false => exact ⟨after.tables, by simp [sweepRepeatedly, swept, changed], done changed⟩
      | true =>
          have found := more changed
          obtain ⟨result, ended, same⟩ := ih kept (by omega)
          exact ⟨result, by simp [sweepRepeatedly, swept, changed, ended], same⟩

/-- Sweeping in place computes the same FIRST sets as recomputing in rounds.  It
looks up no nonterminal without a rule, and it ends: one sweep more than there are
members of the FIRST sets is enough. -/
theorem firstInPlace_eq_firstSets (grammar : Grammar) (solid : grammar.HasNoEmptyTerminal)
    (closed : grammar.IsClosed) :
    ∃ result, (∀ limit, grammar.nonterminalFirstSets.facts.card < limit →
        grammar.firstInPlace? limit = some result) ∧
      result.keys = grammar.names ∧
      ∀ name ∈ grammar.names, result.get? name = some (grammar.firstSets.ofNonterminal name) := by
  refine ⟨grammar.nonterminalFirstSets, ?_, keys_nonterminalFirstSets,
    fun _ => get?_nonterminalFirstSets⟩
  intro limit enough
  obtain ⟨result, done, same⟩ := exists_sweepRepeatedly solid closed
    (InPlace.Tables.Sound.initial grammar) (Nat.lt_add_right _ enough)
  simp [firstInPlace?, done, same]

/-- A phrase begins with a modifier and a joint, and both of them can vanish. -/
def hiddenPhrase : Grammar :=
  .ofRules (.ofEntries
    [("phrase", [[.terminal "end"],
        [.nonterminal "modifier", .nonterminal "joint", .nonterminal "phrase"]]),
      ("joint", [[], [.terminal ","]]), ("modifier", [[.nonterminal "joint"], [.terminal "very"]])])

/-- What begins a modifier is found after the phrase has been swept over, so that a
second sweep is needed for the phrase, and a third one to see that this is all. -/
theorem hiddenPhrase_in_place :
    hiddenPhrase.HasNoEmptyTerminal ∧ hiddenPhrase.IsClosed ∧
      hiddenPhrase.firstInPlace? 2 = none ∧
      ∃ result, hiddenPhrase.firstInPlace? 9 = some result ∧
        result.get? "phrase" = some (.ofList [",", "end", "very"]) := by
  have solid : hiddenPhrase.HasNoEmptyTerminal := by decide
  have closed : hiddenPhrase.IsClosed := by decide
  obtain ⟨result, done, _, same⟩ := firstInPlace_eq_firstSets hiddenPhrase solid closed
  refine ⟨solid, closed, by decide +kernel, result, done 9 (by decide +kernel), ?_⟩
  have first : hiddenPhrase.firstSets.ofNonterminal "phrase" = .ofList [",", "end", "very"] := by
    decide +kernel
  rw [same "phrase" (by decide), first]

end Grammar

end Lookahead
