import Lookahead.Proofs.Follow.HandOver

/-!
# FOLLOW sets and derivations

An ending that can vanish but can also begin with a terminal gives its owner's
set and loses the terminal; an ending that derives nothing gives its owner's set
although no derivation reaches its end; and rules that the start symbol never
reaches count like any other.  Without the first, FOLLOW sets miss nothing that a
derivation shows; without the other two, they hold nothing more.
-/

namespace Lookahead.Grammar

variable {grammar : Grammar} {owner name : String} {line rest back : Line} {terminal : Terminal}

/-- A terminal can come right after a nonterminal. -/
def CanFollow (grammar : Grammar) (name : String) (terminal : Terminal) : Prop :=
  ∃ front back, grammar.Derives [.nonterminal grammar.start]
    (front ++ .nonterminal name :: .terminal terminal :: back)

/-- A nonterminal can come last. -/
def CanEnd (grammar : Grammar) (name : String) : Prop :=
  ∃ front, grammar.Derives [.nonterminal grammar.start] (front ++ [.nonterminal name])

/-- An ending that can vanish can do nothing else. -/
def HasPlainEndings (grammar : Grammar) : Prop :=
  ∀ owner name rest, grammar.Occurs owner name rest →
    grammar.firstSets.ofLine rest = .singleton epsilon ∨
      epsilon ∉ grammar.firstSets.ofLine rest

/-- The computed endings decide whether endings are plain. -/
theorem hasPlainEndings_iff (closed : grammar.IsClosed) :
    grammar.HasPlainEndings ↔
      ∀ name ∈ grammar.names, ∀ ending ∈ grammar.endings name,
        grammar.firstSets.ofLine ending.rest = .singleton epsilon ∨
          epsilon ∉ grammar.firstSets.ofLine ending.rest := by
  constructor
  · intro plain name _ ending occurs
    exact plain ending.owner name ending.rest (mem_endings.1 occurs)
  · intro plain owner name rest occurs
    exact plain name (closed.mem_names_of_occurs occurs) ⟨owner, rest⟩ (mem_endings.2 occurs)

/-- Every declared nonterminal begins with something and occurs in a line that
the start symbol derives. -/
def IsReduced (grammar : Grammar) : Prop :=
  ∀ name ∈ grammar.names, grammar.firstSets.ofNonterminal name ≠ ∅ ∧
    ∃ front back, grammar.Derives [.nonterminal grammar.start] (front ++ .nonterminal name :: back)

/-! ## Nothing is missing -/

/-- After every nonterminal of a line, its FOLLOW set holds what begins the rest
of the line. -/
def Followed (grammar : Grammar) : Line → Prop
  | [] => True
  | .terminal _ :: rest => Followed grammar rest
  | .nonterminal name :: rest =>
      (∀ terminal, grammar.Begins terminal rest → terminal ∈ grammar.followSets.setOf name) ∧
        Followed grammar rest

theorem mem_followSets_of_provides (declared : name ∈ grammar.names)
    (provided : FollowSets.Provides grammar grammar.firstSets name terminal) :
    terminal ∈ grammar.followSets.setOf name :=
  mem_followSetsFrom_iff_recompute.2 ⟨declared, .inl provided⟩

theorem mem_followSets_of_handsOver (declared : name ∈ grammar.names)
    (hands : FollowSets.HandsOver grammar grammar.firstSets owner name)
    (member : terminal ∈ grammar.followSets.setOf owner) :
    terminal ∈ grammar.followSets.setOf name :=
  mem_followSetsFrom_iff_recompute.2 ⟨declared, .inr ⟨owner, hands, member⟩⟩

theorem followed_start (declared : grammar.start ∈ grammar.names) :
    grammar.Followed [.nonterminal grammar.start] := by
  constructor
  · intro terminal marker
    exact mem_followSets_of_provides declared (.inl ⟨marker, rfl⟩)
  · trivial

theorem Followed.mem_followSets {front : Line}
    (followed : grammar.Followed (front ++ .nonterminal name :: back))
    (begins : grammar.Begins terminal back) : terminal ∈ grammar.followSets.setOf name := by
  induction front with
  | nil => exact followed.1 terminal begins
  | cons symbol front ih =>
      cases symbol with
      | terminal text => exact ih followed
      | nonterminal other => exact ih followed.2

section Complete

variable (solid : grammar.HasNoEmptyTerminal) (closed : grammar.IsClosed)
  (plain : grammar.HasPlainEndings)

include solid closed plain

/-- An occurrence inside an alternative is followed by what begins the rest of
the alternative and by what follows the owner. -/
theorem mem_followSets_of_occurs (occurs : grammar.Occurs owner name rest)
    (outside : ∀ terminal, grammar.Begins terminal back →
      terminal ∈ grammar.followSets.setOf owner)
    (begins : grammar.Begins terminal (rest ++ back)) :
    terminal ∈ grammar.followSets.setOf name := by
  have declared := closed.mem_names_of_occurs occurs
  have registered := isRegistered_of_occurs occurs
  rw [begins_append (solid.not_mem_of_isRegistered registered)] at begins
  simp only [← mem_firstSets_iff_begins registered] at begins
  cases begins with
  | inl begins =>
      cases plain owner name rest occurs with
      | inl single =>
          have onlyMarker : terminal ∈ TerminalSet.singleton epsilon := single ▸ begins.2
          exact absurd (TerminalSet.mem_singleton.1 onlyMarker) begins.1
      | inr stays =>
          apply mem_followSets_of_provides declared
          exact .inr ⟨owner, rest, occurs, begins.2, stays⟩
  | inr later =>
      apply mem_followSets_of_handsOver declared ⟨rest, occurs, .inr later.1⟩
      exact outside terminal later.2

theorem followed_of_suffix (member : line ∈ grammar.lines owner)
    (outside : ∀ terminal, grammar.Begins terminal back →
      terminal ∈ grammar.followSets.setOf owner)
    (followed : grammar.Followed back) :
    ∀ {rest : Line}, rest <:+ line → grammar.Followed (rest ++ back) := by
  intro rest
  induction rest with
  | nil =>
      intro _
      exact followed
  | cons symbol rest ih =>
      intro suffix
      have later := ih ((List.suffix_cons symbol rest).trans suffix)
      cases symbol with
      | terminal text => exact later
      | nonterminal name =>
          rcases suffix with ⟨front, rfl⟩
          constructor
          · intro terminal begins
            exact mem_followSets_of_occurs solid closed plain ⟨front, member⟩ outside begins
          · exact later

theorem followed_of_step {before after : Line} (step : grammar.Step before after)
    (followed : grammar.Followed before) : grammar.Followed after := by
  cases step with
  | @replace front back owner line member =>
      induction front with
      | nil =>
          exact followed_of_suffix solid closed plain member followed.1 followed.2
            (List.suffix_refl line)
      | cons symbol front ih =>
          cases symbol with
          | terminal text => exact ih followed
          | nonterminal name =>
              constructor
              · intro terminal begins
                apply followed.1
                exact begins_of_step solid (.replace front back member) begins
              · exact ih followed.2

theorem followed_of_derives {before after : Line} (derives : grammar.Derives before after)
    (followed : grammar.Followed before) : grammar.Followed after := by
  induction derives with
  | refl => exact followed
  | tail _ step ih => exact followed_of_step solid closed plain step ih

end Complete

/-! ## Nothing is added -/

section Sound

variable (solid : grammar.HasNoEmptyTerminal) (closed : grammar.IsClosed)
  (reduced : grammar.IsReduced)

/-- A line whose nonterminals all begin with something begins with something. -/
theorem exists_begins (productive : ∀ name, .nonterminal name ∈ line →
      grammar.firstSets.ofNonterminal name ≠ ∅) : ∃ terminal, grammar.Begins terminal line := by
  induction line with
  | nil => exact ⟨epsilon, rfl⟩
  | cons symbol rest ih =>
      cases symbol with
      | terminal text => exact ⟨text, rfl⟩
      | nonterminal name =>
          have later := ih fun other member => productive other (List.mem_cons_of_mem _ member)
          have inhabited : ∃ terminal, terminal ∈ grammar.firstSets.setOf [.nonterminal name] := by
            by_contra none
            apply productive name List.mem_cons_self
            apply TerminalSet.ext
            intro terminal
            constructor
            · intro member
              exact absurd ⟨terminal, member⟩ none
            · intro member
              exact absurd member (TerminalSet.not_mem_empty terminal)
          rcases inhabited with ⟨terminal, member⟩
          by_cases marker : terminal = epsilon
          · rcases later with ⟨following, begins⟩
            exact ⟨following, .inr ⟨marker ▸ member, begins⟩⟩
          · exact ⟨terminal, .inl ⟨marker, member⟩⟩

include solid closed reduced

/-- In a reduced grammar an ending that gives its owner's set can vanish. -/
theorem derives_nil_of_handsOn (occurs : grammar.Occurs owner name rest)
    (hands : FollowSets.HandsOn grammar.firstSets rest) : grammar.Derives rest [] := by
  have registered := isRegistered_of_occurs occurs
  have productive : ∀ other, .nonterminal other ∈ rest →
      grammar.firstSets.ofNonterminal other ≠ ∅ := by
    intro other member
    rcases occurs with ⟨front, alternative⟩
    have declared : other ∈ grammar.names :=
      closed _ (mem_flatten_values.2 ⟨owner, alternative⟩) other (by simp [member])
    exact (reduced other declared).1
  have vanishes : epsilon ∈ grammar.firstSets.setOf rest := by
    cases hands with
    | inl empty =>
        rcases exists_begins productive with ⟨terminal, begins⟩
        rw [← mem_firstSets_iff_begins registered] at begins
        by_cases marker : terminal = epsilon
        · exact marker ▸ begins
        · have held : terminal ∈ (grammar.firstSets.ofLine rest).erase epsilon :=
            TerminalSet.mem_erase.2 ⟨begins, marker⟩
          rw [empty] at held
          exact absurd held (TerminalSet.not_mem_empty terminal)
    | inr vanishes => exact vanishes
  exact derives_nil_of_mem_firstSets solid vanishes

/-- An owner passes on what comes after it. -/
theorem exists_derives_of_handsOver
    (hands : FollowSets.HandsOver grammar grammar.firstSets owner name)
    (derives : ∃ front,
      grammar.Derives [.nonterminal grammar.start] (front ++ .nonterminal owner :: back)) :
    ∃ front, grammar.Derives [.nonterminal grammar.start] (front ++ .nonterminal name :: back) := by
  rcases hands with ⟨rest, occurs, given⟩
  have vanish := derives_nil_of_handsOn solid closed reduced occurs given
  rcases occurs with ⟨before, alternative⟩
  rcases derives with ⟨front, derives⟩
  refine ⟨front ++ before, ?_⟩
  have replaced := (Derives.of_mem_lines alternative []).frame front back
  have vanished := vanish.frame (front ++ before ++ [.nonterminal name]) back
  simp only [List.append_assoc, List.cons_append, List.nil_append, List.append_nil]
    at replaced vanished ⊢
  exact (derives.trans replaced).trans vanished

theorem exists_derives_of_chain {length : Nat} {last : String}
    (chain : FollowSets.Chain grammar grammar.firstSets length name last)
    (derives : ∃ front,
      grammar.Derives [.nonterminal grammar.start] (front ++ .nonterminal last :: back)) :
    ∃ front, grammar.Derives [.nonterminal grammar.start] (front ++ .nonterminal name :: back) := by
  induction chain with
  | refl => exact derives
  | link hands _ ih => exact exists_derives_of_handsOver solid closed reduced hands (ih derives)

omit closed in
/-- What a nonterminal is provided with comes after it in some derivation. -/
theorem canFollow_of_provides
    (provided : FollowSets.Provides grammar grammar.firstSets name terminal) :
    grammar.CanFollow name terminal ∨ terminal = epsilon ∧ grammar.CanEnd name := by
  cases provided with
  | inl starts => exact .inr ⟨starts.1, [], starts.2 ▸ .refl _⟩
  | inr provided =>
      rcases provided with ⟨owner, rest, occurs, member, stays⟩
      rcases occurs with ⟨before, alternative⟩
      rcases (reduced owner (mem_names_of_mem_lines alternative)).2 with ⟨front, back, derives⟩
      cases canBegin_of_mem_firstSets solid member with
      | inl begins =>
          rcases begins with ⟨after, begun⟩
          refine .inl ⟨front ++ before, after ++ back, ?_⟩
          have replaced := (Derives.of_mem_lines alternative []).frame front back
          have begun := begun.frame (front ++ before ++ [.nonterminal name]) back
          simp only [List.append_assoc, List.cons_append, List.nil_append, List.append_nil]
            at replaced begun ⊢
          exact (derives.trans replaced).trans begun
      | inr vanishes => exact absurd (vanishes.1 ▸ member) stays

theorem canFollow_of_mem_followSets (member : terminal ∈ grammar.followSets.setOf name) :
    grammar.CanFollow name terminal ∨ terminal = epsilon ∧ grammar.CanEnd name := by
  have declared := (mem_followSetsFrom_iff_recompute.1 member).1
  rw [followSets, FollowSets.mem_followSetsFrom_iff_reaches declared] at member
  rcases member with ⟨length, last, chain, provided⟩
  cases canFollow_of_provides solid reduced provided with
  | inl follows =>
      rcases follows with ⟨front, back, derives⟩
      have passed := exists_derives_of_chain solid closed reduced chain ⟨front, derives⟩
      rcases passed with ⟨front, derives⟩
      exact .inl ⟨front, back, derives⟩
  | inr ends => exact .inr ⟨ends.1, exists_derives_of_chain solid closed reduced chain ends.2⟩

end Sound

/-! ## FOLLOW sets -/

theorem not_canFollow_epsilon (solid : grammar.HasNoEmptyTerminal) :
    ¬ grammar.CanFollow name epsilon := by
  intro follows
  rcases follows with ⟨front, back, derives⟩
  apply solid.not_mem_of_derives derives
  · simp
  · simp

/-- Where FOLLOW sets mean what derivations say.  If every ending that can vanish
can do nothing else, they hold everything that can follow a nonterminal.  If every
declared nonterminal begins with something and is reached, they hold nothing
else. -/
theorem followSets_agree_with_derivations (grammar : Grammar) (solid : grammar.HasNoEmptyTerminal)
    (startDeclared : grammar.start ∈ grammar.names) (closed : grammar.IsClosed) :
    (grammar.HasPlainEndings → ∀ name,
      (∀ terminal, grammar.CanFollow name terminal →
        terminal ∈ grammar.followSets.ofNonterminal name) ∧
      (grammar.CanEnd name → epsilon ∈ grammar.followSets.ofNonterminal name)) ∧
    (grammar.IsReduced → ∀ name,
      (∀ terminal, terminal ≠ epsilon → terminal ∈ grammar.followSets.ofNonterminal name →
        grammar.CanFollow name terminal) ∧
      (epsilon ∈ grammar.followSets.ofNonterminal name → grammar.CanEnd name)) ∧
    (grammar.HasPlainEndings → grammar.IsReduced → ∀ name terminal,
      (terminal ∈ grammar.followSets.ofNonterminal name ↔
        grammar.CanFollow name terminal ∨ terminal = epsilon ∧ grammar.CanEnd name)) := by
  have complete (plain : grammar.HasPlainEndings) {name : String} {terminal : Terminal} {back : Line}
      (derives : ∃ front,
        grammar.Derives [.nonterminal grammar.start] (front ++ .nonterminal name :: back))
      (begins : grammar.Begins terminal back) :
      terminal ∈ grammar.followSets.ofNonterminal name := by
    rcases derives with ⟨front, derives⟩
    exact (followed_of_derives solid closed plain derives
      (followed_start startDeclared)).mem_followSets begins
  refine ⟨?_, ?_, ?_⟩
  · intro plain name
    constructor
    · intro terminal follows
      rcases follows with ⟨front, back, derives⟩
      exact complete plain ⟨front, derives⟩ rfl
    · intro ends
      exact complete plain ends rfl
  · intro reduced name
    constructor
    · intro terminal visible member
      cases canFollow_of_mem_followSets solid closed reduced member with
      | inl follows => exact follows
      | inr ends => exact absurd ends.1 visible
    · intro member
      cases canFollow_of_mem_followSets solid closed reduced member with
      | inl follows => exact absurd follows (not_canFollow_epsilon solid)
      | inr ends => exact ends.2
  · intro plain reduced name terminal
    constructor
    · exact canFollow_of_mem_followSets solid closed reduced
    · intro given
      cases given with
      | inl follows =>
          rcases follows with ⟨front, back, derives⟩
          exact complete plain ⟨front, derives⟩ rfl
      | inr ends => exact complete plain ends.2 ends.1

/-- Bodies in parentheses, each with an end that can only vanish. -/
def nestedBodies : Grammar :=
  .ofRules (.ofEntries
    [("start", [[.nonterminal "body", .nonterminal "end"],
        [.terminal "(", .nonterminal "start", .terminal ")"]]),
      ("body", [[.terminal "x", .nonterminal "body"], [.terminal "y"]]),
      ("end", [[]])])

theorem nestedBodies_isReduced : nestedBodies.IsReduced := by
  intro name declared
  have names : nestedBodies.names = ["start", "body", "end"] := by decide
  rw [names] at declared
  have alternative : [.nonterminal "body", .nonterminal "end"] ∈ nestedBodies.lines "start" := by
    decide
  have opened := Derives.of_mem_lines alternative []
  simp only [List.mem_cons, List.not_mem_nil, or_false] at declared
  rcases declared with rfl | rfl | rfl
  · exact ⟨by decide +kernel, [], [], .refl _⟩
  · exact ⟨by decide +kernel, [], [.nonterminal "end"], opened⟩
  · exact ⟨by decide +kernel, [.nonterminal "body"], [], opened⟩

/-- A parenthesis or the end of the input can follow a body, and nothing else. -/
theorem nestedBodies_following_body :
    nestedBodies.HasNoEmptyTerminal ∧ nestedBodies.start ∈ nestedBodies.names ∧
      nestedBodies.IsClosed ∧ nestedBodies.HasPlainEndings ∧ nestedBodies.IsReduced ∧
      nestedBodies.CanFollow "body" ")" ∧ nestedBodies.CanEnd "body" ∧
      ")" ∈ nestedBodies.followSets.ofNonterminal "body" ∧
      ¬ nestedBodies.CanFollow "body" "y" := by
  have solid : nestedBodies.HasNoEmptyTerminal := by decide
  have startDeclared : nestedBodies.start ∈ nestedBodies.names := by decide
  have closed : nestedBodies.IsClosed := by decide
  have plain : nestedBodies.HasPlainEndings := (hasPlainEndings_iff closed).2 (by decide +kernel)
  have reduced := nestedBodies_isReduced
  have agreement := followSets_agree_with_derivations nestedBodies solid startDeclared closed
  have closing : ")" ∈ nestedBodies.followSets.ofNonterminal "body" := by decide +kernel
  have ending : epsilon ∈ nestedBodies.followSets.ofNonterminal "body" := by decide +kernel
  have other : "y" ∉ nestedBodies.followSets.ofNonterminal "body" := by decide +kernel
  have follows := (agreement.2.1 reduced "body").1 ")" (by decide) closing
  refine ⟨solid, startDeclared, closed, plain, reduced, follows, ?_, ?_, ?_⟩
  · exact (agreement.2.1 reduced "body").2 ending
  · exact (agreement.2.2 plain reduced "body" ")").2 (.inl follows)
  · intro wrong
    exact other ((agreement.1 plain "body").1 "y" wrong)

end Lookahead.Grammar
