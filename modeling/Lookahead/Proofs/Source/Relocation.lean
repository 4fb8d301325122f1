import Lookahead.Proofs.Source.Reading
import Lookahead.Proofs.Text.Edits

/-!
# Rule lines in other places

A line is read the same wherever it stands, but for the places of what is read of it.
So two texts whose rule lines have the same contents are read alike: as the same
grammar, or with the same faults in the same order, each in the place on its line where
the other text has it.
-/

namespace Lookahead

variable {Places : Nat → Nat → Prop}

/-- The ends of two spans are related. -/
structure Span.Alike (Places : Nat → Nat → Prop) (left right : Span) : Prop where
  start : Places left.start right.start
  stop : Places left.stop right.stop

/-- Two located values are the same, and the ends of their spans are related. -/
structure Located.Alike {α : Type} (Places : Nat → Nat → Prop) (left right : Located α) :
    Prop where
  value : left.value = right.value
  span : left.span.Alike Places right.span

/-- The bytes from one place on are related to those from another one on, as many as
there are. -/
def Carries (Places : Nat → Nat → Prop) (start other size : Nat) : Prop :=
  ∀ bytes ≤ size, Places (start + bytes) (other + bytes)

namespace Carries

variable {start other size bytes rest : Nat}

theorem span (carries : Carries Places start other size) (within : bytes ≤ size) :
    Span.Alike Places ⟨start, start + bytes⟩ ⟨other, other + bytes⟩ :=
  ⟨carries 0 (Nat.zero_le size), carries bytes within⟩

theorem later (carries : Carries Places start other (bytes + rest)) :
    Carries Places (start + bytes) (other + bytes) rest := by
  intro further within
  rw [Nat.add_assoc, Nat.add_assoc]
  exact carries _ (Nat.add_le_add_left within bytes)

end Carries

namespace Source

/-! ## Related results -/

/-- Two results are both faults or both values, and are related as such. -/
inductive Outcomes {ε δ α β : Type} (OnFaults : ε → δ → Prop) (OnValues : α → β → Prop) :
    Except ε α → Except δ β → Prop where
  | error {fault : ε} {other : δ} :
      OnFaults fault other → Outcomes OnFaults OnValues (.error fault) (.error other)
  | ok {value : α} {other : β} :
      OnValues value other → Outcomes OnFaults OnValues (.ok value) (.ok other)

namespace Outcomes

variable {ε δ α β γ ζ : Type} {OnFaults : ε → δ → Prop} {OnValues : α → β → Prop}
variable {OnResults : γ → ζ → Prop} {left : Except ε α} {right : Except δ β}

theorem map {image : α → γ} {image' : β → ζ}
    (values : ∀ value other, OnValues value other → OnResults (image value) (image' other))
    (outcomes : Outcomes OnFaults OnValues left right) :
    Outcomes OnFaults OnResults (left.map image) (right.map image') := by
  cases outcomes with
  | error related => exact .error related
  | ok related => exact .ok (values _ _ related)

theorem bind {next : α → Except ε γ} {next' : β → Except δ ζ}
    (outcomes : Outcomes OnFaults OnValues left right)
    (values : ∀ value other, OnValues value other →
      Outcomes OnFaults OnResults (next value) (next' other)) :
    Outcomes OnFaults OnResults (left >>= next) (right >>= next') := by
  cases outcomes with
  | error related => exact .error related
  | ok related => exact values _ _ related

theorem mapM {read : α → Except ε γ} {read' : β → Except δ ζ} {items : List α}
    {others : List β}
    (each : ∀ item other, OnValues item other →
      Outcomes OnFaults OnResults (read item) (read' other))
    (every : List.Forall₂ OnValues items others) :
    Outcomes OnFaults (List.Forall₂ OnResults) (items.mapM read) (others.mapM read') := by
  induction every with
  | nil => exact .ok .nil
  | cons related _ ih =>
      rw [List.mapM_cons, List.mapM_cons]
      apply (each _ _ related).bind
      intro result result' results
      apply ih.bind
      intro rest rest' others
      exact .ok (.cons results others)

theorem toOption_map_eq {image : α → γ} {image' : β → γ}
    (values : ∀ value other, OnValues value other → image value = image' other)
    (outcomes : Outcomes OnFaults OnValues left right) :
    left.toOption.map image = right.toOption.map image' := by
  cases outcomes with
  | error related => rfl
  | ok related => exact congrArg some (values _ _ related)

/-- The values and the faults of related results are related, each in order. -/
theorem separate {results : List (Except ε α)} {others : List (Except δ β)}
    (every : List.Forall₂ (Outcomes OnFaults OnValues) results others) :
    List.Forall₂ OnValues (separate results).1 (Source.separate others).1 ∧
      List.Forall₂ OnFaults (Source.separate results).2 (Source.separate others).2 := by
  induction every with
  | nil => exact ⟨.nil, .nil⟩
  | cons related _ ih =>
      cases related with
      | error related => exact ⟨ih.1, .cons related ih.2⟩
      | ok related => exact ⟨.cons related ih.1, ih.2⟩

end Outcomes

/-! ## One line -/

/-- Two rules are the same but for their places. -/
structure Rule.Alike (Places : Nat → Nat → Prop) (rule other : Rule) : Prop where
  name : rule.name = other.name
  alternatives : List.Forall₂ (List.Forall₂ (Located.Alike Places)) rule.alternatives
    other.alternatives
  span : rule.span.Alike Places other.span

variable {lexeme lexeme' : Lexeme} {lexemes lexemes' : List Lexeme}

/-- Characters that begin at different bytes are read as the same tokens. -/
theorem lexFrom_alike (start : Nat) (chars : List Char) :
    ∀ {other}, Carries Places start other (Text.byteLength chars) →
      Outcomes (Located.Alike Places) (List.Forall₂ (Located.Alike Places))
        (lexFrom start chars) (lexFrom other chars) := by
  induction start, chars using lexFrom.induct with
  | case1 start =>
      intro other _
      rw [lexFrom, lexFrom]
      exact .ok .nil
  | case2 start first rest blank ih =>
      intro other carries
      rw [lexFrom_blank blank, lexFrom_blank blank]
      exact ih carries.later
  | case3 start first rest solid fault unread read =>
      intro other carries
      have solid := Bool.eq_false_iff.2 solid
      rw [lexFrom_error solid read, lexFrom_error solid read]
      exact .error ⟨rfl, carries.span (Nat.le_refl _)⟩
  | @case4 start first rest solid token unread read shorter stop ih =>
      intro other carries
      have solid := Bool.eq_false_iff.2 solid
      rw [← (spelling_of_readToken solid read).1, Text.byteLength_append] at carries
      rw [lexFrom_token solid read, lexFrom_token solid read]
      apply (ih carries.later).map
      intro lexemes lexemes' others
      exact .cons ⟨rfl, carries.span (Nat.le_add_right _ _)⟩ others

theorem symbolOfLexeme_alike (alike : lexeme.Alike Places lexeme') :
    Outcomes (Located.Alike Places) (Located.Alike Places) (symbolOfLexeme lexeme)
      (symbolOfLexeme lexeme') := by
  rcases lexeme with ⟨token, span⟩
  rcases lexeme' with ⟨token', span'⟩
  obtain ⟨rfl, span⟩ := alike
  cases token with
  | equals => exact .error ⟨rfl, span⟩
  | bar => exact .error ⟨rfl, span⟩
  | nonterminal name => exact .ok ⟨rfl, span⟩
  | terminal text => exact .ok ⟨rfl, span⟩

theorem alternativeOfLexemes_alike (every : List.Forall₂ (Located.Alike Places) lexemes lexemes') :
    Outcomes (Located.Alike Places) (List.Forall₂ (Located.Alike Places))
      (alternativeOfLexemes lexemes) (alternativeOfLexemes lexemes') := by
  apply Outcomes.mapM fun _ _ alike => symbolOfLexeme_alike alike
  refine List.rel_filter ?_ every
  intro lexeme lexeme' alike
  simp only [alike.value]

theorem splitAtBars_alike (every : List.Forall₂ (Located.Alike Places) lexemes lexemes') :
    List.Forall₂ (List.Forall₂ (Located.Alike Places)) (splitAtBars lexemes)
      (splitAtBars lexemes') := by
  induction every with
  | nil => exact .cons .nil .nil
  | @cons lexeme lexeme' rest rest' alike _ ih =>
      rw [splitAtBars, splitAtBars, alike.value]
      generalize splitAtBars rest = runs, splitAtBars rest' = runs' at ih
      split
      · exact .cons .nil ih
      · cases ih with
        | nil => exact .cons (.cons alike .nil) .nil
        | cons run later => exact .cons (.cons alike run) later

theorem alternativesOfLexemes_alike
    (every : List.Forall₂ (Located.Alike Places) lexemes lexemes') :
    Outcomes (Located.Alike Places) (List.Forall₂ (List.Forall₂ (Located.Alike Places)))
      (alternativesOfLexemes lexemes) (alternativesOfLexemes lexemes') :=
  Outcomes.mapM (fun _ _ every => alternativeOfLexemes_alike every) (splitAtBars_alike every)

theorem Rule.ofLexemes_alike {span span' : Span} (place : span.Alike Places span')
    (every : List.Forall₂ (Located.Alike Places) lexemes lexemes') :
    Outcomes (Located.Alike Places) (Rule.Alike Places) (Rule.ofLexemes lexemes span)
      (Rule.ofLexemes lexemes' span') := by
  cases every with
  | nil => exact .error ⟨rfl, place⟩
  | @cons first first' rest rest' alike every =>
      rcases first with ⟨token, span⟩
      rcases first' with ⟨token', span'⟩
      obtain ⟨rfl, begins⟩ := alike
      cases token with
      | equals => exact .error ⟨rfl, begins⟩
      | bar => exact .error ⟨rfl, begins⟩
      | terminal text => exact .error ⟨rfl, begins⟩
      | nonterminal name =>
          simp only [ofLexemes]
          split
          · exact .error ⟨rfl, begins⟩
          · cases every with
            | nil => exact .error ⟨rfl, begins⟩
            | @cons second second' body body' alike every =>
                rcases second with ⟨token, span⟩
                rcases second' with ⟨token', span'⟩
                obtain ⟨rfl, ends⟩ := alike
                cases token with
                | equals =>
                    apply (alternativesOfLexemes_alike every).bind
                    intro alternatives alternatives' lines
                    exact .ok ⟨rfl, lines, begins⟩
                | bar => exact .error ⟨rfl, begins.start, ends.stop⟩
                | terminal text => exact .error ⟨rfl, begins.start, ends.stop⟩
                | nonterminal other => exact .error ⟨rfl, begins.start, ends.stop⟩

/-- A line is read the same wherever it stands, but for the places. -/
theorem Rule.ofLine_alike {line : String} {offset other : Nat}
    (carries : Carries Places offset other (Text.byteLength line.toList)) :
    Outcomes (Located.Alike Places) (Rule.Alike Places) (Rule.ofLine line offset)
      (Rule.ofLine line other) := by
  apply (lexFrom_alike offset line.toList carries).bind
  intro lexemes lexemes' every
  exact ofLexemes_alike (carries.span (Nat.le_refl _)) every

/-! ## Names -/

variable {rules others : List Rule}

theorem map_name_eq_of_alike (every : List.Forall₂ (Rule.Alike Places) rules others) :
    rules.map Rule.name = others.map Rule.name := by
  induction every with
  | nil => rfl
  | cons alike _ ih => rw [List.map_cons, List.map_cons, alike.name, ih]

theorem map_value_eq_of_alike {α : Type} {left right : List (Located α)}
    (every : List.Forall₂ (Located.Alike Places) left right) :
    left.map Located.value = right.map Located.value := by
  induction every with
  | nil => rfl
  | cons alike _ ih => rw [List.map_cons, List.map_cons, alike.value, ih]

/-- Rules that differ in places only are the same entry. -/
theorem Rule.Alike.entry_eq {rule other : Rule} (alike : rule.Alike Places other) :
    rule.entry = other.entry := by
  have lines {left right : List LocatedLine}
      (every : List.Forall₂ (List.Forall₂ (Located.Alike Places)) left right) :
      left.map (·.map Located.value) = right.map (·.map Located.value) := by
    induction every with
    | nil => rfl
    | cons alike _ ih => rw [List.map_cons, List.map_cons, map_value_eq_of_alike alike, ih]
  rw [entry, entry, alike.name, lines alike.alternatives]

theorem map_entry_eq_of_alike (every : List.Forall₂ (Rule.Alike Places) rules others) :
    rules.map Rule.entry = others.map Rule.entry := by
  induction every with
  | nil => rfl
  | cons alike _ ih => rw [List.map_cons, List.map_cons, alike.entry_eq, ih]

/-- Numbered rules that are chosen by their names and numbers. -/
theorem chosen_alike (chooses chooses' : Rule × Nat → Bool)
    (same : ∀ {rule other number}, Rule.Alike Places rule other →
      chooses (rule, number) = chooses' (other, number))
    (every : List.Forall₂ (Rule.Alike Places) rules others) :
    List.Forall₂ (Rule.Alike Places) ((rules.zipIdx.filter chooses).map Prod.fst)
      ((others.zipIdx.filter chooses').map Prod.fst) := by
  generalize 0 = number
  induction every generalizing number with
  | nil => exact .nil
  | cons alike _ ih =>
      rw [List.zipIdx_cons, List.zipIdx_cons, List.filter_cons, List.filter_cons, same alike]
      split
      · exact .cons alike (ih (number + 1))
      · exact ih (number + 1)

theorem isRepeated_eq_of_alike (every : List.Forall₂ (Rule.Alike Places) rules others)
    {rule other : Rule} {number : Nat} (alike : rule.Alike Places other) :
    isRepeated rules (rule, number) = isRepeated others (other, number) := by
  rw [isRepeated, isRepeated, alike.name, List.map_take, List.map_take,
    map_name_eq_of_alike every]

theorem repetitions_alike (every : List.Forall₂ (Rule.Alike Places) rules others) :
    List.Forall₂ (Located.Alike Places) (repetitions rules) (repetitions others) := by
  have later := chosen_alike _ _ (isRepeated_eq_of_alike every) every
  refine List.rel_map ?_ later
  intro rule other alike
  exact ⟨congrArg Fault.repeatedName alike.name, alike.span⟩

theorem danglingUses_alike (every : List.Forall₂ (Rule.Alike Places) rules others) :
    List.Forall₂ (Located.Alike Places) (danglingUses rules) (danglingUses others) := by
  have first := chosen_alike (!isRepeated rules ·) (!isRepeated others ·)
    (fun alike => congrArg (!·) (isRepeated_eq_of_alike every alike)) every
  have used := List.rel_flatMap first fun rule other alike => List.rel_flatten alike.alternatives
  rw [danglingUses, danglingUses, map_name_eq_of_alike every]
  refine List.rel_filterMap ?_ used
  rintro ⟨symbol, span⟩ ⟨_, span'⟩ ⟨rfl, place⟩
  cases symbol with
  | terminal text => exact .none
  | nonterminal name =>
      simp only [danglingUse?]
      split
      · exact .none
      · exact .some ⟨rfl, place⟩

/-- Rules that differ in places only make the same grammar, or the same faults in other
places. -/
theorem grammarOfRules_alike (inhabited : rules ≠ [])
    (every : List.Forall₂ (Rule.Alike Places) rules others) :
    Outcomes (List.Forall₂ (Located.Alike Places)) Eq (grammarOfRules rules)
      (grammarOfRules others) := by
  have inhabited' : others ≠ [] := by
    rintro rfl
    exact inhabited (List.forall₂_nil_right_iff.1 every)
  have same (grammar : Grammar) :
      grammarOfRules rules = .ok grammar ↔ grammarOfRules others = .ok grammar := by
    rw [grammarOfRules_eq_ok_iff, grammarOfRules_eq_ok_iff, map_entry_eq_of_alike every]
  cases made : grammarOfRules rules with
  | ok grammar =>
      rw [(same grammar).1 made]
      exact .ok rfl
  | error diagnostics =>
      cases made' : grammarOfRules others with
      | ok grammar =>
          rw [(same grammar).2 made'] at made
          cases made
      | error diagnostics' =>
          obtain ⟨_, rfl⟩ := (grammarOfRules_eq_error_iff inhabited).1 made
          obtain ⟨_, rfl⟩ := (grammarOfRules_eq_error_iff inhabited').1 made'
          exact .error (List.rel_append (repetitions_alike every) (danglingUses_alike every))

/-! ## Texts -/

/-- Two lines have the same content, and the places on them are related. -/
structure LineAlike (Places : Nat → Nat → Prop) (line other : Text.SourceLine) : Prop where
  content : line.content = other.content
  carries : Carries Places line.offset other.offset (Text.byteLength line.content.toList)

variable {text text' : String}

theorem readRules_alike
    (lines : List.Forall₂ (LineAlike Places) (Text.ruleLines text) (Text.ruleLines text')) :
    List.Forall₂ (Outcomes (Located.Alike Places) (Rule.Alike Places)) (readRules text)
      (readRules text') := by
  refine List.rel_map ?_ lines
  rintro ⟨offset, content⟩ ⟨offset', _⟩ ⟨rfl, carries⟩
  exact Rule.ofLine_alike carries

theorem parse_of_no_ruleLines (none : Text.ruleLines text = []) :
    parse text = .error [⟨.noRules, 0, 0⟩] := by
  have read : readRules text = ([] : List Rule).map .ok := List.map_eq_nil_iff.2 none
  rw [parse_of_readRules read]
  rfl

/-- Two texts whose rule lines have the same contents are read alike. -/
theorem parse_alike (inhabited : Text.ruleLines text ≠ [])
    (lines : List.Forall₂ (LineAlike Places) (Text.ruleLines text) (Text.ruleLines text')) :
    Outcomes (List.Forall₂ (Located.Alike Places)) Eq (parse text) (parse text') := by
  have results := readRules_alike lines
  obtain ⟨rules, faults⟩ := Outcomes.separate results
  by_cases silent : (separate (readRules text)).2 = []
  · have silent' : (separate (readRules text')).2 = [] := by
      rw [silent] at faults
      exact List.forall₂_nil_left_iff.1 faults
    have read := readRules_of_no_faults silent
    rw [parse_of_readRules read, parse_of_readRules (readRules_of_no_faults silent')]
    refine grammarOfRules_alike ?_ rules
    intro none
    rw [none] at read
    exact inhabited (List.map_eq_nil_iff.1 read)
  · have loud' : (separate (readRules text')).2 ≠ [] := by
      intro silent'
      rw [silent'] at faults
      exact silent (List.forall₂_nil_right_iff.1 faults)
    rw [parse_of_faults silent, parse_of_faults loud']
    exact .error faults

end Source

end Lookahead
