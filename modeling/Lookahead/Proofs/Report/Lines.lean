import Lookahead.Proofs.Text.Escaping
import Lookahead.Proofs.Source.Layout
import Lookahead.Grammar.Symbol

/-!
# Lines as they are shown

A terminal is shown between quotes, and the end of its text is the first quote that
is not escaped.  A nonterminal and `ε` are shown bare and end at the next space.  So
the symbols of a line are told apart from the front on, and no two lines look the
same.
-/

namespace Lookahead

variable {escaping : Text.Escaping}

theorem Source.Token.IsSpelled.not_mem_lineFeed {name : String}
    (spelled : (Source.Token.nonterminal name).IsSpelled) : '\n' ∉ name.toList := by
  intro member
  exact absurd (spelled.2 '\n' member) (by decide)

namespace Symbol

/-- A nonterminal is named as in a grammar file, and not like the empty line.  Terminals
can be any texts. -/
def IsShowable : Symbol → Prop
  | .terminal _ => True
  | .nonterminal name => (Source.Token.nonterminal name).IsSpelled ∧ name ≠ emptyLineName

instance : DecidablePred IsShowable
  | .terminal _ => inferInstanceAs (Decidable True)
  | .nonterminal name =>
      inferInstanceAs (Decidable ((Source.Token.nonterminal name).IsSpelled ∧ name ≠ emptyLineName))

/-- A symbol of a line in a grammar file, where no terminal is empty. -/
def IsProper (symbol : Symbol) : Prop :=
  symbol.IsShowable ∧ symbol ≠ .terminal epsilon

instance : DecidablePred IsProper :=
  fun symbol => inferInstanceAs (Decidable (symbol.IsShowable ∧ symbol ≠ .terminal epsilon))

/-- The symbols that are shown without quotes, as words in which nothing stands that could
end them. -/
inductive Bare : Symbol → String → Prop where
  | epsilon : Bare (.terminal epsilon) emptyLineName
  | nonterminal {name : String} : (Source.Token.nonterminal name).IsSpelled →
      name ≠ emptyLineName → Bare (.nonterminal name) name

variable {symbol other : Symbol} {word : String}

theorem Bare.isSpelled (bare : Bare symbol word) : (Source.Token.nonterminal word).IsSpelled := by
  cases bare with
  | epsilon => decide
  | nonterminal spelled _ => exact spelled

theorem Bare.inj (bare : Bare symbol word) (bare' : Bare other word) : symbol = other := by
  cases bare with
  | epsilon =>
      cases bare' with
      | epsilon => rfl
      | nonterminal _ different => exact absurd rfl different
  | nonterminal _ different =>
      cases bare' with
      | epsilon => exact absurd rfl different
      | nonterminal _ _ => rfl

/-- The two forms in which symbols are shown. -/
inductive Shown : Symbol → List Char → Prop where
  | quoted {text : String} {written : List Char} : Text.WrittenText text.toList written →
      Shown (.terminal text) ('"' :: (written ++ ['"']))
  | bare {symbol : Symbol} {word : String} : Bare symbol word → Shown symbol word.toList

theorem shown_renderWith (usual : escaping.IsUsual) (showable : symbol.IsShowable) :
    Shown symbol (symbol.renderWith escaping).toList := by
  cases symbol with
  | nonterminal name => exact .bare (.nonterminal showable.1 showable.2)
  | terminal text =>
      by_cases empty : text = epsilon
      · rw [empty]
        exact .bare .epsilon
      · have shape : (renderWith escaping (.terminal text)).toList =
            '"' :: (Text.escapeChars escaping text.toList ++ ['"']) := by
          simp [renderWith, Terminal.renderWith, empty, Text.escapeWith]
        rw [shape]
        exact .quoted (usual.writtenText text.toList)

/-- No bare word begins with a quote. -/
theorem Bare.append_ne_quote {rest back : List Char} (bare : Bare symbol word) :
    word.toList ++ rest ≠ '"' :: back := by
  intro same
  have spelled := bare.isSpelled
  cases letters : word.toList with
  | nil => exact spelled.1 (String.toList_eq_nil_iff.1 letters)
  | cons letter letters' =>
      rw [letters] at same
      cases same
      exact absurd (spelled.2 '"' (letters ▸ List.mem_cons_self)) (by decide)

theorem Shown.append_inj {shown shown' rest back : List Char} (first : Shown symbol shown)
    (second : Shown other shown') (atGap : Text.AtGap rest) (atGap' : Text.AtGap back)
    (same : shown ++ rest = shown' ++ back) : symbol = other ∧ rest = back := by
  cases first with
  | quoted written =>
      cases second with
      | quoted written' =>
          simp only [List.cons_append, List.append_assoc, List.nil_append, List.cons.injEq,
            true_and] at same
          have parts := written.append_quote_inj written' same
          rw [String.ext parts.1]
          exact ⟨rfl, parts.2⟩
      | bare bare' => exact absurd same.symm bare'.append_ne_quote
  | bare bare =>
      cases second with
      | quoted written' => exact absurd same bare.append_ne_quote
      | bare bare' =>
          have outside {rest : List Char} (atGap : Text.AtGap rest) :
              ∀ char, rest.head? = some char → Source.isNameChar char = false := by
            intro char head
            rw [atGap char head]
            decide
          have parts := Text.run_append_inj Source.isNameChar bare.isSpelled.2
            bare'.isSpelled.2 (outside atGap) (outside atGap') same
          rw [String.ext parts.1] at bare
          exact ⟨bare.inj bare', parts.2⟩

theorem Shown.ne_nil {shown : List Char} (isShown : Shown symbol shown) : shown ≠ [] := by
  cases isShown with
  | quoted _ => exact List.cons_ne_nil _ _
  | bare bare => exact fun nothing => bare.isSpelled.1 (String.toList_eq_nil_iff.1 nothing)

theorem Shown.not_mem_lineFeed {shown : List Char} (isShown : Shown symbol shown) :
    '\n' ∉ shown := by
  cases isShown with
  | quoted written => simpa using written.not_mem_lineFeed
  | bare bare => exact bare.isSpelled.not_mem_lineFeed

/-- Symbols are told apart by what they are shown as in front of a gap. -/
theorem toldApart_renderWith (usual : escaping.IsUsual) :
    Text.ToldApart (renderWith escaping) IsShowable := by
  intro left right leftShowable rightShowable rest back atGap atGap' same
  have first := shown_renderWith usual leftShowable
  have second := shown_renderWith usual rightShowable
  exact first.append_inj second atGap atGap' same

theorem renderWith_ne_empty (usual : escaping.IsUsual) (symbol : Symbol)
    (showable : symbol.IsShowable) : symbol.renderWith escaping ≠ "" := by
  intro nothing
  exact (shown_renderWith usual showable).ne_nil (String.toList_eq_nil_iff.2 nothing)

end Symbol

/-- The empty line is shown like the empty terminal, which no line holds. -/
def Line.orEpsilon : Line → Line
  | [] => [.terminal epsilon]
  | symbol :: rest => symbol :: rest

namespace Line

variable {left right line : Line}

theorem renderWith_eq (line : Line) :
    line.renderWith escaping = " ".intercalate (line.orEpsilon.map (Symbol.renderWith escaping)) := by
  cases line with
  | nil => rfl
  | cons symbol rest => rfl

theorem isShowable_orEpsilon (proper : ∀ symbol ∈ line, symbol.IsProper) :
    ∀ symbol ∈ line.orEpsilon, symbol.IsShowable := by
  cases line with
  | nil => simp [orEpsilon, Symbol.IsShowable]
  | cons first rest => exact fun symbol member => (proper symbol member).1

theorem orEpsilon_inj (leftProper : ∀ symbol ∈ left, symbol.IsProper)
    (rightProper : ∀ symbol ∈ right, symbol.IsProper) (same : left.orEpsilon = right.orEpsilon) :
    left = right := by
  cases left with
  | nil =>
      cases right with
      | nil => rfl
      | cons symbol rest =>
          cases same
          exact absurd rfl (List.forall_mem_cons.1 rightProper).1.2
  | cons symbol rest =>
      cases right with
      | nil =>
          cases same
          exact absurd rfl (List.forall_mem_cons.1 leftProper).1.2
      | cons symbol' rest' => exact same

/-- No two lines of grammar files are shown alike, however characters without a short
escape are written. -/
theorem eq_iff_shown_alike (usual : escaping.IsUsual) (left right : Line)
    (leftProper : ∀ symbol ∈ left, symbol.IsProper) (rightProper : ∀ symbol ∈ right, symbol.IsProper) :
    left.renderWith escaping = right.renderWith escaping ↔ left = right := by
  constructor
  · intro same
    rw [renderWith_eq, renderWith_eq] at same
    apply orEpsilon_inj leftProper rightProper
    exact (Symbol.toldApart_renderWith usual).intercalate_inj (Symbol.renderWith_ne_empty usual)
      (isShowable_orEpsilon leftProper) (isShowable_orEpsilon rightProper) same
  · exact congrArg (Line.renderWith escaping)

/-- A terminal whose text looks like the end of a terminal, a nonterminal and the
beginning of a terminal. -/
def forgedLine : Line :=
  [.terminal "x\" y \"z"]

/-- The symbols that it looks like. -/
def plainLine : Line :=
  [.terminal "x", .nonterminal "y", .terminal "z"]

theorem forgedLine_shown :
    Text.escapeChar.IsUsual ∧ (∀ symbol ∈ forgedLine, symbol.IsProper) ∧
      (∀ symbol ∈ plainLine, symbol.IsProper) ∧ forgedLine.render ≠ plainLine.render := by
  have usual := Text.escapeChar_isUsual
  have forged : ∀ symbol ∈ forgedLine, symbol.IsProper := by decide
  have plain : ∀ symbol ∈ plainLine, symbol.IsProper := by decide
  have apart := eq_iff_shown_alike usual forgedLine plainLine forged plain
  exact ⟨usual, forged, plain, fun same => absurd (apart.1 same) (by decide)⟩

end Line

end Lookahead
