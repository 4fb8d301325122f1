import Lookahead.Proofs.Text.Escaping
import Lookahead.Proofs.Source.Writing

/-!
# Shown lines that are read

A line is shown with its terminals escaped, but what stands between quotes is read as it
is.  So a shown line is read as the same symbols with escaped terminals.  These are the
symbols of the line exactly if there was nothing to escape.
-/

namespace Lookahead

variable {escaping : Text.Escaping}

/-! ## Characters that are kept -/

namespace Text

variable {char : Char} {chars shown more rest after : List Char}

/-- How a character can be written: as itself, or after a backslash and without a quote,
unless the character is one. -/
inductive KeptOrMarked (char : Char) : List Char → Prop where
  | kept : KeptOrMarked char [char]
  | marked {after : List Char} : after ≠ [] → (char ≠ '"' → '"' ∉ after) →
      KeptOrMarked char ('\\' :: after)

/-- A character that is not kept is marked by a backslash. -/
def Escaping.Marks (escaping : Escaping) : Prop :=
  ∀ leading char, KeptOrMarked char (escaping leading char)

/-- Each of some characters is written as itself. -/
def Escaping.Keeps (escaping : Escaping) : List Char → Prop
  | [] => True
  | char :: rest => escaping true char = [char] ∧ ∀ later ∈ rest, escaping false later = [later]

theorem Escape.not_mem_quote (escape : Escape char after) (notQuote : char ≠ '"') :
    '"' ∉ after := by
  cases escape with
  | letter found _ =>
      have letters : ∀ pair ∈ shortEscapes, pair.2 = '"' → pair.1 = '"' := by decide
      rw [List.mem_singleton]
      intro same
      exact notQuote (letters _ (shortEscape?_eq_some found) same.symm)
  | code =>
      have digits : '"' ∉ Nat.toDigits 16 char.toNat :=
        not_mem_toDigits _ fun digit => Nat.digitChar_ne '"' (by decide)
      simpa using digits

theorem Written.keptOrMarked (written : Written char shown) : KeptOrMarked char shown := by
  cases written with
  | plain _ _ _ => exact .kept
  | escape escape => exact .marked (by cases escape <;> simp) escape.not_mem_quote

theorem Escaping.IsUsual.marks (usual : escaping.IsUsual) : escaping.Marks :=
  fun leading char => (usual.written leading char).keptOrMarked

namespace KeptOrMarked

theorem length_pos (written : KeptOrMarked char shown) : 0 < shown.length := by
  cases written <;> simp

theorem not_mem_quote (written : KeptOrMarked char shown) (notQuote : char ≠ '"') :
    '"' ∉ shown := by
  cases written with
  | kept => simpa using notQuote.symm
  | marked _ noQuote => simpa using noQuote notQuote

/-- A character that is not kept takes up more room than it had. -/
theorem append_eq_cons_iff (written : KeptOrMarked char shown)
    (longer : rest.length ≤ more.length) :
    shown ++ more = char :: rest ↔ shown = [char] ∧ more = rest := by
  constructor
  · intro same
    cases written with
    | kept => exact ⟨rfl, (List.cons.inj same).2⟩
    | marked inhabited _ =>
        have lengths := congrArg List.length same
        have visible := List.length_pos_iff.2 inhabited
        simp only [List.length_append, List.length_cons] at lengths
        omega
  · rintro ⟨rfl, rfl⟩
    rfl

end KeptOrMarked

section Marks

variable (marks : escaping.Marks)

include marks

theorem length_le_length_flatMap (chars : List Char) :
    chars.length ≤ (chars.flatMap (escaping false)).length := by
  induction chars with
  | nil => exact Nat.le_refl _
  | cons char rest ih =>
      have visible := (marks false char).length_pos
      rw [List.flatMap_cons, List.length_append, List.length_cons]
      omega

theorem flatMap_eq_self_iff :
    chars.flatMap (escaping false) = chars ↔ ∀ char ∈ chars, escaping false char = [char] := by
  induction chars with
  | nil => simp
  | cons char rest ih =>
      rw [List.flatMap_cons, List.forall_mem_cons, ← ih]
      exact (marks false char).append_eq_cons_iff (length_le_length_flatMap marks rest)

/-- A text is escaped to itself only if all of its characters are kept. -/
theorem escapeWith_eq_self_iff (text : String) :
    escapeWith escaping text = text ↔ escaping.Keeps text.toList := by
  rw [escapeWith, ← String.toList_inj, String.toList_ofList]
  cases text.toList with
  | nil => exact iff_of_true rfl trivial
  | cons char rest =>
      rw [escapeChars, Escaping.Keeps, ← flatMap_eq_self_iff marks]
      exact (marks true char).append_eq_cons_iff (length_le_length_flatMap marks rest)

theorem not_mem_quote_escapeWith {text : String} (noQuote : '"' ∉ text.toList) :
    '"' ∉ (escapeWith escaping text).toList := by
  rw [escapeWith, String.toList_ofList]
  have quoteless {leading : Bool} {char : Char} (member : char ∈ text.toList) :
      '"' ∉ escaping leading char :=
    (marks leading char).not_mem_quote fun quote => noQuote (quote ▸ member)
  cases letters : text.toList with
  | nil => exact List.not_mem_nil
  | cons char rest =>
      rw [letters] at quoteless
      rw [escapeChars, List.mem_append, List.mem_flatMap]
      rintro (inFirst | ⟨later, inRest, inLater⟩)
      · exact quoteless List.mem_cons_self inFirst
      · exact quoteless (List.mem_cons_of_mem char inRest) inLater

end Marks

end Text

/-! ## Symbols with escaped terminals -/

namespace Symbol

variable {symbol : Symbol}

/-- The symbol whose terminal has been escaped. -/
def escape (escaping : Text.Escaping) : Symbol → Symbol
  | .terminal text => .terminal (Text.escapeWith escaping text)
  | .nonterminal name => .nonterminal name

/-- The symbol can be written as one token, if nothing is escaped. -/
def HasToken : Symbol → Prop
  | .terminal text => text ≠ "" ∧ '"' ∉ text.toList
  | .nonterminal name =>
      name ≠ "" ∧ ∀ char ∈ name.toList,
        Text.isBlank char = false ∧ char ≠ '=' ∧ char ≠ '|' ∧ char ≠ '"'

theorem isSpelled_iff_hasToken {name : String} :
    (Source.Token.nonterminal name).IsSpelled ↔ (nonterminal name).HasToken :=
  and_congr_right fun _ => forall₂_congr fun _ _ => Source.isNameChar_iff

instance : DecidablePred HasToken
  | .terminal text => inferInstanceAs (Decidable (text ≠ "" ∧ '"' ∉ text.toList))
  | .nonterminal name =>
      decidable_of_iff (Source.Token.nonterminal name).IsSpelled isSpelled_iff_hasToken

theorem HasToken.visible (told : symbol.HasToken) : symbol ≠ .terminal epsilon := by
  rintro rfl
  exact told.1 rfl

theorem HasToken.spelled (told : symbol.HasToken) : (Source.tokenOf symbol).IsSpelled := by
  cases symbol with
  | terminal text => exact told.2
  | nonterminal name => exact isSpelled_iff_hasToken.2 told

theorem renderWith_eq_write (visible : symbol ≠ .terminal epsilon) :
    symbol.renderWith escaping = (symbol.escape escaping).write := by
  cases symbol with
  | terminal text =>
      have inhabited : text ≠ epsilon := fun empty => visible (congrArg Symbol.terminal empty)
      rw [renderWith, Terminal.renderWith, if_neg inhabited]
      rfl
  | nonterminal name => rfl

theorem isSpelled_escape (marks : escaping.Marks) (spelled : (Source.tokenOf symbol).IsSpelled) :
    (Source.tokenOf (symbol.escape escaping)).IsSpelled := by
  cases symbol with
  | terminal text => exact Text.not_mem_quote_escapeWith marks spelled
  | nonterminal name => exact spelled

theorem IsReadable.hasToken (readable : symbol.IsReadable) : symbol.HasToken := by
  cases symbol with
  | terminal text => exact ⟨readable.1, readable.2.1⟩
  | nonterminal name => exact ⟨readable.inhabited, readable.plain⟩

end Symbol

namespace Line

variable {line : Line}

/-- The line whose terminals have been escaped. -/
def escape (escaping : Text.Escaping) (line : Line) : Line :=
  line.map (Symbol.escape escaping)

theorem renderWith_eq_write (inhabited : line ≠ [])
    (visible : ∀ symbol ∈ line, symbol ≠ .terminal epsilon) :
    line.renderWith escaping = (line.escape escaping).write := by
  have words : line.map (Symbol.renderWith escaping) =
      (line.escape escaping).map Symbol.write := by
    rw [escape, List.map_map]
    exact List.map_congr_left fun symbol member =>
      Symbol.renderWith_eq_write (visible symbol member)
  rw [renderWith, if_neg (by simpa using inhabited), words, write]

/-- Escaping leaves the tokens of a line as they are only if it keeps all characters. -/
theorem tokensOf_escape_eq_iff (marks : escaping.Marks) :
    Source.tokensOf (line.escape escaping) = Source.tokensOf line ↔
      ∀ text, .terminal text ∈ line → escaping.Keeps text.toList := by
  rw [Source.tokensOf, Source.tokensOf, escape, List.map_map, List.map_inj_left]
  constructor
  · intro same text member
    have token := same (.terminal text) member
    exact (Text.escapeWith_eq_self_iff marks text).1 (Source.Token.terminal.inj token)
  · intro keeps symbol member
    cases symbol with
    | terminal text =>
        have kept := (Text.escapeWith_eq_self_iff marks text).2 (keeps text member)
        exact congrArg Source.Token.terminal kept
    | nonterminal name => rfl

end Line

/-! ## Shown lines -/

namespace Source

variable {line : Line}

theorem exists_lexemes_of_renderWith (marks : escaping.Marks) (inhabited : line ≠ [])
    (told : ∀ symbol ∈ line, symbol.HasToken) (offset : Nat) :
    ∃ lexemes, lex (line.renderWith escaping) offset = .ok lexemes ∧
      lexemes.map Located.value = tokensOf (line.escape escaping) := by
  have spelled : ∀ symbol ∈ line.escape escaping, (tokenOf symbol).IsSpelled := by
    rw [Line.escape, List.forall_mem_map]
    exact fun symbol member => Symbol.isSpelled_escape marks (told symbol member).spelled
  have spells := spells_line spelled (by simp) Spells.nil
  rw [List.append_nil, List.append_nil] at spells
  obtain ⟨lexemes, layout, values⟩ := spells offset
  rw [Line.renderWith_eq_write inhabited fun symbol member => (told symbol member).visible]
  exact ⟨lexemes, lexFrom_of_layout layout, values⟩

/-- A shown line is read as its symbols with escaped terminals, one token for each, and so
gives back the line exactly if no character was escaped.  Every line of a grammar that is
read is of this kind, but the empty one. -/
theorem shown_lines_are_read_escaped (marks : escaping.Marks) :
    (∀ (line : Line) (offset : Nat), line ≠ [] → (∀ symbol ∈ line, symbol.HasToken) →
      ∃ lexemes, lex (line.renderWith escaping) offset = .ok lexemes ∧
        lexemes.map Located.value = tokensOf (line.escape escaping) ∧
        (lexemes.map Located.value = tokensOf line ↔
          ∀ text, .terminal text ∈ line → escaping.Keeps text.toList)) ∧
      ∀ text grammar, parse text = .ok grammar →
        ∀ line, grammar.IsRegistered line → ∀ symbol ∈ line, symbol.HasToken := by
  constructor
  · intro line offset inhabited told
    obtain ⟨lexemes, read, values⟩ := exists_lexemes_of_renderWith marks inhabited told offset
    refine ⟨lexemes, read, values, ?_⟩
    rw [values]
    exact Line.tokensOf_escape_eq_iff marks
  · intro text grammar read line registered symbol member
    exact ((wellFormed_of_parse read).isReadable registered symbol member).hasToken

/-- A line that begins like the empty one, with blanks and marks between quotes. -/
def quotedMarks : Line :=
  [.nonterminal "ε", .terminal " = |", .terminal ";λ"]

/-- A line with an apostrophe and a backslash between quotes. -/
def quotedEscapes : Line :=
  [.terminal "it's", .nonterminal "x", .terminal "\\"]

theorem quotedMarks_quotedEscapes_read :
    Text.escapeChar.Marks ∧ (∀ symbol ∈ quotedMarks, symbol.HasToken) ∧
      (∀ symbol ∈ quotedEscapes, symbol.HasToken) ∧
      (∃ lexemes, lex quotedMarks.render 0 = .ok lexemes ∧
        lexemes.map Located.value = tokensOf quotedMarks) ∧
      ∃ lexemes, lex quotedEscapes.render 0 = .ok lexemes ∧
        lexemes.map Located.value =
          [.terminal "it\\'s", .nonterminal "x", .terminal "\\\\"] ∧
        lexemes.map Located.value ≠ tokensOf quotedEscapes := by
  have marks := Text.escapeChar_isUsual.marks
  have marksTold : ∀ symbol ∈ quotedMarks, symbol.HasToken := by decide +kernel
  have escapesTold : ∀ symbol ∈ quotedEscapes, symbol.HasToken := by decide +kernel
  obtain ⟨first, readFirst, _, givesBack⟩ :=
    (shown_lines_are_read_escaped marks).1 quotedMarks 0 (List.cons_ne_nil _ _) marksTold
  obtain ⟨second, readSecond, escaped, _⟩ :=
    (shown_lines_are_read_escaped marks).1 quotedEscapes 0 (List.cons_ne_nil _ _) escapesTold
  have kept : ∀ text, .terminal text ∈ quotedMarks → Text.escapeChar.Keeps text.toList := by
    intro text member
    simp only [quotedMarks, List.mem_cons, Symbol.terminal.injEq, reduceCtorEq, false_or,
      List.not_mem_nil, or_false] at member
    rcases member with rfl | rfl
    · exact (Text.escapeWith_eq_self_iff marks _).1 (by decide +kernel)
    · exact (Text.escapeWith_eq_self_iff marks _).1 (by decide +kernel)
  have shape : tokensOf (quotedEscapes.escape Text.escapeChar) =
      [.terminal "it\\'s", .nonterminal "x", .terminal "\\\\"] := by
    decide +kernel
  rw [shape] at escaped
  refine ⟨marks, marksTold, escapesTold, ⟨first, readFirst, givesBack.2 kept⟩, second, readSecond,
    escaped, ?_⟩
  rw [escaped]
  decide +kernel

end Source

end Lookahead
