import Lookahead.Proofs.Source.WellFormed

/-!
# Grammars that are written

A grammar is written with one rule on each line.  A written rule is a layout of
the tokens of its symbols, so a well-formed grammar is read back from what is
written.
-/

namespace Lookahead

/-- A symbol as it is written in a grammar text, without any escaping. -/
def Symbol.write : Symbol → String
  | .terminal text => "\"" ++ text ++ "\""
  | .nonterminal name => name

/-- A line as it is written in a grammar text.  The empty line is written as
nothing. -/
def Line.write (line : Line) : String :=
  " ".intercalate (line.map Symbol.write)

namespace Grammar

/-- A rule as it is written in a grammar text. -/
def writeRule (rule : String × List Line) : String :=
  rule.1 ++ " = " ++ " | ".intercalate (rule.2.map Line.write)

/-- The rules of a grammar in order, each on its own line. -/
def write (grammar : Grammar) : String :=
  "\n".intercalate (grammar.rules.entries.map writeRule)

end Grammar

namespace Source

/-- The tokens that a line is written as. -/
def tokensOf (line : Line) : List Token :=
  line.map tokenOf

/-- The tokens that alternatives are written as. -/
def tokensOfAlternatives (alternatives : List Line) : List Token :=
  [Token.bar].intercalate (alternatives.map tokensOf)

/-- Wherever these characters begin, they are laid out from these tokens. -/
def Spells (chars : List Char) (tokens : List Token) : Prop :=
  ∀ start, ∃ lexemes, Layout start chars lexemes ∧ lexemes.map Located.value = tokens

/-- A symbol can be written and read back. -/
structure IsWritable (symbol : Symbol) : Prop where
  spelled : (tokenOf symbol).IsSpelled
  shown : (tokenOf symbol).symbol? = some symbol
  content : Text.IsContent symbol.write.toList

variable {chars rest : List Char} {tokens : List Token} {line : Line} {alternatives : List Line}
variable {name : String} {symbol : Symbol} {grammar : Grammar}

/-! ## Layouts of what is written -/

theorem toList_write (symbol : Symbol) : symbol.write.toList = (tokenOf symbol).spelling := by
  cases symbol with
  | terminal text => simp [Symbol.write, tokenOf, Token.spelling]
  | nonterminal name => rfl

theorem tokensOfAlternatives_cons_cons (line next : Line) (alternatives : List Line) :
    tokensOfAlternatives (line :: next :: alternatives) =
      tokensOf line ++ .bar :: tokensOfAlternatives (next :: alternatives) := by
  simp [tokensOfAlternatives]

/-- A blank ends every token. -/
theorem endsBefore_of_blank (token : Token)
    (apart : ∀ char, rest.head? = some char → Text.isBlank char = true) :
    token.EndsBefore rest := by
  cases token with
  | equals => trivial
  | bar => trivial
  | terminal text => trivial
  | nonterminal name =>
      intro char head
      simp [isNameChar, apart char head]

namespace Spells

theorem nil : Spells [] [] := by
  intro start
  exact ⟨[], .done start, rfl⟩

theorem blank {char : Char} (blank : Text.isBlank char = true) (later : Spells rest tokens) :
    Spells (char :: rest) tokens := by
  intro start
  rcases later (start + char.utf8Size) with ⟨lexemes, layout, values⟩
  exact ⟨lexemes, .blank blank layout, values⟩

theorem token {token : Token} (spelled : token.IsSpelled)
    (apart : ∀ char, rest.head? = some char → Text.isBlank char = true)
    (later : Spells rest tokens) : Spells (token.spelling ++ rest) (token :: tokens) := by
  intro start
  rcases later (start + token.width) with ⟨lexemes, layout, values⟩
  have longer := Layout.token spelled (endsBefore_of_blank token apart) layout
  exact ⟨_, longer, by rw [List.map_cons, values]⟩

end Spells

theorem spells_line (spelled : ∀ symbol ∈ line, (tokenOf symbol).IsSpelled)
    (apart : ∀ char, rest.head? = some char → Text.isBlank char = true)
    (later : Spells rest tokens) :
    Spells (line.write.toList ++ rest) (tokensOf line ++ tokens) := by
  induction line with
  | nil => exact later
  | cons symbol line ih =>
      rw [List.forall_mem_cons] at spelled
      cases line with
      | nil =>
          have shape : Line.write [symbol] = symbol.write := String.intercalate_singleton
          rw [shape, toList_write]
          exact Spells.token spelled.1 apart later
      | cons next line =>
          have shape : (Line.write (symbol :: next :: line)).toList ++ rest =
              (tokenOf symbol).spelling ++
                (' ' :: ((Line.write (next :: line)).toList ++ rest)) := by
            simp [Line.write, String.intercalate_cons_cons, toList_write]
          rw [shape]
          apply Spells.token spelled.1
          · simp [show Text.isBlank ' ' = true by decide]
          · exact Spells.blank (by decide) (ih spelled.2)

theorem spells_alternatives
    (spelled : ∀ line ∈ alternatives, ∀ symbol ∈ line, (tokenOf symbol).IsSpelled) :
    Spells (" | ".intercalate (alternatives.map Line.write)).toList
      (tokensOfAlternatives alternatives) := by
  induction alternatives with
  | nil => exact Spells.nil
  | cons line alternatives ih =>
      rw [List.forall_mem_cons] at spelled
      cases alternatives with
      | nil =>
          have alone := spells_line spelled.1 (by simp) Spells.nil
          simpa [tokensOfAlternatives] using alone
      | cons next alternatives =>
          have shape : (" | ".intercalate ((line :: next :: alternatives).map Line.write)).toList =
              line.write.toList ++ (' ' :: (Token.bar.spelling ++ (' ' ::
                (" | ".intercalate ((next :: alternatives).map Line.write)).toList))) := by
            simp [String.intercalate_cons_cons, Token.spelling]
          have isBlank : Text.isBlank ' ' = true := by decide
          have isSpelled : Token.bar.IsSpelled := trivial
          rw [shape, tokensOfAlternatives_cons_cons]
          apply spells_line spelled.1
          · simp [isBlank]
          · apply Spells.blank isBlank
            apply Spells.token isSpelled
            · simp [isBlank]
            · exact Spells.blank isBlank (ih spelled.2)

theorem spells_rule {rule : String × List Line} (named : (Token.nonterminal rule.1).IsSpelled)
    (spelled : ∀ line ∈ rule.2, ∀ symbol ∈ line, (tokenOf symbol).IsSpelled) :
    Spells (Grammar.writeRule rule).toList
      (.nonterminal rule.1 :: .equals :: tokensOfAlternatives rule.2) := by
  have shape : (Grammar.writeRule rule).toList =
      (Token.nonterminal rule.1).spelling ++ (' ' :: (Token.equals.spelling ++ (' ' ::
        (" | ".intercalate (rule.2.map Line.write)).toList))) := by
    simp [Grammar.writeRule, Token.spelling]
  have isBlank : Text.isBlank ' ' = true := by decide
  have isSpelled : Token.equals.IsSpelled := trivial
  rw [shape]
  apply Spells.token named
  · simp [isBlank]
  · apply Spells.blank isBlank
    apply Spells.token isSpelled
    · simp [isBlank]
    · exact Spells.blank isBlank (spells_alternatives spelled)


/-! ## Rules read back -/

theorem map_value_symbolsOf (run : List Lexeme) :
    (symbolsOf run).map Located.value = (run.map Located.value).filterMap Token.symbol? := by
  induction run with
  | nil => rfl
  | cons lexeme run ih =>
      rw [List.map_cons]
      cases shown : lexeme.value.symbol? with
      | none => simpa [symbolsOf, shown] using ih
      | some symbol => simpa [symbolsOf, shown] using ih

theorem filterMap_tokensOf (shown : ∀ symbol ∈ line, (tokenOf symbol).symbol? = some symbol) :
    (tokensOf line).filterMap Token.symbol? = line := by
  induction line with
  | nil => rfl
  | cons symbol line ih =>
      rw [List.forall_mem_cons] at shown
      rw [tokensOf, List.map_cons, List.filterMap_cons_some shown.1]
      rw [← tokensOf, ih shown.2]

theorem mark_not_mem_tokensOf {mark : Token} (mute : mark.symbol? = none)
    (shown : ∀ symbol ∈ line, (tokenOf symbol).symbol? = some symbol) : mark ∉ tokensOf line := by
  intro member
  rcases List.mem_map.1 member with ⟨symbol, inLine, rfl⟩
  rw [shown symbol inLine] at mute
  cases mute

/-- Lexemes of the tokens of a line are read as this line. -/
theorem read_tokensOf {run : List Lexeme}
    (shown : ∀ symbol ∈ line, (tokenOf symbol).symbol? = some symbol)
    (values : run.map Located.value = tokensOf line) :
    (∀ lexeme ∈ run, lexeme.value ≠ .equals ∧ lexeme.value ≠ .bar) ∧
      (symbolsOf run).map Located.value = line := by
  constructor
  · intro lexeme member
    have inTokens : lexeme.value ∈ tokensOf line := values ▸ List.mem_map_of_mem member
    constructor
    · intro mark
      exact mark_not_mem_tokensOf rfl shown (mark ▸ inTokens)
    · intro mark
      exact mark_not_mem_tokensOf rfl shown (mark ▸ inTokens)
  · rw [map_value_symbolsOf, values, filterMap_tokensOf shown]

/-- Lexemes of the tokens of alternatives are read as these alternatives. -/
theorem read_tokensOfAlternatives {body : List Lexeme} (inhabited : alternatives ≠ [])
    (shown : ∀ line ∈ alternatives, ∀ symbol ∈ line, (tokenOf symbol).symbol? = some symbol)
    (values : body.map Located.value = tokensOfAlternatives alternatives) :
    (∀ lexeme ∈ body, lexeme.value ≠ .equals) ∧
      ((splitAtBars body).map symbolsOf).map (·.map Located.value) = alternatives := by
  induction alternatives generalizing body with
  | nil => contradiction
  | cons line alternatives ih =>
      rw [List.forall_mem_cons] at shown
      cases alternatives with
      | nil =>
          rw [tokensOfAlternatives, List.map_singleton, List.intercalate_singleton] at values
          have alone := read_tokensOf shown.1 values
          constructor
          · intro lexeme member
            exact (alone.1 lexeme member).1
          · rw [splitAtBars_of_no_bar fun lexeme member => (alone.1 lexeme member).2]
            simp [alone.2]
      | cons next alternatives =>
          rw [tokensOfAlternatives_cons_cons] at values
          rcases List.map_eq_append_iff.1 values with ⟨front, tail, rfl, first, others⟩
          rcases List.map_eq_cons_iff.1 others with ⟨bar, back, rfl, mark, later⟩
          have alone := read_tokensOf shown.1 first
          have rest := ih (List.cons_ne_nil next alternatives) shown.2 later
          constructor
          · intro lexeme member
            cases List.mem_append.1 member with
            | inl inFront => exact (alone.1 lexeme inFront).1
            | inr inTail =>
                cases inTail with
                | head => simp [mark]
                | tail _ inBack => exact rest.1 lexeme inBack
          · rw [splitAtBars_append_bar (fun lexeme member => (alone.1 lexeme member).2) mark]
            rw [List.map_cons, List.map_cons, alone.2, rest.2]

/-- A written rule is read back, wherever its line begins. -/
theorem exists_rule_of_writeRule {rule : String × List Line} (named : IsRuleName rule.1)
    (inhabited : rule.2 ≠ []) (writable : ∀ line ∈ rule.2, ∀ symbol ∈ line, IsWritable symbol)
    (offset : Nat) :
    ∃ found, Rule.ofLine (Grammar.writeRule rule) offset = .ok found ∧ found.entry = rule := by
  have spells := spells_rule named.isSpelled
    fun line listed symbol member => (writable line listed symbol member).spelled
  rcases spells offset with ⟨lexemes, layout, values⟩
  rcases List.map_eq_cons_iff.1 values with ⟨⟨token, place⟩, tail, rfl, rfl, others⟩
  rcases List.map_eq_cons_iff.1 others with ⟨⟨mark, span⟩, body, rfl, rfl, later⟩
  have read := read_tokensOfAlternatives inhabited
    (fun line listed symbol member => (writable line listed symbol member).shown) later
  exists ⟨rule.1, (splitAtBars body).map symbolsOf, place⟩
  constructor
  · exact Rule.ofLine_eq_ok_iff.2 ⟨span, body, layout, named.unreserved, read.1, rfl⟩
  · rw [Rule.entry, read.2]

/-! ## Lines of written rules -/

theorem isRuleLine_writeRule {rule : String × List Line} (named : IsRuleName rule.1) :
    Text.isRuleLine (Grammar.writeRule rule) = true := by
  cases letters : rule.1.toList with
  | nil => exact absurd (String.toList_eq_nil_iff.1 letters) named.inhabited
  | cons letter others =>
      have solid := (named.plain letter (by simp [letters])).1
      have noComment := named.noComment
      rw [letters, List.head?_cons] at noComment
      have shape : (Grammar.writeRule rule).toList = [] ++ letter :: (others ++
          (" = ".toList ++ (" | ".intercalate (rule.2.map Line.write)).toList)) := by
        simp [Grammar.writeRule, letters]
      rw [Text.isRuleLine_eq shape (List.forall_mem_nil _) solid, bne_iff_ne]
      simpa using noComment

theorem isContent_of_isRuleName (named : IsRuleName name) : Text.IsContent name.toList := by
  have solid : ∀ char, Text.isBlank char = true → char ∉ name.toList := by
    intro char blank member
    have plain := (named.plain char member).1
    rw [blank] at plain
    cases plain
  constructor
  · exact solid '\n' (by decide)
  · intro last
    exact solid '\r' (by decide) (List.mem_of_getLast? last)

theorem isContent_write_terminal {text : Terminal} (noFeed : '\n' ∉ text.toList) :
    Text.IsContent (Symbol.terminal text).write.toList := by
  have shape : (Symbol.terminal text).write.toList = ('"' :: text.toList) ++ ['"'] := by
    simp [Symbol.write]
  rw [shape]
  constructor
  · simp [noFeed]
  · rw [List.getLast?_concat]
    simp

/-- A written rule is the content of a line. -/
theorem isContent_writeRule {rule : String × List Line} (named : IsRuleName rule.1)
    (writable : ∀ line ∈ rule.2, ∀ symbol ∈ line, IsWritable symbol) :
    Text.IsContent (Grammar.writeRule rule).toList := by
  have lines : ∀ line ∈ rule.2.map Line.write, Text.IsContent line.toList := by
    intro written listed
    rcases List.mem_map.1 listed with ⟨line, inRule, rfl⟩
    apply Text.IsContent.intercalate (by simp [Text.IsContent])
    intro word member
    rcases List.mem_map.1 member with ⟨symbol, inLine, rfl⟩
    exact (writable line inRule symbol inLine).content
  rw [Grammar.writeRule, String.toList_append, String.toList_append]
  apply Text.IsContent.append
  · exact (isContent_of_isRuleName named).append (by simp [Text.IsContent])
  · exact Text.IsContent.intercalate (by simp [Text.IsContent]) lines

end Source

end Lookahead
