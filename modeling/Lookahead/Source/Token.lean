import Lookahead.Span
import Lookahead.Source.Fault
import Lookahead.Text.Bytes
import Lookahead.Text.CharClass

/-!
# Tokens of a rule line

A rule line is a sequence of tokens between blanks.  A terminal stands between
double quotes and is taken as it is written; a nonterminal is a longest run of
characters that neither are blanks nor have a meaning of their own.  Reading a
token gives back the characters that were not read.
-/

namespace Lookahead.Source

/-- A unit of a rule line. -/
inductive Token where
  | equals
  | bar
  | nonterminal (name : String)
  | terminal (text : String)
  deriving DecidableEq, Repr

/-- A token and where it was found. -/
abbrev Lexeme := Located Token

namespace Token

/-- The characters that a token is written with. -/
def spelling : Token → List Char
  | .equals => ['=']
  | .bar => ['|']
  | .nonterminal name => name.toList
  | .terminal text => '"' :: text.toList ++ ['"']

/-- The number of bytes that a token takes up in a line. -/
def width (token : Token) : Nat :=
  Text.byteLength token.spelling

end Token

/-- Whether a character can stand in a nonterminal. -/
def isNameChar (char : Char) : Bool :=
  !(Text.isBlank char || char == '=' || char == '|' || char == '"')

/-- Whether a character can stand in a terminal. -/
def isQuotedChar (char : Char) : Bool :=
  char != '"'

/-- Read a terminal whose opening quote is the first character, which is passed
without a look.  A terminal without closing quote takes up all the rest. -/
def readTerminal (chars : List Char) : Except Fault Token × List Char :=
  let body := chars.drop 1
  match body.dropWhile isQuotedChar with
  | [] => (.error .openQuote, [])
  | _ :: rest => (.ok (.terminal (String.ofList (body.takeWhile isQuotedChar))), rest)

/-- Read a nonterminal: the longest run of its characters. -/
def readNonterminal (chars : List Char) : Token × List Char :=
  (.nonterminal (String.ofList (chars.takeWhile isNameChar)), chars.dropWhile isNameChar)

/-- Read the token that begins with `first`, which is not a blank. -/
def readToken (first : Char) (rest : List Char) : Except Fault Token × List Char :=
  if first = '=' then (.ok .equals, rest)
  else if first = '|' then (.ok .bar, rest)
  else if first = '"' then readTerminal (first :: rest)
  else
    let (name, unread) := readNonterminal (first :: rest)
    (.ok name, unread)

/-- A token takes up at least one character, unless it begins with a blank. -/
theorem length_readToken_le {first : Char} (rest : List Char)
    (solid : Text.isBlank first = false) :
    (readToken first rest).2.length ≤ rest.length := by
  unfold readToken
  split
  · exact Nat.le_refl _
  · split
    · exact Nat.le_refl _
    · split
      · simp only [readTerminal, List.drop_succ_cons, List.drop_zero]
        have shorter := (List.dropWhile_sublist (l := rest) isQuotedChar).length_le
        split
        · exact Nat.zero_le _
        · next found =>
            rw [found, List.length_cons] at shorter
            exact Nat.le_of_succ_le shorter
      · next notEquals notBar notQuote =>
          have named : isNameChar first = true := by
            simp [isNameChar, solid, notEquals, notBar, notQuote]
          simpa [readNonterminal, List.dropWhile_cons, named] using
            (List.dropWhile_sublist isNameChar).length_le

/-- Read all tokens of the characters that begin at byte `start`.  Blanks are
passed over; a token that cannot be read puts the whole rest at fault. -/
def lexFrom (start : Nat) : List Char → Except Diagnostic (List Lexeme)
  | [] => .ok []
  | first :: rest =>
      if blank : Text.isBlank first = true then lexFrom (start + first.utf8Size) rest
      else
        match unread : readToken first rest with
        | (.error fault, _) =>
            .error ⟨fault, start, start + Text.byteLength (first :: rest)⟩
        | (.ok token, after) =>
            have shorter : after.length ≤ rest.length := by
              have bound := length_readToken_le rest (Bool.eq_false_iff.2 blank)
              rwa [unread] at bound
            let stop := start + token.width
            (lexFrom stop after).map (⟨token, start, stop⟩ :: ·)
termination_by chars => chars.length
decreasing_by
  · exact Nat.lt_succ_self _
  · exact Nat.lt_succ_of_le shorter

/-- The tokens of a line that begins at byte `offset` of its text. -/
def lex (line : String) (offset : Nat) : Except Diagnostic (List Lexeme) :=
  lexFrom offset line.toList

end Lookahead.Source
