import Lookahead.Text.Printable

/-!
# Escaped text

A terminal is shown between double quotes with its unusual characters escaped:
seven characters have a short escape, those that leave no mark are written by
code point, and a character that would attach to the opening quote is written by
code point as well.
-/

namespace Lookahead.Text

/-- A way to write each character of a text.  The flag says that the character is the
first of its text. -/
abbrev Escaping := Bool → Char → List Char

/-- The letter after the backslash, for the characters with a short escape. -/
def shortEscape? : Char → Option Char
  | '\x00' => some '0'
  | '\t' => some 't'
  | '\r' => some 'r'
  | '\n' => some 'n'
  | '\'' => some '\''
  | '"' => some '"'
  | '\\' => some '\\'
  | _ => none

/-- A character written by its code point, in lowercase hexadecimal digits. -/
def codeEscape (char : Char) : List Char :=
  ['\\', 'u', '\x7b'] ++ Nat.toDigits 16 char.toNat ++ ['\x7d']

/-- The way in which reports write characters. -/
def escapeChar : Escaping := fun leading char =>
  match shortEscape? char with
  | some letter => ['\\', letter]
  | none =>
      if leading && isExtending char then codeEscape char
      else if isPrintable char then [char]
      else codeEscape char

/-- The characters of a text, each written in the given way. -/
def escapeChars (escaping : Escaping) : List Char → List Char
  | [] => []
  | char :: rest => escaping true char ++ rest.flatMap (escaping false)

/-- A text with its characters written in the given way. -/
def escapeWith (escaping : Escaping) (text : String) : String :=
  String.ofList (escapeChars escaping text.toList)

end Lookahead.Text
