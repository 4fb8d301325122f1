import Lookahead.Text.Escape
import Lookahead.Proofs.Text.Words
import Mathlib.Data.List.Basic

/-!
# Escaped text

Escaped characters are told apart by how they begin, and none of them begins with a
quote.  So a text is known by what stands between its quotes, whatever comes after
them.  Which characters are written by code point plays no part in this.
-/

namespace Lookahead.Text

/-! ## Numbers in hexadecimal digits -/

theorem exists_digitChar_of_mem_toDigits {char : Char} :
    ∀ {number : Nat}, char ∈ Nat.toDigits 16 number → ∃ digit, Nat.digitChar digit = char := by
  intro number
  induction number using Nat.strongRecOn with
  | ind number ih =>
      intro member
      rw [Nat.toDigits_eq_if (by decide)] at member
      split at member
      · exact ⟨number, (List.mem_singleton.1 member).symm⟩
      · next large =>
          cases List.mem_append.1 member with
          | inl higher => exact ih (number / 16) (by omega) higher
          | inr last => exact ⟨number % 16, (List.mem_singleton.1 last).symm⟩

theorem digitChar_inj {left right : Nat} (leftSmall : left < 16) (rightSmall : right < 16)
    (same : Nat.digitChar left = Nat.digitChar right) : left = right := by
  have every : ∀ left < 16, ∀ right < 16,
      Nat.digitChar left = Nat.digitChar right → left = right := by
    decide
  exact every left leftSmall right rightSmall same

/-- A number is known by its digits. -/
theorem toDigits_injective : Function.Injective (Nat.toDigits 16) := by
  intro left
  induction left using Nat.strongRecOn with
  | ind left ih =>
      intro right same
      have divide (number : Nat) := Nat.toDigits_eq_if (b := 16) (n := number) (by decide)
      have nonempty (number : Nat) : Nat.toDigits 16 number ≠ [] := Nat.toDigits_ne_nil
      rw [divide left, divide right] at same
      by_cases leftSmall : left < 16
      · by_cases rightSmall : right < 16
        · rw [if_pos leftSmall, if_pos rightSmall, List.singleton_inj] at same
          exact digitChar_inj leftSmall rightSmall same
        · rw [if_pos leftSmall, if_neg rightSmall] at same
          simp [List.singleton_eq_append_iff, nonempty] at same
      · by_cases rightSmall : right < 16
        · rw [if_neg leftSmall, if_pos rightSmall] at same
          simp [List.append_eq_singleton_iff, nonempty] at same
        · rw [if_neg leftSmall, if_neg rightSmall] at same
          have parts := List.append_inj' same rfl
          have quotients := ih (left / 16) (by omega) parts.1
          have remainders := digitChar_inj (Nat.mod_lt left (by decide))
            (Nat.mod_lt right (by decide)) (List.singleton_inj.1 parts.2)
          omega

theorem not_mem_toDigits {char : Char} (number : Nat)
    (strange : ∀ digit, Nat.digitChar digit ≠ char) : char ∉ Nat.toDigits 16 number := by
  intro member
  obtain ⟨digit, shown⟩ := exists_digitChar_of_mem_toDigits member
  exact strange digit shown

/-! ## Characters -/

/-- Characters with a short escape are written by it, and all others as themselves or
by code point. -/
structure Escaping.IsUsual (escaping : Escaping) : Prop where
  short : ∀ leading char letter, shortEscape? char = some letter →
    escaping leading char = ['\\', letter]
  other : ∀ leading char, shortEscape? char = none →
    escaping leading char = [char] ∨ escaping leading char = codeEscape char

theorem escapeChar_isUsual : escapeChar.IsUsual := by
  constructor
  · intro leading char letter found
    simp [escapeChar, found]
  · intro leading char none
    simp only [escapeChar, none]
    split
    · exact .inr rfl
    · split
      · exact .inl rfl
      · exact .inr rfl

/-- The characters that have a short escape, with the letter of each. -/
def shortEscapes : List (Char × Char) :=
  [('\x00', '0'), ('\t', 't'), ('\r', 'r'), ('\n', 'n'), ('\'', '\''), ('"', '"'), ('\\', '\\')]

theorem shortEscape?_eq_some {char letter : Char} (found : shortEscape? char = some letter) :
    (char, letter) ∈ shortEscapes := by
  unfold shortEscape? at found
  split at found <;> cases found <;> decide

/-- Different characters have different letters. -/
theorem shortEscape?_inj {left right letter : Char} (first : shortEscape? left = some letter)
    (second : shortEscape? right = some letter) : left = right := by
  have every : ∀ pair ∈ shortEscapes, ∀ other ∈ shortEscapes, pair.2 = other.2 →
      pair.1 = other.1 := by
    decide
  exact every _ (shortEscape?_eq_some first) _ (shortEscape?_eq_some second) rfl

/-- What can stand after the backslash of a character: a letter of its own, or its code
point. -/
inductive Escape (char : Char) : List Char → Prop where
  | letter {letter : Char} : shortEscape? char = some letter → letter ≠ 'u' → Escape char [letter]
  | code : Escape char ('u' :: '\x7b' :: (Nat.toDigits 16 char.toNat ++ ['\x7d']))

/-- How a character is written: as itself, if that is not mistaken for anything else, or
after a backslash. -/
inductive Written (char : Char) : List Char → Prop where
  | plain : char ≠ '\\' → char ≠ '"' → char ≠ '\n' → Written char [char]
  | escape {after : List Char} : Escape char after → Written char ('\\' :: after)

theorem Escaping.IsUsual.written {escaping : Escaping} (usual : escaping.IsUsual) (leading : Bool)
    (char : Char) : Written char (escaping leading char) := by
  cases found : shortEscape? char with
  | some letter =>
      rw [usual.short leading char letter found]
      apply Written.escape (.letter found _)
      rintro rfl
      exact absurd (shortEscape?_eq_some found) (by simp [shortEscapes])
  | none =>
      cases usual.other leading char found with
      | inl same =>
          rw [same]
          refine .plain ?_ ?_ ?_ <;> rintro rfl <;> cases found
      | inr byCode =>
          rw [byCode, codeEscape]
          exact .escape .code

section Written

variable {left right char : Char} {written other after rest back : List Char}

/-- The code point ends at the closing brace, and one that is followed by a brace is
known by its digits. -/
theorem Escape.append_inj (first : Escape left written) (second : Escape right other)
    (same : written ++ rest = other ++ back) : left = right ∧ rest = back := by
  cases first with
  | letter found differs =>
      cases second with
      | letter found' _ =>
          cases same
          exact ⟨shortEscape?_inj found found', rfl⟩
      | code => exact absurd (List.cons.inj same).1 differs
  | code =>
      cases second with
      | letter _ differs => exact absurd (List.cons.inj same).1.symm differs
      | code =>
          have noBrace (char : Char) : '\x7d' ∉ Nat.toDigits 16 char.toNat :=
            not_mem_toDigits _ fun digit => Nat.digitChar_ne '\x7d' (by decide)
          simp only [List.cons_append, List.append_assoc, List.nil_append, List.cons.injEq,
            true_and] at same
          have parts := append_mark_inj (noBrace left) (noBrace right) same
          exact ⟨Char.toNat_inj.1 (toDigits_injective parts.1), parts.2⟩

/-- A character is known by how it is written, whatever comes next. -/
theorem Written.append_inj (first : Written left written) (second : Written right other)
    (same : written ++ rest = other ++ back) : left = right ∧ rest = back := by
  cases first with
  | plain notBackslash _ _ =>
      cases second with
      | plain _ _ _ =>
          cases same
          exact ⟨rfl, rfl⟩
      | escape _ => exact absurd (List.cons.inj same).1 notBackslash
  | escape escape =>
      cases second with
      | plain notBackslash _ _ => exact absurd (List.cons.inj same).1.symm notBackslash
      | escape escape' => exact escape.append_inj escape' (List.cons.inj same).2

/-- No character is written with a quote in front. -/
theorem Written.append_ne_quote (first : Written char written) : written ++ rest ≠ '"' :: back := by
  intro same
  cases first with
  | plain _ notQuote _ => exact notQuote (List.cons.inj same).1
  | escape _ => cases same

theorem Escape.not_mem_lineFeed (escape : Escape char after) : '\n' ∉ after := by
  cases escape with
  | letter found _ =>
      have letters : ∀ pair ∈ shortEscapes, pair.2 ≠ '\n' := by decide
      simpa using (letters _ (shortEscape?_eq_some found)).symm
  | code =>
      have digits : '\n' ∉ Nat.toDigits 16 char.toNat :=
        not_mem_toDigits _ fun digit => Nat.digitChar_ne '\n' (by decide)
      simpa using digits

theorem Written.not_mem_lineFeed (first : Written char written) : '\n' ∉ written := by
  cases first with
  | plain _ _ notFeed => simpa using notFeed.symm
  | escape escape => simpa using escape.not_mem_lineFeed

end Written

/-! ## Texts -/

/-- How a text is written, one character after the other. -/
inductive WrittenText : List Char → List Char → Prop where
  | nil : WrittenText [] []
  | cons {char : Char} {text shown more : List Char} :
      Written char shown → WrittenText text more → WrittenText (char :: text) (shown ++ more)

theorem Escaping.IsUsual.writtenText {escaping : Escaping} (usual : escaping.IsUsual)
    (text : List Char) : WrittenText text (escapeChars escaping text) := by
  have later (text : List Char) : WrittenText text (text.flatMap (escaping false)) := by
    induction text with
    | nil => exact .nil
    | cons char text ih => exact .cons (usual.written false char) ih
  cases text with
  | nil => exact .nil
  | cons char text => exact .cons (usual.written true char) (later text)

namespace WrittenText

variable {left right written other rest back : List Char}

/-- A text is known by what is written up to the closing quote. -/
theorem append_quote_inj (first : WrittenText left written) (second : WrittenText right other)
    (same : written ++ '"' :: rest = other ++ '"' :: back) : left = right ∧ rest = back := by
  induction first generalizing right other with
  | nil =>
      cases second with
      | nil => exact ⟨rfl, (List.cons.inj same).2⟩
      | cons begins later =>
          rw [List.nil_append, List.append_assoc] at same
          exact absurd same.symm begins.append_ne_quote
  | cons begins later ih =>
      rw [List.append_assoc] at same
      cases second with
      | nil => exact absurd same begins.append_ne_quote
      | cons begins' later' =>
          rw [List.append_assoc] at same
          obtain ⟨rfl, remaining⟩ := begins.append_inj begins' same
          obtain ⟨rfl, ends⟩ := ih later' remaining
          exact ⟨rfl, ends⟩

theorem not_mem_lineFeed (first : WrittenText left written) : '\n' ∉ written := by
  induction first with
  | nil => exact List.not_mem_nil
  | cons begins later ih =>
      rw [List.mem_append]
      rintro (inFirst | inLater)
      · exact begins.not_mem_lineFeed inFirst
      · exact ih inLater

end WrittenText

end Lookahead.Text
