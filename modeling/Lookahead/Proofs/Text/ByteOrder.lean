import Mathlib.Data.List.Lex

/-!
# Texts in the order of their bytes

Texts are compared character by character, by code point.  Their UTF-8 bytes compare the
same way: a character that takes up more bytes begins with a larger one, and among
characters of as many bytes the bytes are the digits of the code point.
-/

namespace Lookahead.Text

/-- The UTF-8 bytes of a text. -/
def utf8Bytes (text : String) : List UInt8 :=
  text.toUTF8.data.toList

/-- A text comes before another one if, from the front on, its bytes do. -/
def BytesBefore (left right : String) : Prop :=
  List.Lex (· < ·) (utf8Bytes left) (utf8Bytes right)

theorem utf8Bytes_eq_flatMap (text : String) :
    utf8Bytes text = text.toList.flatMap String.utf8EncodeChar := by
  have whole : text.toUTF8 = text.toList.utf8Encode := by
    rw [← String.toByteArray_ofList, String.ofList_toList]
    rfl
  rw [utf8Bytes, whole, List.utf8Encode, List.data_toByteArray]

/-- How the code point of a character is written in bytes. -/
inductive Encoded (code : Nat) : List UInt8 → Prop where
  | one : code < 0x80 → Encoded code [.ofNat code]
  | two : 0x80 ≤ code → code < 0x800 →
      Encoded code [.ofNat (code / 64 + 192), .ofNat (code % 64 + 128)]
  | three : 0x800 ≤ code → code < 0x10000 →
      Encoded code
        [.ofNat (code / 4096 + 224), .ofNat (code / 64 % 64 + 128), .ofNat (code % 64 + 128)]
  | four : 0x10000 ≤ code → code < 0x110000 →
      Encoded code
        [.ofNat (code / 262144 + 240), .ofNat (code / 4096 % 64 + 128),
          .ofNat (code / 64 % 64 + 128), .ofNat (code % 64 + 128)]

theorem toNat_lt_of_char (char : Char) : char.toNat < 0x110000 := by
  rcases char.valid with low | high
  · exact Nat.lt_trans low (by decide)
  · exact high.2

theorem encoded_utf8EncodeChar (char : Char) :
    Encoded char.toNat (String.utf8EncodeChar char) := by
  have bound := toNat_lt_of_char char
  simp only [String.utf8EncodeChar, Char.toNat_val]
  split
  · exact .one (by omega)
  · split
    · rw [Nat.mod_eq_of_lt (by omega : char.toNat / 64 < 32)]
      exact .two (by omega) (by omega)
    · split
      · rw [Nat.mod_eq_of_lt (by omega : char.toNat / 4096 < 16)]
        exact .three (by omega) (by omega)
      · rw [Nat.mod_eq_of_lt (by omega : char.toNat / 262144 < 8)]
        exact .four (by omega) (by omega)

/-- Bytes are compared as the numbers that they stand for. -/
theorem cons_lex_ofNat_iff {first second : Nat} {rest back : List UInt8} (small : first < 256)
    (otherSmall : second < 256) :
    List.Lex (· < ·) (UInt8.ofNat first :: rest) (UInt8.ofNat second :: back) ↔
      first < second ∨ first = second ∧ List.Lex (· < ·) rest back := by
  rw [List.cons_lex_cons_iff, UInt8.lt_iff_toNat_lt, ← UInt8.toNat_inj,
    UInt8.toNat_ofNat_of_lt' small, UInt8.toNat_ofNat_of_lt' otherSmall]

/-- The smaller of two code points has the smaller bytes, whatever comes after them. -/
theorem Encoded.lex {code other : Nat} {bytes bytes' : List UInt8} (first : Encoded code bytes)
    (second : Encoded other bytes') (less : code < other) (rest back : List UInt8) :
    List.Lex (· < ·) (bytes ++ rest) (bytes' ++ back) := by
  cases first <;> cases second
  all_goals
    simp (disch := omega) only [List.cons_append, List.nil_append, cons_lex_ofNat_iff]
    omega

theorem lex_flatMap_utf8EncodeChar {left right : List Char}
    (less : List.Lex (· < ·) left right) :
    List.Lex (· < ·) (left.flatMap String.utf8EncodeChar)
      (right.flatMap String.utf8EncodeChar) := by
  induction less with
  | @nil char rest =>
      cases bytes : String.utf8EncodeChar char with
      | nil => exact absurd bytes String.utf8EncodeChar_ne_nil
      | cons byte others =>
          rw [List.flatMap_nil, List.flatMap_cons, bytes]
          exact .nil
  | cons _ ih =>
      rw [List.flatMap_cons, List.flatMap_cons]
      exact ih.append_left _ _
  | @rel char rest other back smaller =>
      rw [List.flatMap_cons, List.flatMap_cons]
      exact (encoded_utf8EncodeChar char).lex (encoded_utf8EncodeChar other) smaller _ _

/-- The order of texts is the order of their bytes. -/
theorem bytesBefore_of_lt {left right : String} (less : left < right) :
    BytesBefore left right := by
  rw [BytesBefore, utf8Bytes_eq_flatMap, utf8Bytes_eq_flatMap]
  apply lex_flatMap_utf8EncodeChar
  rw [← List.lt_iff_lex_lt]
  exact String.lt_iff.1 less

end Lookahead.Text
