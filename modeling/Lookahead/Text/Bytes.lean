/-!
# Byte offsets

Places in a text are counted in UTF-8 bytes.  The functions here measure
characters in bytes and cut a text at a byte offset.
-/

namespace Lookahead.Text

/-- The number of UTF-8 bytes of a list of characters. -/
def byteLength : List Char → Nat
  | [] => 0
  | char :: rest => char.utf8Size + byteLength rest

@[simp] theorem byteLength_nil : byteLength [] = 0 := rfl

@[simp] theorem byteLength_cons (char : Char) (rest : List Char) :
    byteLength (char :: rest) = char.utf8Size + byteLength rest := rfl

@[simp] theorem byteLength_append (front back : List Char) :
    byteLength (front ++ back) = byteLength front + byteLength back := by
  induction front with
  | nil => simp
  | cons char rest ih => simp [ih, Nat.add_assoc]

/-- The bytes of the characters of a text are the bytes of the text. -/
theorem byteLength_toList (text : String) : byteLength text.toList = text.utf8ByteSize := by
  have onLists : ∀ chars : List Char, byteLength chars = (String.ofList chars).utf8ByteSize := by
    intro chars
    induction chars with
    | nil => rfl
    | cons char rest ih =>
        rw [byteLength_cons, ih, ← List.singleton_append, String.ofList_append,
          String.utf8ByteSize_append]
        simp
  rw [onLists, String.ofList_toList]

/-- The characters that end at or before a byte offset, and the number of bytes
of the next character that lie before it.  That number is zero exactly when the
offset falls between two characters or at or past the end of the text. -/
def cutAt : List Char → Nat → List Char × Nat
  | [], _ => ([], 0)
  | char :: rest, offset =>
      if char.utf8Size ≤ offset then
        let (whole, part) := cutAt rest (offset - char.utf8Size)
        (char :: whole, part)
      else
        ([], offset)

/-- The characters between two byte offsets.  There are none if an offset is past the
end or inside a character, or if the offsets are in the wrong order. -/
def slice? (chars : List Char) (start stop : Nat) : Option (List Char) :=
  let (front, before) := cutAt chars start
  let (whole, part) := cutAt chars stop
  if start ≤ stop ∧ stop ≤ byteLength chars ∧ before = 0 ∧ part = 0 then
    some (whole.drop front.length)
  else
    none

/-- How far one byte offset lies behind another, if it does not lie before it. -/
def difference? (later first : Nat) : Option Nat :=
  if first ≤ later then some (later - first) else none

end Lookahead.Text
