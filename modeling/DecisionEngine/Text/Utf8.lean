import Mathlib.Algebra.GroupWithZero.Nat
import Mathlib.Data.String.Basic

/-!
# The bytes of a text

Texts are encoded in UTF-8, and bytes are a text when they are the encoding of one.
-/

namespace DecisionEngine.Text

/-- The bytes of some characters. -/
def encodeChars (chars : List Char) : List UInt8 :=
  chars.flatMap String.utf8EncodeChar

def encodeUtf8 (text : String) : List UInt8 :=
  encodeChars text.toList

/-- The text of some bytes, if they are valid. -/
def decodeUtf8 (bytes : List UInt8) : Option String :=
  String.fromUTF8? bytes.toByteArray

/-- How many bytes the characters have. -/
def charsSize (chars : List Char) : Nat :=
  (chars.map Char.utf8Size).sum

@[simp]
theorem charsSize_nil : charsSize [] = 0 :=
  rfl

@[simp]
theorem charsSize_cons (char : Char) (chars : List Char) :
    charsSize (char :: chars) = char.utf8Size + charsSize chars := by
  simp [charsSize]

theorem length_encodeChars (chars : List Char) :
    (encodeChars chars).length = charsSize chars := by
  induction chars with
  | nil => rfl
  | cons char chars ih =>
      rw [encodeChars, List.flatMap_cons, List.length_append, String.length_utf8EncodeChar,
        charsSize_cons]
      exact congrArg _ ih

theorem toByteArray_encodeUtf8 (text : String) :
    (encodeUtf8 text).toByteArray = text.toByteArray := by
  rw [encodeUtf8, encodeChars, ← List.utf8Encode, String.utf8Encode_toList]

theorem decodeUtf8_encodeUtf8 (text : String) : decodeUtf8 (encodeUtf8 text) = some text := by
  rw [decodeUtf8, toByteArray_encodeUtf8, String.fromUTF8?, dif_pos text.isValidUTF8]
  rfl

/-- Bytes that have a text are its encoding. -/
theorem eq_encodeUtf8_of_decodeUtf8 {bytes : List UInt8} {text : String}
    (decoded : decodeUtf8 bytes = some text) : bytes = encodeUtf8 text := by
  rw [decodeUtf8, String.fromUTF8?] at decoded
  split at decoded
  · cases decoded
    apply List.toByteArray_inj.mp
    rw [toByteArray_encodeUtf8]
    rfl
  · cases decoded

variable {first : UInt8} {rest : List UInt8}

/-- A character is one byte of ASCII, or begins with a byte that says how many follow. -/
theorem utf8EncodeChar_cases {char : Char} (encoded : String.utf8EncodeChar char = first :: rest) :
    (first.toNat < 128 ∧ rest = []) ∨ 192 ≤ first.toNat := by
  rw [String.utf8EncodeChar] at encoded
  split at encoded
  · left
    rcases List.cons_eq_cons.mp encoded with ⟨rfl, rfl⟩
    rw [UInt8.toNat_ofNat']
    exact ⟨by omega, rfl⟩
  · right
    split at encoded
    · rcases List.cons_eq_cons.mp encoded with ⟨rfl, -⟩
      rw [UInt8.toNat_ofNat']
      omega
    · split at encoded
      · rcases List.cons_eq_cons.mp encoded with ⟨rfl, -⟩
        rw [UInt8.toNat_ofNat']
        omega
      · rcases List.cons_eq_cons.mp encoded with ⟨rfl, -⟩
        rw [UInt8.toNat_ofNat']
        omega

theorem encodeChars_cases {chars : List Char} (encoded : encodeChars chars = first :: rest) :
    (first.toNat < 128 ∧ ∃ others, rest = encodeChars others) ∨ 192 ≤ first.toNat := by
  cases chars with
  | nil => cases encoded
  | cons char chars =>
      rw [encodeChars, List.flatMap_cons] at encoded
      cases isChar : String.utf8EncodeChar char with
      | nil => exact absurd isChar String.utf8EncodeChar_ne_nil
      | cons head tail =>
          rw [isChar, List.cons_append, List.cons_eq_cons] at encoded
          rcases encoded with ⟨rfl, rfl⟩
          rcases utf8EncodeChar_cases isChar with ⟨single, rfl⟩ | longer
          · exact Or.inl ⟨single, chars, rfl⟩
          · exact Or.inr longer

/-- No text has a byte of ASCII and after it a byte that stands inside a character. -/
theorem encodeUtf8_ne_cons_continuation (text : String) (rest : List UInt8) {second : UInt8}
    (single : first.toNat < 128) (continues : 128 ≤ second.toNat ∧ second.toNat < 192) :
    encodeUtf8 text ≠ first :: second :: rest := by
  intro encoded
  rcases encodeChars_cases encoded with ⟨-, others, isOthers⟩ | longer
  · rcases encodeChars_cases isOthers.symm with ⟨single, -⟩ | longer <;> omega
  · omega

end DecisionEngine.Text
