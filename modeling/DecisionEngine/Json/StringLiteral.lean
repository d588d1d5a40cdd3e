import DecisionEngine.Text.Utf8
import Mathlib.Tactic.IntervalCases

/-!
# JSON string literals

A text is written as a string literal between quotation marks, with what may not
stand in a literal escaped.  A reader of a string accepts one literal with white
space around it, and nothing else.

A literal is longer than the string it stands for, so no text stands for itself.
-/

namespace DecisionEngine.Json

open Text

/-! ## Characters -/

/-- The white space between the tokens of a document. -/
def isSpace (char : Char) : Bool :=
  char = ' ' || char = '\n' || char = '\t' || char = '\r'

def hexDigit (char : Char) : Option Nat :=
  if 48 ≤ char.toNat ∧ char.toNat ≤ 57 then some (char.toNat - 48)
  else if 97 ≤ char.toNat ∧ char.toNat ≤ 102 then some (char.toNat - 87)
  else if 65 ≤ char.toNat ∧ char.toNat ≤ 70 then some (char.toNat - 55)
  else none

/-- The code unit that four hexadecimal digits name. -/
def codeUnit (first second third fourth : Char) : Option Nat :=
  match hexDigit first, hexDigit second, hexDigit third, hexDigit fourth with
  | some a, some b, some c, some d => some (((a * 16 + b) * 16 + c) * 16 + d)
  | _, _, _, _ => none

def isHighSurrogate (unit : Nat) : Bool :=
  0xD800 ≤ unit && unit ≤ 0xDBFF

def isLowSurrogate (unit : Nat) : Bool :=
  0xDC00 ≤ unit && unit ≤ 0xDFFF

/-- The character that two surrogates stand for. -/
def joinSurrogates (high low : Nat) : Char :=
  Char.ofNat (0x10000 + (high - 0xD800) * 0x400 + (low - 0xDC00))

/-- What an escape of one letter stands for. -/
def simpleEscape (mark : Char) : Option Char :=
  if mark = '"' then some '"'
  else if mark = '\\' then some '\\'
  else if mark = '/' then some '/'
  else if mark = 'b' then some (Char.ofNat 8)
  else if mark = 'f' then some (Char.ofNat 12)
  else if mark = 'n' then some '\n'
  else if mark = 'r' then some '\r'
  else if mark = 't' then some '\t'
  else none

/-! ## Reading -/

/-- The characters up to the closing quotation mark, and what follows it. -/
def readBody : List Char → Option (List Char × List Char)
  | [] => none
  | char :: rest =>
      if char = '"' then some ([], rest)
      else if char = '\\' then
        match rest with
        | [] => none
        | mark :: rest =>
            if mark = 'u' then
              match rest with
              | first :: second :: third :: fourth :: rest =>
                  match codeUnit first second third fourth with
                  | none => none
                  | some unit =>
                      if isLowSurrogate unit then none
                      else if isHighSurrogate unit then
                        match rest with
                        | slash :: mark :: first :: second :: third :: fourth :: rest =>
                            if slash = '\\' ∧ mark = 'u' then
                              match codeUnit first second third fourth with
                              | none => none
                              | some low =>
                                  if isLowSurrogate low then
                                    (readBody rest).map fun body =>
                                      (joinSurrogates unit low :: body.1, body.2)
                                  else none
                            else none
                        | _ => none
                      else (readBody rest).map fun body => (Char.ofNat unit :: body.1, body.2)
              | _ => none
            else
              match simpleEscape mark with
              | none => none
              | some escaped => (readBody rest).map fun body => (escaped :: body.1, body.2)
      else if char.toNat < 0x20 then none
      else (readBody rest).map fun body => (char :: body.1, body.2)

/-- The string that a document with one literal stands for. -/
def readLiteral (text : List Char) : Option (List Char) :=
  match text.dropWhile isSpace with
  | [] => none
  | mark :: rest =>
      if mark = '"' then
        (readBody rest).bind fun body => if body.2.all isSpace then some body.1 else none
      else none

/-! ## Writing -/

def hexChar (digit : Nat) : Char :=
  if digit < 10 then Char.ofNat (48 + digit) else Char.ofNat (87 + digit)

/-- A character inside a literal. -/
def escape (char : Char) : List Char :=
  if char = '"' then ['\\', '"']
  else if char = '\\' then ['\\', '\\']
  else if char.toNat = 8 then ['\\', 'b']
  else if char.toNat = 9 then ['\\', 't']
  else if char.toNat = 10 then ['\\', 'n']
  else if char.toNat = 12 then ['\\', 'f']
  else if char.toNat = 13 then ['\\', 'r']
  else if char.toNat < 0x20 then
    ['\\', 'u', '0', '0', hexChar (char.toNat / 16), hexChar (char.toNat % 16)]
  else [char]

def writeLiteral (value : List Char) : List Char :=
  '"' :: value.flatMap escape ++ ['"']

/-! ## Sizes -/

theorem utf8Size_simpleEscape {mark escaped : Char}
    (isEscape : simpleEscape mark = some escaped) : escaped.utf8Size = 1 := by
  unfold simpleEscape at isEscape
  repeat' split at isEscape
  all_goals cases isEscape
  all_goals rfl

/-- One more character is read. -/
theorem map_readBody_eq_some {text value after : List Char} {char : Char}
    (read : (readBody text).map (fun body => (char :: body.1, body.2)) = some (value, after)) :
    ∃ body, readBody text = some (body, after) ∧ value = char :: body := by
  rcases Option.map_eq_some_iff.mp read with ⟨⟨body, rest⟩, isBody, same⟩
  cases same
  exact ⟨body, isBody, rfl⟩

/-- A body is at least as long as what it stands for, and ends with a quotation mark. -/
theorem size_of_readBody {text value after : List Char}
    (read : readBody text = some (value, after)) :
    charsSize value + charsSize after + 1 ≤ charsSize text := by
  have quotation : Char.utf8Size '"' = 1 := rfl
  have slash : Char.utf8Size '\\' = 1 := rfl
  have letter : Char.utf8Size 'u' = 1 := rfl
  induction isLength : text.length using Nat.strong_induction_on generalizing text value after with
  | _ length ih =>
      subst isLength
      unfold readBody at read
      split at read
      · cases read
      split at read
      · next isQuotation =>
          cases read
          rw [isQuotation]
          simp only [charsSize_nil, charsSize_cons]
          omega
      split at read
      · next isSlash =>
          rw [isSlash]
          split at read
          · cases read
          next mark _ =>
          have marked := mark.utf8Size_pos
          split at read
          · split at read
            · next a b c d _ =>
                have digits := And.intro (And.intro a.utf8Size_pos b.utf8Size_pos)
                  (And.intro c.utf8Size_pos d.utf8Size_pos)
                split at read
                · cases read
                next unit _ =>
                split at read
                · cases read
                split at read
                · split at read
                  · split at read
                    · next both =>
                        split at read
                        · cases read
                        next low _ =>
                        split at read
                        · rcases map_readBody_eq_some read with ⟨body, isBody, rfl⟩
                          have shorter := ih _ (by simp only [List.length_cons]; omega) isBody rfl
                          have atMost := (joinSurrogates unit low).utf8Size_le_four
                          rw [both.1, both.2]
                          simp only [charsSize_cons]
                          omega
                        · cases read
                    · cases read
                  · cases read
                · rcases map_readBody_eq_some read with ⟨body, isBody, rfl⟩
                  have shorter := ih _ (by simp only [List.length_cons]; omega) isBody rfl
                  have atMost := (Char.ofNat unit).utf8Size_le_four
                  simp only [charsSize_cons]
                  omega
            · cases read
          · split at read
            · cases read
            next escaped isEscape =>
            rcases map_readBody_eq_some read with ⟨body, isBody, rfl⟩
            have shorter := ih _ (by simp only [List.length_cons]; omega) isBody rfl
            have single := utf8Size_simpleEscape isEscape
            simp only [charsSize_cons]
            omega
      · split at read
        · cases read
        rcases map_readBody_eq_some read with ⟨body, isBody, rfl⟩
        have shorter := ih _ (by simp only [List.length_cons]; omega) isBody rfl
        simp only [charsSize_cons]
        omega

theorem charsSize_dropWhile_le (predicate : Char → Bool) (text : List Char) :
    charsSize (text.dropWhile predicate) ≤ charsSize text := by
  induction text with
  | nil => exact le_rfl
  | cons char rest ih =>
      rw [List.dropWhile_cons]
      split
      · rw [charsSize_cons]
        omega
      · exact le_rfl

/-- A document is longer than the string it stands for. -/
theorem size_of_readLiteral {text value : List Char} (read : readLiteral text = some value) :
    charsSize value + 2 ≤ charsSize text := by
  have trimmed := charsSize_dropWhile_le isSpace text
  have quotation : Char.utf8Size '"' = 1 := rfl
  unfold readLiteral at read
  split at read
  · cases read
  · next mark rest isText =>
      split at read
      · next isMark =>
          rcases Option.bind_eq_some_iff.mp read with ⟨⟨own, after⟩, isBody, atEnd⟩
          have shorter := size_of_readBody isBody
          split at atEnd
          · cases atEnd
            rw [isText, isMark, charsSize_cons] at trimmed
            dsimp only
            omega
          · cases atEnd
      · cases read

/-! ## What is written is read -/

theorem hexDigit_hexChar {digit : Nat} (small : digit < 16) :
    hexDigit (hexChar digit) = some digit := by
  interval_cases digit <;> rfl

/-- The code of a control character is written in two digits. -/
theorem codeUnit_hexChar {code : Nat} (small : code < 0x20) :
    codeUnit '0' '0' (hexChar (code / 16)) (hexChar (code % 16)) = some code := by
  have zero : hexDigit '0' = some 0 := rfl
  rw [codeUnit, zero, hexDigit_hexChar (by omega), hexDigit_hexChar (by omega)]
  simp only [Option.some.injEq]
  omega

theorem readBody_simpleEscape {mark escaped : Char} (isEscape : simpleEscape mark = some escaped)
    (rest : List Char) :
    readBody ('\\' :: mark :: rest) =
      (readBody rest).map fun body => (escaped :: body.1, body.2) := by
  have notUnit : mark ≠ 'u' := by
    rintro rfl
    cases isEscape
  rw [readBody.eq_def]
  simp only [isEscape, if_neg notUnit]
  rfl

theorem readBody_codeUnit {a b c d : Char} {unit : Nat} (isUnit : codeUnit a b c d = some unit)
    (small : unit < 0xD800) (rest : List Char) :
    readBody ('\\' :: 'u' :: a :: b :: c :: d :: rest) =
      (readBody rest).map fun body => (Char.ofNat unit :: body.1, body.2) := by
  have notLow : isLowSurrogate unit = false := by
    simp only [isLowSurrogate, Bool.and_eq_false_iff, decide_eq_false_iff_not]
    omega
  have notHigh : isHighSurrogate unit = false := by
    simp only [isHighSurrogate, Bool.and_eq_false_iff, decide_eq_false_iff_not]
    omega
  rw [readBody.eq_def]
  simp only [isUnit, notLow, notHigh]
  rfl

theorem readBody_plain {char : Char} (notQuotation : char ≠ '"') (notSlash : char ≠ '\\')
    (notControl : ¬char.toNat < 0x20) (rest : List Char) :
    readBody (char :: rest) = (readBody rest).map fun body => (char :: body.1, body.2) := by
  rw [readBody.eq_def]
  simp only [if_neg notQuotation, if_neg notSlash, if_neg notControl]

theorem readBody_escape (char : Char) (rest : List Char) :
    readBody (escape char ++ rest) = (readBody rest).map fun body => (char :: body.1, body.2) := by
  have named : char = Char.ofNat char.toNat := (Char.ofNat_toNat char).symm
  unfold escape
  split
  · next isQuotation =>
      rw [isQuotation]
      exact readBody_simpleEscape rfl rest
  · next notQuotation =>
      split
      · next isSlash =>
          rw [isSlash]
          exact readBody_simpleEscape rfl rest
      · next notSlash =>
          iterate 5
            split
            · next code =>
                rw [code] at named
                rw [named]
                exact readBody_simpleEscape rfl rest
          split
          · next control =>
              have read := readBody_codeUnit (codeUnit_hexChar control) (by omega) rest
              rw [← named] at read
              exact read
          · next notControl => exact readBody_plain notQuotation notSlash notControl rest

theorem readBody_flatMap_escape (value rest : List Char) :
    readBody (value.flatMap escape ++ '"' :: rest) = some (value, rest) := by
  induction value with
  | nil => rw [List.flatMap_nil, List.nil_append, readBody.eq_def]; rfl
  | cons char value ih =>
      rw [List.flatMap_cons, List.append_assoc, readBody_escape, ih]
      rfl

end DecisionEngine.Json
