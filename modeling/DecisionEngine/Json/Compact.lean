import DecisionEngine.Json.StringLiteral

/-!
# Documents without spaces

A format writes values as texts and reads one from the beginning of a text.  What it has
written it reads, whatever follows other than a digit; formats are put together from formats
of strings, numbers, arrays and fields.
-/

namespace DecisionEngine.Json

variable {α β : Type}

/-- A number ends where the text begins. -/
def EndsNumber (text : List Char) : Prop :=
  ∀ char ∈ text.head?, char.isDigit = false

/-- How values are written and read from the beginning of a text. -/
structure Format (α : Type) where
  write : α → List Char
  read : List Char → Option (α × List Char)
  exact : ∀ value rest, EndsNumber rest → read (write value ++ rest) = some (value, rest)

namespace Format

variable {char : Char}

theorem endsNumber_cons (notDigit : char.isDigit = false) (rest : List Char) :
    EndsNumber (char :: rest) := by
  intro other isHead
  cases isHead
  exact notDigit

theorem endsNumber_nil : EndsNumber [] :=
  nofun

/-- What follows a token. -/
def expect (token text : List Char) : Option (List Char) :=
  text.dropPrefix? token

theorem expect_append (token rest : List Char) : expect token (token ++ rest) = some rest :=
  List.dropPrefix?_append_of_beq rest (beq_self_eq_true token)

variable (format : Format α)

/-- The value of a document that has nothing after it. -/
def parse (text : String) : Option α :=
  match format.read text.toList with
  | some (value, []) => some value
  | _ => none

def print (value : α) : String :=
  String.ofList (format.write value)

theorem parse_print (value : α) :
    format.parse (format.print value) = some value := by
  have read := format.exact value [] endsNumber_nil
  rw [List.append_nil] at read
  rw [parse, print, String.toList_ofList, read]

/-! ## Strings, truth values and numbers -/

def string : Format String where
  write value := '"' :: (value.toList.flatMap escape ++ ['"'])
  read
    | '"' :: text => (readBody text).map fun found => (String.ofList found.1, found.2)
    | _ => none
  exact value rest _ := by
    simp only [List.cons_append, List.append_assoc, List.nil_append, readBody_flatMap_escape,
      Option.map_some, String.ofList_toList]

def bool : Format Bool where
  write
    | true => ['t', 'r', 'u', 'e']
    | false => ['f', 'a', 'l', 's', 'e']
  read
    | 't' :: 'r' :: 'u' :: 'e' :: rest => some (true, rest)
    | 'f' :: 'a' :: 'l' :: 's' :: 'e' :: rest => some (false, rest)
    | _ => none
  exact value rest _ := by
    cases value <;> rfl

/-- The digits at the beginning of a text. -/
def readDigits (text : List Char) : Option (ℕ × List Char) :=
  match text.takeWhile Char.isDigit with
  | [] => none
  | digits => some (Nat.ofDigitChars 10 digits 0, text.dropWhile Char.isDigit)

theorem readDigits_toDigits (number : ℕ) {rest : List Char} (ends : EndsNumber rest) :
    readDigits (Nat.toDigits 10 number ++ rest) = some (number, rest) := by
  have allDigits : ∀ char ∈ Nat.toDigits 10 number, char.isDigit = true := fun char charMem =>
    Nat.isDigit_of_mem_toDigits (by decide) (by decide) charMem
  have taken : (Nat.toDigits 10 number ++ rest).takeWhile Char.isDigit =
      Nat.toDigits 10 number := by
    rw [List.takeWhile_append_of_pos allDigits]
    cases rest with
    | nil => rw [List.takeWhile_nil, List.append_nil]
    | cons char rest =>
        rw [List.takeWhile_cons_of_neg (by simp [ends char rfl]), List.append_nil]
  have dropped : (Nat.toDigits 10 number ++ rest).dropWhile Char.isDigit = rest := by
    rw [List.dropWhile_append_of_pos allDigits]
    cases rest with
    | nil => rfl
    | cons char rest => rw [List.dropWhile_cons_of_neg (by simp [ends char rfl])]
  rw [readDigits, taken, dropped]
  split
  · next isNil => exact absurd isNil Nat.toDigits_ne_nil
  · rw [Nat.ofDigitChars_ten_toDigits]

def int : Format ℤ where
  write
    | .ofNat number => Nat.toDigits 10 number
    | .negSucc number => '-' :: Nat.toDigits 10 (number + 1)
  read
    | '-' :: text => (readDigits text).map fun found => (-(found.1 : ℤ), found.2)
    | text => (readDigits text).map fun found => ((found.1 : ℤ), found.2)
  exact value rest ends := by
    cases value with
    | negSucc number =>
        simp only [List.cons_append, readDigits_toDigits (number + 1) ends, Option.map_some]
        rfl
    | ofNat number =>
        have read := readDigits_toDigits number ends
        dsimp only
        split
        · next text isMinus =>
            rw [isMinus] at read
            cases read
        · rw [read]
          rfl

/-! ## Fields -/

/-- A value after a text that ends no number, and before a token that ends one. -/
def between (before after : List Char) (ends : EndsNumber after) (isToken : after ≠ [])
    (format : Format α) : Format α where
  write value := before ++ (format.write value ++ after)
  read text := do
    let text ← expect before text
    let (value, text) ← format.read text
    let rest ← expect after text
    return (value, rest)
  exact value rest _ := by
    have afterEnds : EndsNumber (after ++ rest) := by
      intro char isHead
      rw [List.head?_append_of_ne_nil _ isToken] at isHead
      exact ends char isHead
    simp [expect_append, format.exact value (after ++ rest) afterEnds]

def braced (format : Format α) : Format α :=
  between ['{'] ['}'] (endsNumber_cons rfl []) (List.cons_ne_nil _ _) format

/-- A field with its name. -/
def field (name : String) (format : Format α) : Format α where
  write value := string.write name ++ ':' :: format.write value
  read text := do
    let text ← expect (string.write name ++ [':']) text
    format.read text
  exact value rest ends := by
    have split : string.write name ++ ':' :: format.write value ++ rest =
        (string.write name ++ [':']) ++ (format.write value ++ rest) := by
      simp
    rw [split, expect_append]
    exact format.exact value rest ends

/-- Two values with a comma between them. -/
def pair (first : Format α) (second : Format β) : Format (α × β) where
  write value := first.write value.1 ++ ',' :: second.write value.2
  read text := do
    let (left, text) ← first.read text
    let text ← expect [','] text
    let (right, rest) ← second.read text
    return ((left, right), rest)
  exact value rest ends := by
    have comma : EndsNumber (',' :: (second.write value.2 ++ rest)) := endsNumber_cons rfl _
    have expected := expect_append [','] (second.write value.2 ++ rest)
    rw [List.singleton_append] at expected
    simp [first.exact value.1 _ comma, expected, second.exact value.2 rest ends]

/-- Values that are given by others. -/
def map (make : α → β) (parts : β → α) (inverse : ∀ value, make (parts value) = value) :
    Format β where
  write value := format.write (parts value)
  read text := (format.read text).map fun found => (make found.1, found.2)
  exact value rest ends := by
    rw [format.exact _ rest ends, Option.map_some, inverse]

/-! ## Null and arrays -/

/-- Every text has a first character, and it is another one. -/
def NotOpening (char : Char) : Prop :=
  ∀ value, ∃ first rest, format.write value = first :: rest ∧ first ≠ char

theorem notOpening_string (differ : '"' ≠ char) : string.NotOpening char :=
  fun _ => ⟨'"', _, rfl, differ⟩

theorem notOpening_int (notDigit : char.isDigit = false) (differ : '-' ≠ char) :
    int.NotOpening char := by
  intro value
  cases value with
  | negSucc number => exact ⟨'-', _, rfl, differ⟩
  | ofNat number =>
      cases written : Nat.toDigits 10 number with
      | nil => exact absurd written Nat.toDigits_ne_nil
      | cons first rest =>
          refine ⟨first, rest, written, ?_⟩
          rintro rfl
          have isDigit : first.isDigit = true :=
            Nat.isDigit_of_mem_toDigits (n := number) (b := 10) (by decide) (by decide)
              (by rw [written]; exact List.mem_cons_self)
          rw [isDigit] at notDigit
          cases notDigit

theorem notOpening_braced {char : Char} (differ : '{' ≠ char) (format : Format α) :
    (braced format).NotOpening char :=
  fun _ => ⟨'{', _, rfl, differ⟩

theorem notOpening_map {format : Format α} {make : α → β} {parts : β → α}
    {inverse : ∀ value, make (parts value) = value} (notOpening : format.NotOpening char) :
    (format.map make parts inverse).NotOpening char :=
  fun value => notOpening (parts value)

/-- A value or null. -/
def nullable (notNull : format.NotOpening 'n') : Format (Option α) where
  write
    | none => ['n', 'u', 'l', 'l']
    | some value => format.write value
  read
    | 'n' :: 'u' :: 'l' :: 'l' :: rest => some (none, rest)
    | text => (format.read text).map fun found => (some found.1, found.2)
  exact value rest ends := by
    cases value with
    | none => rfl
    | some value =>
        have read := format.exact value rest ends
        rcases notNull value with ⟨first, others, written, notN⟩
        dsimp only
        rw [written, List.cons_append] at read ⊢
        split
        · next isNull =>
            rw [List.cons.injEq] at isNull
            exact absurd isNull.1 notN
        · rw [read]
          rfl

/-- Items after a comma each, up to the end of the array. -/
def readItems (format : Format α) : ℕ → List Char → Option (List α × List Char)
  | _, ']' :: rest => some ([], rest)
  | fuel + 1, ',' :: text => do
      let (item, text) ← format.read text
      let (items, rest) ← readItems format fuel text
      return (item :: items, rest)
  | _, _ => none

def writeItems (items : List α) : List Char :=
  items.flatMap fun item => ',' :: format.write item

theorem endsNumber_writeItems (items : List α) (rest : List Char) :
    EndsNumber (writeItems format items ++ ']' :: rest) := by
  cases items with
  | nil => exact endsNumber_cons rfl rest
  | cons item items => exact endsNumber_cons rfl _

theorem readItems_writeItems {items : List α} {fuel : ℕ} (enough : items.length ≤ fuel)
    (rest : List Char) :
    readItems format fuel (writeItems format items ++ ']' :: rest) = some (items, rest) := by
  induction items generalizing fuel with
  | nil => cases fuel <;> rfl
  | cons item items ih =>
      cases fuel with
      | zero => simp at enough
      | succ fuel =>
          have restRead := ih (Nat.le_of_succ_le_succ enough)
          have itemRead := format.exact item _ (endsNumber_writeItems format items rest)
          change (do
            let (item, text) ← format.read ((format.write item ++ writeItems format items) ++
              ']' :: rest)
            let (items, rest) ← readItems format fuel text
            return (item :: items, rest)) = _
          rw [List.append_assoc, itemRead]
          simp [restRead]

theorem length_le_writeItems (items : List α) :
    items.length ≤ (writeItems format items).length := by
  induction items with
  | nil => exact Nat.zero_le _
  | cons item items ih =>
      rw [writeItems, List.flatMap_cons, List.length_append, List.length_cons, List.length_cons]
      rw [writeItems] at ih
      omega

def array (format : Format α) (notEnd : format.NotOpening ']') : Format (List α) where
  write
    | [] => ['[', ']']
    | item :: items => '[' :: (format.write item ++ (writeItems format items ++ [']']))
  read
    | '[' :: ']' :: rest => some ([], rest)
    | '[' :: text => readItems format (text.length + 1) (',' :: text)
    | _ => none
  exact value rest _ := by
    cases value with
    | nil => rfl
    | cons item items =>
        rcases notEnd item with ⟨first, others, written, notEnding⟩
        have enough : (item :: items).length ≤
            (format.write item ++ (writeItems format items ++ [']']) ++ rest).length + 1 := by
          have bound := length_le_writeItems format items
          simp only [List.length_cons, List.length_append]
          omega
        have itemsRead := readItems_writeItems format enough rest
        have joined : writeItems format (item :: items) ++ ']' :: rest =
            ',' :: (format.write item ++ (writeItems format items ++ [']']) ++ rest) := by
          simp [writeItems]
        rw [joined] at itemsRead
        dsimp only
        rw [List.cons_append]
        rw [written, List.cons_append, List.cons_append] at itemsRead ⊢
        split
        · next isEnd =>
            rw [List.cons.injEq, List.cons.injEq] at isEnd
            exact absurd isEnd.2.1 notEnding
        · next isText =>
            rw [List.cons.injEq] at isText
            rw [← isText.2]
            exact itemsRead
        · next notText => exact absurd rfl (notText _)

theorem notOpening_array {char : Char} (differ : '[' ≠ char) {format : Format α}
    (notEnd : format.NotOpening ']') : (array format notEnd).NotOpening char := by
  intro value
  cases value with
  | nil => exact ⟨'[', _, rfl, differ⟩
  | cons item items => exact ⟨'[', _, rfl, differ⟩

end Format

end DecisionEngine.Json
