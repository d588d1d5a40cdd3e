import DecisionEngine.Stream.Delivery

/-!
# The reader of enveloped reports

A report may come with a byte-order mark and with framing lines before and after its rows.
The reader takes one line at a time and hands it out in parts, so that a parser sees a plain
table whatever buffers it reads into.
-/

namespace DecisionEngine.CostIngestion

open DecisionEngine.Stream

/-! ## Lines of an envelope -/

def newline : UInt8 := 10

/-- The byte-order mark of UTF-8. -/
def byteOrderMark : List UInt8 := [0xEF, 0xBB, 0xBF]

def isAsciiWhitespace (byte : UInt8) : Bool :=
  byte = 0x20 ∨ byte = 0x09 ∨ byte = 0x0A ∨ byte = 0x0C ∨ byte = 0x0D

/-- The bytes of a text in ASCII. -/
def asciiBytes (text : String) : List UInt8 :=
  text.toList.map Char.toUInt8

/-- A marker or the metadata of the envelope, which the parser must not see. -/
def isEnvelopeLine (line : List UInt8) : Bool :=
  let s :=
    match line.findIdx? fun byte => !isAsciiWhitespace byte with
    | some i => line.drop i
    | none => line
  (asciiBytes "BEGIN,").isPrefixOf s || (asciiBytes "END,").isPrefixOf s ||
    (asciiBytes "EntityId=").isPrefixOf s

/-- A line of the envelope is white space with a marker or the metadata behind it. -/
theorem isEnvelopeLine_iff {line : List UInt8} :
    isEnvelopeLine line = true ↔ ∃ blank rest, line = blank ++ rest ∧
      (∀ byte ∈ blank, isAsciiWhitespace byte = true) ∧
      ∃ marker ∈ ["BEGIN,", "END,", "EntityId="], asciiBytes marker <+: rest := by
  have marked (s : List UInt8) : ((asciiBytes "BEGIN,").isPrefixOf s ||
      (asciiBytes "END,").isPrefixOf s || (asciiBytes "EntityId=").isPrefixOf s) = true ↔
        ∃ marker ∈ ["BEGIN,", "END,", "EntityId="], asciiBytes marker <+: s := by
    simp [or_assoc]
  rw [isEnvelopeLine, marked]
  constructor
  · intro isMarked
    cases isFound : line.findIdx? fun byte => !isAsciiWhitespace byte with
    | none =>
        rw [isFound] at isMarked
        exact ⟨[], line, rfl, by simp, isMarked⟩
    | some i =>
        rw [isFound] at isMarked
        refine ⟨line.take i, line.drop i, (List.take_append_drop i line).symm, ?_, isMarked⟩
        intro byte isBlank
        rw [List.findIdx?_eq_some_iff_getElem] at isFound
        obtain ⟨j, before, rfl⟩ := List.mem_take_iff_getElem.mp isBlank
        simpa using isFound.2.2 j (by omega)
  · rintro ⟨blank, rest, rfl, isBlank, marker, isMarker, tail, rfl⟩
    have starts : ∃ byte bytes, asciiBytes marker = byte :: bytes ∧
        isAsciiWhitespace byte = false := by
      simp only [List.mem_cons, List.not_mem_nil, or_false] at isMarker
      rcases isMarker with rfl | rfl | rfl <;> exact ⟨_, _, rfl, by decide⟩
    obtain ⟨byte, bytes, isBytes, notBlank⟩ := starts
    have isFound : (blank ++ (asciiBytes marker ++ tail)).findIdx?
        (fun byte => !isAsciiWhitespace byte) = some blank.length := by
      rw [List.findIdx?_append, List.findIdx?_eq_none_iff.mpr (by simpa using isBlank), isBytes,
        List.cons_append, List.findIdx?_cons]
      simp [notBlank]
    rw [isFound]
    exact ⟨marker, isMarker, tail, List.drop_left.symm⟩

/-! ## The reader -/

/-- What is still to be read, and the line that is being handed out. -/
structure EnvelopeReader where
  inner : List UInt8
  line : List UInt8
  /-- How many bytes of the line were handed out. -/
  pos : ℕ
  /-- No line has been read yet. -/
  first : Bool
  eof : Bool

namespace EnvelopeReader

def new (inner : List UInt8) : EnvelopeReader :=
  { inner, line := [], pos := 0, first := true, eof := false }

def withoutBom (line : List UInt8) : List UInt8 :=
  if byteOrderMark.isPrefixOf line then line.drop 3 else line

/-- A line without its framing. -/
def keptLine (line : List UInt8) : List UInt8 :=
  if isEnvelopeLine line then [] else line

/-- The reader with the next line, of which nothing is kept if it belongs to the envelope. -/
def pull (reader : EnvelopeReader) : Option EnvelopeReader :=
  let (line, inner) := readUntil newline reader.inner
  if line.length = 0 then none
  else
    some
      { reader with
        inner
        line := keptLine (if reader.first then withoutBom line else line)
        pos := 0
        first := false }

variable {reader next : EnvelopeReader}

theorem inner_pull_lt (pulled : reader.pull = some next) :
    next.inner.length < reader.inner.length := by
  have whole := congrArg List.length (readUntil_append newline reader.inner)
  rw [List.length_append] at whole
  dsimp only [pull] at pulled
  by_cases noLine : (readUntil newline reader.inner).1.length = 0
  · rw [if_pos noLine] at pulled
    cases pulled
  · rw [if_neg noLine] at pulled
    cases pulled
    dsimp only
    omega

/-- Hand out what is left of the line, or else read lines until one is kept. -/
def read (reader : EnvelopeReader) (size : ℕ) : List UInt8 × EnvelopeReader :=
  if reader.pos < reader.line.length then
    let n := min (reader.line.length - reader.pos) size
    ((reader.line.drop reader.pos).take n, { reader with pos := reader.pos + n })
  else if reader.eof then ([], reader)
  else
    match _pulled : reader.pull with
    | some next => next.read size
    | none => ([], { reader with inner := [], line := [], pos := 0, eof := true })
termination_by reader.inner.length
decreasing_by exact inner_pull_lt _pulled

/-! ## What is delivered -/

/-- The lines that do not belong to the envelope. -/
def keptBytes (input : List UInt8) : List UInt8 :=
  ((linesOf newline input).filter fun line => !isEnvelopeLine line).flatten

/-- A report without its byte-order mark and its envelope. -/
def stripped (input : List UInt8) : List UInt8 :=
  keptBytes (withoutBom input)

/-- What a reader is still to deliver. -/
def pending (reader : EnvelopeReader) : List UInt8 :=
  reader.line.drop reader.pos ++
    if reader.eof then []
    else if reader.first then stripped reader.inner
    else keptBytes reader.inner

theorem keptLine_nil : keptLine [] = [] := by
  decide

variable (input : List UInt8)

/-- The kept bytes are those of the first line and of the other lines. -/
theorem keptBytes_eq :
    keptBytes input =
      keptLine (readUntil newline input).1 ++ keptBytes (readUntil newline input).2 := by
  by_cases empty : input = []
  · rw [empty]
    exact keptLine_nil.symm
  · rw [keptBytes, linesOf_eq_cons empty, List.filter_cons, keptLine]
    by_cases isFrame : isEnvelopeLine (readUntil newline input).1
    · rw [if_pos isFrame, isFrame]
      rfl
    · rw [if_neg isFrame, Bool.eq_false_iff.mpr isFrame]
      rfl

/-- The byte-order mark is in the first line. -/
theorem readUntil_withoutBom :
    readUntil newline (withoutBom input) =
      (withoutBom (readUntil newline input).1, (readUntil newline input).2) := by
  have absent : newline ∉ byteOrderMark := by decide
  rw [withoutBom]
  by_cases marked : byteOrderMark.isPrefixOf input
  · rcases List.isPrefixOf_iff_prefix.mp marked with ⟨rest, rfl⟩
    rw [if_pos marked, readUntil_append_left absent, withoutBom, if_pos]
    · rfl
    · exact List.isPrefixOf_iff_prefix.mpr (List.prefix_append _ _)
  · have notMarked : ¬byteOrderMark.isPrefixOf (readUntil newline input).1 := by
      intro lineMarked
      apply marked
      rw [List.isPrefixOf_iff_prefix] at lineMarked ⊢
      have whole := readUntil_append newline input
      exact lineMarked.trans ⟨_, whole⟩
    rw [if_neg marked, withoutBom, if_neg notMarked]

/-- Reading a line leaves what is to be delivered as it is. -/
theorem pending_of_pull (pulled : reader.pull = some next) (notEof : reader.eof = false)
    (drained : reader.line.length ≤ reader.pos) :
    pending reader = pending next := by
  dsimp only [pull] at pulled
  by_cases noLine : (readUntil newline reader.inner).1.length = 0
  · rw [if_pos noLine] at pulled
    cases pulled
  · rw [if_neg noLine] at pulled
    cases pulled
    rw [pending, pending, List.drop_eq_nil_of_le drained, notEof]
    dsimp only
    rw [List.drop_zero, List.nil_append, if_neg Bool.false_ne_true, if_neg Bool.false_ne_true,
      if_neg Bool.false_ne_true]
    by_cases isFirst : reader.first = true
    · rw [if_pos isFirst, if_pos isFirst, stripped, keptBytes_eq, readUntil_withoutBom]
    · rw [if_neg isFirst, if_neg isFirst, keptBytes_eq]

theorem pending_of_pull_eq_none {reader : EnvelopeReader} (ended : reader.pull = none)
    (drained : reader.line.length ≤ reader.pos) : pending reader = [] := by
  have noInput : reader.inner = [] := by
    dsimp only [pull] at ended
    by_cases noLine : (readUntil newline reader.inner).1.length = 0
    · exact readUntil_fst_eq_nil_iff.mp (List.length_eq_zero_iff.mp noLine)
    · rw [if_neg noLine] at ended
      cases ended
  rw [pending, List.drop_eq_nil_of_le drained, noInput]
  cases reader.eof with
  | true => rfl
  | false =>
      cases reader.first with
      | true => rfl
      | false => rfl

/-! ### Reads -/

theorem read_of_inside {reader : EnvelopeReader} (inside : reader.pos < reader.line.length)
    (size : ℕ) :
    reader.read size =
      ((reader.line.drop reader.pos).take (min (reader.line.length - reader.pos) size),
        { reader with pos := reader.pos + min (reader.line.length - reader.pos) size }) := by
  rw [read, if_pos inside]

theorem read_of_eof {reader : EnvelopeReader} (drained : ¬reader.pos < reader.line.length)
    (isEof : reader.eof = true) (size : ℕ) : reader.read size = ([], reader) := by
  rw [read, if_neg drained, if_pos isEof]

theorem read_of_pull (drained : ¬reader.pos < reader.line.length) (notEof : ¬reader.eof = true)
    (pulled : reader.pull = some next) (size : ℕ) :
    reader.read size = next.read size := by
  rw [read, if_neg drained, if_neg notEof]
  split
  · next other isOther =>
      rw [pulled] at isOther
      cases isOther
      rfl
  · next ended =>
      rw [pulled] at ended
      cases ended

theorem read_of_end {reader : EnvelopeReader} (drained : ¬reader.pos < reader.line.length)
    (notEof : ¬reader.eof = true) (ended : reader.pull = none) (size : ℕ) :
    reader.read size = ([], { reader with inner := [], line := [], pos := 0, eof := true }) := by
  rw [read, if_neg drained, if_neg notEof]
  split
  · next next pulled =>
      rw [ended] at pulled
      cases pulled
  · rfl

/-- What a read gets is taken off what is to be delivered. -/
theorem pending_read (reader : EnvelopeReader) (size : ℕ) :
    pending reader = (reader.read size).1 ++ pending (reader.read size).2 := by
  induction reader using read.induct size with
  | case1 reader inside =>
      rw [read_of_inside inside, pending, pending]
      dsimp only
      rw [← List.append_assoc, ← List.drop_drop, List.take_append_drop]
  | case2 reader drained isEof =>
      rw [read_of_eof drained isEof]
      rfl
  | case3 reader drained notEof next pulled ih =>
      rw [read_of_pull drained notEof pulled,
        pending_of_pull pulled (Bool.eq_false_iff.mpr notEof) (not_lt.mp drained)]
      exact ih
  | case4 reader drained notEof ended =>
      rw [read_of_end drained notEof ended,
        pending_of_pull_eq_none ended (not_lt.mp drained)]
      rfl

theorem length_read_le (reader : EnvelopeReader) (size : ℕ) :
    (reader.read size).1.length ≤ size := by
  induction reader using read.induct size with
  | case1 reader inside =>
      rw [read_of_inside inside, List.length_take]
      exact Nat.le_trans (Nat.min_le_left _ _) (Nat.min_le_right _ _)
  | case2 reader drained isEof =>
      rw [read_of_eof drained isEof]
      exact Nat.zero_le _
  | case3 reader drained notEof next pulled ih =>
      rw [read_of_pull drained notEof pulled]
      exact ih
  | case4 reader drained notEof ended =>
      rw [read_of_end drained notEof ended]
      exact Nat.zero_le _

/-- A read that gets nothing finds the end. -/
theorem pending_eq_nil_of_read {reader : EnvelopeReader} {size : ℕ} (positive : 0 < size)
    (nothing : (reader.read size).1 = []) : pending reader = [] := by
  induction reader using read.induct size with
  | case1 reader inside =>
      rw [read_of_inside inside] at nothing
      have taken := congrArg List.length nothing
      rw [List.length_take, List.length_drop, List.length_nil] at taken
      omega
  | case2 reader drained isEof =>
      rw [pending, List.drop_eq_nil_of_le (not_lt.mp drained), if_pos isEof]
      rfl
  | case3 reader drained notEof next pulled ih =>
      rw [read_of_pull drained notEof pulled] at nothing
      rw [pending_of_pull pulled (Bool.eq_false_iff.mpr notEof) (not_lt.mp drained)]
      exact ih nothing
  | case4 reader drained notEof ended =>
      exact pending_of_pull_eq_none ended (not_lt.mp drained)

/-- The reader delivers what is pending. -/
theorem delivers_read : Delivers read pending where
  front := pending_read
  atMost := length_read_le
  progress _ _ positive nothing := pending_eq_nil_of_read positive nothing

/-- Whatever the sizes of the buffers are, the reader delivers the report without its mark and
its envelope in finitely many reads, and is at its end from then on. -/
theorem delivered_read_new (sizes : ℕ → ℕ) (positive : ∀ n, 1 ≤ sizes n) :
    ∃ count ≤ (stripped input).length,
      delivered read sizes (new input) count = stripped input ∧
      (∀ n < count, part read sizes (new input) n ≠ []) ∧
      ∀ n, count ≤ n → part read sizes (new input) n = [] :=
  delivers_read.exists_end positive (new input)

/-- A marked report with two lines between its markers, the latter without an end of line. -/
def markedReport : List UInt8 :=
  byteOrderMark ++ asciiBytes "BEGIN,a\nDate,Amount\n1/2/2025,60\nEND,a"

theorem delivered_read_new_markedReport :
    ∃ count ≤ (stripped markedReport).length,
      delivered read (fun n => n % 3 + 1) (new markedReport) count = stripped markedReport ∧
      (∀ n < count, part read (fun n => n % 3 + 1) (new markedReport) n ≠ []) ∧
      ∀ n, count ≤ n → part read (fun n => n % 3 + 1) (new markedReport) n = [] :=
  delivered_read_new markedReport (fun n => n % 3 + 1) fun n => Nat.le_add_left 1 (n % 3)

example : stripped markedReport = asciiBytes "Date,Amount\n1/2/2025,60\n" := by
  decide +kernel

end EnvelopeReader

end DecisionEngine.CostIngestion
