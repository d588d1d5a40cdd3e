import DecisionEngine.CostIngestion.Checkout
import Mathlib.Tactic.LinearCombination

/-!
# What the rows of grouped payments add up to

The row of a payment has the sum of its captures, and its other lines in the parts of the fee.
Which payments have a row depends on the order of a report only through the networks that the
last captures of the payments name.
-/

namespace DecisionEngine.CostIngestion

open Database Map Text

/-- What a row says of the money of a transaction. -/
structure Monetary where
  txnRef : String
  gross : ℚ
  totalFee : ℚ
  interchange : ℚ
  schemeFee : ℚ
  markup : ℚ
  commission : ℚ
  deriving DecidableEq

def ParsedRow.monetary (row : ParsedRow) : Monetary :=
  ⟨row.txnRef, row.gross, row.totalFee, row.interchange, row.schemeFee, row.markup,
    row.commission⟩

namespace Checkout

variable [CellText] [LetterCase] (headers : Headers)

/-! ## Totals -/

def kept (records : List ByteRecord) : List ByteRecord :=
  records.filter (isKept headers)

def payments (records : List ByteRecord) : List String :=
  groupKeys (paymentId headers) (kept headers records)

def linesOf (records : List ByteRecord) (id : String) : List ByteRecord :=
  rowsOf (paymentId headers) (kept headers records) id

/-- The amounts of the lines of a kind. -/
def totalOf (kind : Breakdown) (lines : List ByteRecord) : ℚ :=
  sumOf (amount headers) (lines.filter fun line => breakdown headers line = kind)

def captures (lines : List ByteRecord) : List ByteRecord :=
  lines.filter fun line => breakdown headers line = .capture

/-- The network that the last capture names. -/
def lastNetwork (lines : List ByteRecord) : String :=
  (((captures headers lines).getLast?).map (network headers)).getD ""

variable (lines : List ByteRecord)

/-- The gross amount is that of the captures, and the fee is that of the other lines. -/
def monetaryOf (id : String) : Monetary where
  txnRef := id
  gross := sumOf (amount headers) (captures headers lines)
  totalFee := -sumOf (amount headers) (lines.filter fun line => breakdown headers line ≠ .capture)
  interchange := -totalOf headers .interchange lines
  schemeFee := -totalOf headers .scheme lines
  markup := 0
  commission := -totalOf headers .commission lines

/-- A captured payment has no interchange although another one on its network has. -/
def FeeIncomplete (records : List ByteRecord) (id : String) : Prop :=
  -totalOf headers .interchange (linesOf headers records id) ≤ 0 ∧
    ∃ other ∈ payments headers records, captures headers (linesOf headers records other) ≠ [] ∧
      0 < -totalOf headers .interchange (linesOf headers records other) ∧
      lastNetwork headers (linesOf headers records other) ≠ "" ∧
      lastNetwork headers (linesOf headers records other) =
        lastNetwork headers (linesOf headers records id)

instance (records : List ByteRecord) (id : String) : Decidable (FeeIncomplete headers records id) :=
  inferInstanceAs (Decidable (_ ∧ _))

/-- The payments with a capture whose fees are complete. -/
def emitted (records : List ByteRecord) : List String :=
  (payments headers records).filter fun id =>
    captures headers (linesOf headers records id) ≠ [] ∧ ¬FeeIncomplete headers records id

/-! ## What is added up -/

variable {headers}

theorem totalOf_concat (kind : Breakdown) (lines : List ByteRecord) (last : ByteRecord) :
    totalOf headers kind (lines ++ [last]) = totalOf headers kind lines +
      if breakdown headers last = kind then amount headers last else 0 := by
  rw [totalOf, List.filter_append, sumOf_append, totalOf]
  by_cases isKind : breakdown headers last = kind
  · rw [if_pos isKind, List.filter_cons_of_pos (by simpa using isKind), List.filter_nil, sumOf_cons,
      sumOf_nil, add_zero]
  · rw [if_neg isKind, List.filter_cons_of_neg (by simpa using isKind), List.filter_nil, sumOf_nil]

variable {last : ByteRecord}

omit [CellText] in
theorem captures_concat_of_capture (isCapture : breakdown headers last = .capture)
    (lines : List ByteRecord) :
    captures headers (lines ++ [last]) = captures headers lines ++ [last] := by
  rw [captures, List.filter_append, List.filter_cons_of_pos (by simpa using isCapture),
    List.filter_nil, captures]

omit [CellText] in
theorem captures_concat_of_fee {last : ByteRecord}
    (isFee : breakdown headers last ≠ .capture) (lines : List ByteRecord) :
    captures headers (lines ++ [last]) = captures headers lines := by
  rw [captures, List.filter_append, List.filter_cons_of_neg (by simpa using isFee),
    List.filter_nil, List.append_nil, captures]

variable (headers) in
/-- The aggregate of a payment tells what its lines add up to. -/
structure Summarizes (lines : List ByteRecord) (payment : PaymentAcc) : Prop where
  gross : payment.gross = totalOf headers .capture lines
  interchange : payment.interchange = -totalOf headers .interchange lines
  schemeFee : payment.schemeFee = -totalOf headers .scheme lines
  commission : payment.commission = -totalOf headers .commission lines
  hasCapture : payment.hasCapture = true ↔ captures headers lines ≠ []
  cardNetwork : payment.cardNetwork = lastNetwork headers lines
  txnRef : payment.txnRef =
    (((captures headers lines).getLast?).map (paymentId headers)).getD ""

/-- A line changes what its kind adds up to, and a capture what it says of the payment. -/
theorem Summarizes.addLine {lines : List ByteRecord} {payment : PaymentAcc}
    (summarizes : Summarizes headers lines payment) (last : ByteRecord) :
    Summarizes headers (lines ++ [last]) (addLine headers payment last) := by
  rcases summarizes with
    ⟨gross, interchange, schemeFee, commission, hasCapture, cardNetwork, txnRef⟩
  rw [Checkout.addLine]
  cases kind : breakdown headers last with
  | capture =>
      constructor <;>
        simp [totalOf_concat, kind, captures_concat_of_capture kind, lastNetwork, gross,
          interchange, schemeFee, commission]
  | interchange | scheme | commission =>
      have same := captures_concat_of_fee (by rw [kind]; decide) lines
      constructor <;>
        simp [totalOf_concat, kind, same, gross, interchange, schemeFee, commission, hasCapture,
          cardNetwork, txnRef, lastNetwork, add_comm]

/-- The aggregate of lines tells what they add up to. -/
theorem summarizes_foldl :
    Summarizes headers lines (lines.foldl (addLine headers) {}) := by
  induction lines using List.reverseRecOn with
  | nil =>
      constructor <;> simp [totalOf, captures, lastNetwork]
  | append_singleton rest last ih =>
      rw [List.foldl_append]
      exact ih.addLine last

/-- Every fee is in one part. -/
theorem totalFee_eq :
    sumOf (amount headers) (lines.filter fun line => breakdown headers line ≠ .capture) =
      totalOf headers .interchange lines + totalOf headers .scheme lines +
        totalOf headers .commission lines := by
  induction lines using List.reverseRecOn with
  | nil => simp [totalOf]
  | append_singleton rest last ih =>
      rw [totalOf_concat, totalOf_concat, totalOf_concat, List.filter_append, sumOf_append, ih]
      cases kind : breakdown headers last with
      | capture => simp [kind]
      | interchange => simp [kind]; ring
      | scheme => simp [kind]; ring
      | commission => simp [kind]; ring

theorem accumulated_eq (records : List ByteRecord) :
    accumulated headers records =
      foldAt (paymentId headers) {} (addLine headers) (kept headers records) := by
  rw [accumulated, foldAt, kept, List.foldl_filter]
  congr 1
  funext acc record
  rw [addRecord, isKept]
  by_cases isSkipped : action headers record ∈ skippedActions
  · rw [if_pos isSkipped, if_neg (by simp [isSkipped])]
  · by_cases noPayment : paymentId headers record = ""
    · rw [if_neg isSkipped, if_pos noPayment, if_neg (by simp [noPayment])]
    · rw [if_neg isSkipped, if_neg noPayment, if_pos (by simp [isSkipped, noPayment])]

section

omit [CellText] [LetterCase]

theorem isIncomplete_perm {payments others : List PaymentAcc} (perm : payments.Perm others)
    (payment : PaymentAcc) :
    payment.isIncomplete (interchangeNetworks payments) =
      payment.isIncomplete (interchangeNetworks others) := by
  rw [PaymentAcc.isIncomplete, PaymentAcc.isIncomplete, decide_eq_decide, interchangeNetworks,
    interchangeNetworks, ((perm.filter _).map PaymentAcc.cardNetwork).mem_iff]

/-- The rows do not depend on the order of the payments. -/
theorem flush_perm {payments others : List PaymentAcc} (perm : payments.Perm others) :
    (flush payments).Perm (flush others) := by
  rw [flush, flush]
  simp only [isIncomplete_perm perm]
  exact perm.filterMap _

end

variable (headers) in
/-- The aggregates of the payments, in the order of the payments. -/
def aggregates (records : List ByteRecord) : List PaymentAcc :=
  (payments headers records).map fun id =>
    (linesOf headers records id).foldl (addLine headers) {}

variable (order : IterationOrder String PaymentAcc)

theorem perm_aggregates (records : List ByteRecord) :
    ((order.entries (accumulated headers records)).map Prod.snd).Perm
      (aggregates headers records) := by
  have entries := (perm_entries_foldAt order (paymentId headers) {} (addLine headers)
    (kept headers records)).map Prod.snd
  rw [← accumulated_eq, List.map_map] at entries
  exact entries

variable {records : List ByteRecord}

/-- The networks of the aggregates are those of the captured payments with interchange. -/
theorem mem_interchangeNetworks {name : String} :
    name ∈ interchangeNetworks (aggregates headers records) ↔
      ∃ other ∈ payments headers records, captures headers (linesOf headers records other) ≠ [] ∧
        0 < -totalOf headers .interchange (linesOf headers records other) ∧
        lastNetwork headers (linesOf headers records other) ≠ "" ∧
        lastNetwork headers (linesOf headers records other) = name := by
  rw [interchangeNetworks, List.mem_map]
  constructor
  · rintro ⟨payment, listed, rfl⟩
    rcases List.mem_filter.mp listed with ⟨isAggregate, holds⟩
    rcases List.mem_map.mp isAggregate with ⟨other, isPayment, rfl⟩
    have own : Summarizes headers (linesOf headers records other) _ := summarizes_foldl _
    rcases of_decide_eq_true holds with ⟨hasCapture, positive, named⟩
    rw [own.interchange] at positive
    rw [own.cardNetwork] at named ⊢
    exact ⟨other, isPayment, own.hasCapture.mp hasCapture, positive, named, rfl⟩
  · rintro ⟨other, isPayment, hasCapture, positive, named, rfl⟩
    have own : Summarizes headers (linesOf headers records other) _ := summarizes_foldl _
    refine ⟨_, List.mem_filter.mpr ⟨List.mem_map_of_mem isPayment, decide_eq_true ?_⟩,
      own.cardNetwork⟩
    rw [own.interchange, own.cardNetwork]
    exact ⟨own.hasCapture.mpr hasCapture, positive, named⟩

variable {id : String}

omit [CellText] in
theorem mem_linesOf {line : ByteRecord} :
    line ∈ linesOf headers records id ↔
      (line ∈ records ∧ isKept headers line) ∧ paymentId headers line = id := by
  rw [linesOf, mem_rowsOf, kept, List.mem_filter]

/-- A captured payment has its totals in its row. -/
theorem map_monetary_intoRow (hasCapture : captures headers (linesOf headers records id) ≠ []) :
    (((linesOf headers records id).foldl (addLine headers) {}).intoRow).map ParsedRow.monetary =
      some (monetaryOf headers (linesOf headers records id) id) := by
  have own : Summarizes headers (linesOf headers records id) _ := summarizes_foldl _
  have isId : (((captures headers (linesOf headers records id)).getLast?).map
      (paymentId headers)).getD "" = id := by
    rw [List.getLast?_eq_some_getLast hasCapture, Option.map_some, Option.getD_some]
    have listed := List.getLast_mem hasCapture
    exact (mem_linesOf.mp (List.mem_of_mem_filter listed)).2
  rw [PaymentAcc.intoRow, if_pos (own.hasCapture.mpr hasCapture), Option.map_some, monetaryOf,
    ParsedRow.monetary, totalFee_eq]
  dsimp only
  rw [own.txnRef, isId, own.gross, own.interchange, own.schemeFee, own.commission]
  simp only [Option.some.injEq, Monetary.mk.injEq, totalOf, captures, true_and, and_true]
  ring

theorem isIncomplete_iff (hasCapture : captures headers (linesOf headers records id) ≠ []) :
    ((linesOf headers records id).foldl (addLine headers) {}).isIncomplete
      (interchangeNetworks (aggregates headers records)) ↔ FeeIncomplete headers records id := by
  have own : Summarizes headers (linesOf headers records id) _ := summarizes_foldl _
  rw [PaymentAcc.isIncomplete, decide_eq_true_eq, and_iff_right (own.hasCapture.mpr hasCapture),
    own.interchange, own.cardNetwork, mem_interchangeNetworks, FeeIncomplete]

/-- The rows are those of the payments with a capture and complete fees. -/
theorem map_monetary_flush (records : List ByteRecord) :
    (flush (aggregates headers records)).map ParsedRow.monetary =
      (emitted headers records).map fun id =>
        monetaryOf headers (linesOf headers records id) id := by
  have ofPayments : (emitted headers records).map
      (fun id => monetaryOf headers (linesOf headers records id) id) =
      (payments headers records).filterMap fun id =>
        if captures headers (linesOf headers records id) ≠ [] ∧ ¬FeeIncomplete headers records id
        then some (monetaryOf headers (linesOf headers records id) id) else none := by
    rw [emitted, ← List.filterMap_eq_map, List.filterMap_filter]
    simp only [decide_eq_true_eq]
    rfl
  rw [flush, List.map_filterMap, ofPayments]
  generalize isNetworks : interchangeNetworks (aggregates headers records) = networks
  rw [aggregates, List.filterMap_map]
  apply List.filterMap_congr
  intro id _
  rw [Function.comp_apply]
  by_cases hasCapture : captures headers (linesOf headers records id) ≠ []
  · have marked := isIncomplete_iff hasCapture
    rw [isNetworks] at marked
    by_cases incomplete : FeeIncomplete headers records id
    · rw [if_pos (marked.mpr incomplete), if_neg fun complete => complete.2 incomplete]
      rfl
    · rw [if_neg (mt marked.mp incomplete), if_pos ⟨hasCapture, incomplete⟩,
        map_monetary_intoRow hasCapture]
  · have own : Summarizes headers (linesOf headers records id) _ := summarizes_foldl _
    rw [PaymentAcc.intoRow, if_neg (mt own.hasCapture.mp hasCapture), ite_self,
      if_neg fun complete => hasCapture complete.1]
    rfl

/-- There is one row for each payment with a capture and complete fees, with its totals. -/
theorem perm_monetary_parse (records : List ByteRecord) :
    (((source order).parse headers records).1.map ParsedRow.monetary).Perm
      ((emitted headers records).map fun id =>
        monetaryOf headers (linesOf headers records id) id) := by
  rw [← map_monetary_flush]
  exact (flush_perm (perm_aggregates order records)).map ParsedRow.monetary

/-! ## Permuted reports -/

section Permuted

variable {records others : List ByteRecord}

omit [CellText] in
theorem linesOf_perm (perm : records.Perm others) (id : String) :
    (linesOf headers records id).Perm (linesOf headers others id) :=
  rowsOf_perm (perm.filter _) id

theorem totalOf_perm (kind : Breakdown) {lines moved : List ByteRecord} (perm : lines.Perm moved) :
    totalOf headers kind lines = totalOf headers kind moved :=
  sumOf_perm _ (perm.filter _)

variable {lines moved : List ByteRecord}

/-- The totals of a payment do not depend on the order of its lines. -/
theorem monetaryOf_perm (perm : lines.Perm moved) (id : String) :
    monetaryOf headers lines id = monetaryOf headers moved id := by
  rw [monetaryOf, monetaryOf, totalOf_perm _ perm, totalOf_perm _ perm, totalOf_perm _ perm,
    captures, captures, sumOf_perm _ (perm.filter _), sumOf_perm _ (perm.filter _)]

omit [CellText] in
theorem payments_perm (perm : records.Perm others) :
    (payments headers records).Perm (payments headers others) :=
  ((perm.filter _).map _).dedup

omit [CellText] in
theorem captures_perm (perm : lines.Perm moved) :
    captures headers lines ≠ [] ↔ captures headers moved ≠ [] :=
  by rw [← List.length_pos_iff, ← List.length_pos_iff, captures, captures,
    (perm.filter _).length_eq]

/-- A report with the same lines and the same last networks has the same rows to emit. -/
theorem emitted_perm (perm : records.Perm others)
    (sameNetworks : ∀ id, lastNetwork headers (linesOf headers records id) =
      lastNetwork headers (linesOf headers others id)) :
    (emitted headers records).Perm (emitted headers others) := by
  have sameMarks : ∀ id, FeeIncomplete headers records id ↔ FeeIncomplete headers others id := by
    intro id
    rw [FeeIncomplete, FeeIncomplete]
    simp only [sameNetworks, totalOf_perm _ (linesOf_perm perm _),
      captures_perm (linesOf_perm perm _), (payments_perm perm).mem_iff]
  rw [emitted, emitted]
  simp only [sameMarks, captures_perm (linesOf_perm perm _)]
  exact (payments_perm perm).filter _

omit [CellText] in
/-- Captures that name one network do so in any order. -/
theorem lastNetwork_of_agree {lines moved : List ByteRecord} (perm : lines.Perm moved)
    (agree : ∀ first ∈ captures headers lines, ∀ second ∈ captures headers lines,
      network headers first = network headers second) :
    lastNetwork headers lines = lastNetwork headers moved := by
  have sameCaptures : (captures headers lines).Perm (captures headers moved) := perm.filter _
  rw [lastNetwork, lastNetwork]
  cases isLast : (captures headers lines).getLast? with
  | none =>
      have empty := List.getLast?_eq_none_iff.mp isLast
      rw [empty] at sameCaptures
      rw [List.nil_perm.mp sameCaptures]
      rfl
  | some last =>
      cases isMoved : (captures headers moved).getLast? with
      | none =>
          have empty := List.getLast?_eq_none_iff.mp isMoved
          rw [empty] at sameCaptures
          rw [List.perm_nil.mp sameCaptures] at isLast
          cases isLast
      | some other =>
          have otherListed := sameCaptures.mem_iff.mpr (List.mem_of_getLast? isMoved)
          exact agree last (List.mem_of_getLast? isLast) other otherListed

end Permuted

variable (headers) in
/-- There is one row for each payment with a capture and complete fees.  Its gross amount is that
of the captures, its fee that of the other lines, and every other line is in one part. -/
structure ConservesMoney (records : List ByteRecord) (rows : List ParsedRow) : Prop where
  rows_perm : (rows.map ParsedRow.monetary).Perm
    ((emitted headers records).map fun id => monetaryOf headers (linesOf headers records id) id)
  distinct : (emitted headers records).Nodup
  emitted_iff : ∀ id, id ∈ emitted headers records ↔
    captures headers (linesOf headers records id) ≠ [] ∧ ¬FeeIncomplete headers records id
  split : ∀ row ∈ rows, row.totalFee = row.interchange + row.schemeFee + row.commission

theorem mem_emitted :
    id ∈ emitted headers records ↔
      captures headers (linesOf headers records id) ≠ [] ∧ ¬FeeIncomplete headers records id := by
  rw [emitted, List.mem_filter, decide_eq_true_eq, and_iff_right_iff_imp]
  rintro ⟨hasCapture, -⟩
  rcases List.exists_mem_of_ne_nil _ hasCapture with ⟨line, listed⟩
  have ofPayment := mem_rowsOf.mp (List.mem_of_mem_filter listed)
  exact mem_groupKeys.mpr ⟨line, ofPayment.1, ofPayment.2⟩

theorem conservesMoney_parse (records : List ByteRecord) :
    ConservesMoney headers records ((source order).parse headers records).1 where
  rows_perm := perm_monetary_parse order records
  distinct := (nodup_groupKeys _ _).filter _
  emitted_iff _ := mem_emitted
  split := by
    intro row listed
    rcases List.mem_filterMap.mp listed with ⟨payment, -, isRow⟩
    by_cases incomplete : payment.isIncomplete (interchangeNetworks
        ((order.entries (accumulated headers records)).map Prod.snd))
    · rw [if_pos incomplete] at isRow
      cases isRow
    · rw [if_neg incomplete, PaymentAcc.intoRow] at isRow
      by_cases hasCapture : payment.hasCapture
      · rw [if_pos hasCapture] at isRow
        cases isRow
        rfl
      · rw [if_neg hasCapture] at isRow
        cases isRow

/-- Grouping conserves money.  In a permuted report every payment has the same totals, and where
the last capture of each payment names the same network the same payments have rows. -/
theorem conservesMoney_of_perm (headers : Headers) (order : IterationOrder String PaymentAcc)
    (records : List ByteRecord) :
    ConservesMoney headers records ((source order).parse headers records).1 ∧
      ∀ others otherOrder, records.Perm others →
        (∀ id, monetaryOf headers (linesOf headers records id) id =
          monetaryOf headers (linesOf headers others id) id) ∧
        ((∀ id, lastNetwork headers (linesOf headers records id) =
            lastNetwork headers (linesOf headers others id)) →
          (((source order).parse headers records).1.map ParsedRow.monetary).Perm
            (((source otherOrder).parse headers others).1.map ParsedRow.monetary)) := by
  refine ⟨conservesMoney_parse order records, fun others otherOrder perm => ⟨?_, ?_⟩⟩
  · exact fun id => monetaryOf_perm (linesOf_perm perm id) id
  · intro sameNetworks
    have sameTotals : (fun id => monetaryOf headers (linesOf headers records id) id) =
        fun id => monetaryOf headers (linesOf headers others id) id :=
      funext fun id => monetaryOf_perm (linesOf_perm perm id) id
    have sameRows := (emitted_perm perm sameNetworks).map fun id =>
      monetaryOf headers (linesOf headers others id) id
    have first : (((source order).parse headers records).1.map ParsedRow.monetary).Perm _ :=
      perm_monetary_parse order records
    rw [sameTotals] at first
    exact first.trans (sameRows.trans (perm_monetary_parse otherOrder others).symm)

end Checkout

/-! ## A payment that was captured on two networks -/

namespace Checkout

def labels : Headers where
  record := ["Payment ID", "Action Type", "Breakdown Type", "Holding Currency",
    "Holding Currency Amount", "Payment Method", "Card Type", "Issuer Country",
    "Processed On"].map encodeUtf8
  mapping := ⟨∅⟩

def line (payment breakdown amount method : String) : ByteRecord :=
  [payment, "Capture", breakdown, "EUR", amount, method, "Credit", "NL", ""].map encodeUtf8

local instance wholeCells : CellText := .whole

local instance reportCase : LetterCase := .ascii

def visaReport : List ByteRecord :=
  [line "P1" "Capture" "10" "VISA", line "P1" "Interchange Fixed Fee" "-1" "VISA",
    line "P1" "Capture" "20" "VISA", line "P2" "Capture" "10" "VISA",
    line "P2" "Interchange Fixed Fee" "-1" "VISA"]

theorem conservesMoney_of_perm_visaReport :
    (((source .stored).parse labels visaReport).1.map ParsedRow.monetary).Perm
      (((source .reversed).parse labels visaReport.reverse).1.map ParsedRow.monetary) := by
  have perm := (List.reverse_perm visaReport).symm
  have allVisa : ∀ line ∈ visaReport, network labels line = "visa" := by decide +kernel
  have ofCapture : ∀ {id line}, line ∈ captures labels (linesOf labels visaReport id) →
      network labels line = "visa" := fun listed =>
    allVisa _ (mem_linesOf.mp (List.mem_of_mem_filter listed)).1.1
  apply ((conservesMoney_of_perm labels .stored visaReport).2 visaReport.reverse .reversed perm).2
  intro id
  apply lastNetwork_of_agree (linesOf_perm perm id)
  intro first isFirst second isSecond
  rw [ofCapture isFirst, ofCapture isSecond]

def visaFirst : List ByteRecord :=
  [line "P1" "Capture" "10" "VISA", line "P1" "Capture" "10" "MASTERCARD",
    line "P2" "Capture" "10" "VISA", line "P2" "Interchange Fixed Fee" "-1" "VISA"]

def visaLast : List ByteRecord :=
  [line "P1" "Capture" "10" "MASTERCARD", line "P1" "Capture" "10" "VISA",
    line "P2" "Capture" "10" "VISA", line "P2" "Interchange Fixed Fee" "-1" "VISA"]

/-- The lines are the same, but the first payment has a row in one order only. -/
theorem not_perm_visaLast :
    visaFirst.Perm visaLast ∧
      ((source .stored).parse labels visaFirst).1.map (fun row => row.monetary.txnRef) =
        ["P2", "P1"] ∧
      ((source .stored).parse labels visaLast).1.map (fun row => row.monetary.txnRef) = ["P2"] :=
  ⟨List.Perm.swap _ _ _, by decide +kernel, by decide +kernel⟩

end Checkout

end DecisionEngine.CostIngestion
