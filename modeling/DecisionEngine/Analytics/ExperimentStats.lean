import DecisionEngine.Statistics.Sample
import DecisionEngine.Text.Basic
import Mathlib.Data.List.ReduceOption
import Mathlib.Tactic.NormNum

/-!
# Statistics of an experiment

The events of an experiment are summed up in a row for each arm: payments and successes are
counted by their distinct payments, savings are summed over events.  The mean and the variance
of a payment's value are computed from these sums, and the verdict from both arms' values.

When no payment of an arm succeeds twice, they are the mean and the unbiased variance of the
sample of the arm's payments.  With the arms exchanged, the verdict is the opposite one.
-/

namespace DecisionEngine.Analytics

open Database Statistics Text

/-! ## Aggregates -/

structure ExperimentResultsQuery where
  merchantId : String
  experimentId : String
  startMs : Option Int
  endMs : Option Int

/-- An event of an A/B test; what its details do not have is `none`. -/
structure AbTestEvent where
  merchantId : String
  flowType : String
  experimentId : String
  createdAtMs : Int
  variantArm : String
  paymentId : Option String
  status : Option String
  averageLatency : Option ℚ
  chosenCostBps : Option ℚ
  costSavedBps : Option ℚ
  amount : Option ℚ
  firstAttempt : Option Bool

/-- The sums of an arm; an average of no events is `none`. -/
structure ArmRow where
  arm : String
  total : ℕ
  successCount : ℕ
  resolvedCount : ℕ
  avgLatencyMs : Option ℚ
  avgChosenCostBps : Option ℚ
  avgCostSavedBps : Option ℚ
  costEventCount : ℕ
  savedSuccessSum : ℚ
  savedSuccessSqSum : ℚ
  firstAttemptSuccessCount : ℕ
  totalCostSaved : ℚ

/-- The distinct values, without the missing ones. -/
def uniqExact (payments : List (Option String)) : List String :=
  (payments.reduceOption).dedup

def avgIf {α : Type} (value : α → ℚ) (holds : α → Bool) (rows : List α) : Option ℚ :=
  match rows.filter holds with
  | [] => none
  | first :: rest => some (sampleMean value (first :: rest))

namespace AbTestEvent

/-- A number that the details do not have is zero. -/
def extractFloat (value : Option ℚ) : ℚ :=
  value.getD 0

variable [LetterCase] (event : AbTestEvent)

def hasStatus (names : List String) : Bool :=
  event.status.any fun status => LetterCase.toLowercase status ∈ names

def isSuccess : Bool :=
  event.hasStatus ["success"]

omit [LetterCase] in
/-- Without the mark the attempt is the first. -/
def isFirstAttempt : Bool :=
  event.firstAttempt.getD true

end AbTestEvent

/-- The events that the filters of the query keep. -/
def selectsEvent (query : ExperimentResultsQuery) (event : AbTestEvent) : Bool :=
  event.merchantId = query.merchantId && event.flowType = "routing_evaluate_ab_test" &&
    event.experimentId = query.experimentId && event.variantArm ∈ ["control", "variant"] &&
      query.startMs.all (fun start => start ≤ event.createdAtMs) &&
        query.endMs.all fun last => event.createdAtMs ≤ last

section Rows

variable [LetterCase]

/-- The payments with an event of a kind. -/
def paymentsIf (holds : AbTestEvent → Bool) (events : List AbTestEvent) : List String :=
  uniqExact ((events.filter holds).map AbTestEvent.paymentId)

def aggregate (arm : String) (events : List AbTestEvent) : ArmRow where
  arm := arm
  total := (paymentsIf (fun _ => true) events).length
  successCount := (paymentsIf AbTestEvent.isSuccess events).length
  resolvedCount := (paymentsIf (fun event => event.hasStatus ["success", "failure"]) events).length
  avgLatencyMs := avgIf (fun event => event.averageLatency.getD 0)
    (fun event => event.averageLatency.any fun latency => 0 < latency) events
  avgChosenCostBps := avgIf (fun event => AbTestEvent.extractFloat event.chosenCostBps)
    (fun event => 0 < AbTestEvent.extractFloat event.chosenCostBps) events
  avgCostSavedBps := avgIf (fun event => AbTestEvent.extractFloat event.costSavedBps)
    (fun event => 0 < AbTestEvent.extractFloat event.chosenCostBps) events
  costEventCount :=
    (events.filter fun event => 0 < AbTestEvent.extractFloat event.chosenCostBps).length
  savedSuccessSum := sumOf (fun event => AbTestEvent.extractFloat event.costSavedBps)
    (events.filter AbTestEvent.isSuccess)
  savedSuccessSqSum := sumOf (fun event => AbTestEvent.extractFloat event.costSavedBps ^ 2)
    (events.filter AbTestEvent.isSuccess)
  firstAttemptSuccessCount :=
    (paymentsIf (fun event => event.isSuccess && event.isFirstAttempt) events).length
  totalCostSaved := sumOf (fun event => AbTestEvent.extractFloat event.costSavedBps / 10000 *
    AbTestEvent.extractFloat event.amount) (events.filter AbTestEvent.isSuccess)

omit [LetterCase] in
/-- The events of an arm. -/
def armEvents (query : ExperimentResultsQuery) (log : List AbTestEvent) (arm : String) :
    List AbTestEvent :=
  rowsOf AbTestEvent.variantArm (log.filter (selectsEvent query)) arm

/-- The row of an arm; an arm without events has none. -/
def armRow (query : ExperimentResultsQuery) (log : List AbTestEvent) (arm : String) :
    Option ArmRow :=
  if armEvents query log arm = [] then none else some (aggregate arm (armEvents query log arm))

end Rows

/-! ## Metrics -/

structure ExperimentArmMetrics where
  arm : String
  transactionCount : Int
  successCount : Int
  failureCount : Int
  authRate : ℚ
  firstAttemptAuthRate : ℚ
  totalCostSaved : Option ℚ
  avgLatencyMs : Option ℚ
  avgChosenCostBps : Option ℚ
  avgCostSavedBps : Option ℚ
  netEvBps : Option ℚ

/-- A share of the payments of an arm, zero of none. -/
def rateOf (count total : ℕ) : ℚ :=
  if 0 < total then count / total else 0

def armMetrics (arm : String) (row : Option ArmRow) (evaluationMargin : ℚ) :
    ExperimentArmMetrics :=
  match row with
  | none => ⟨arm, 0, 0, 0, 0, 0, none, none, none, none, none⟩
  | some row =>
      let hasCost : Bool := 0 < row.costEventCount
      { arm := arm
        transactionCount := row.total
        successCount := row.successCount
        failureCount := (row.resolvedCount - row.successCount : ℕ)
        authRate := rateOf row.successCount row.total
        firstAttemptAuthRate := rateOf row.firstAttemptSuccessCount row.total
        totalCostSaved := if hasCost then some row.totalCostSaved else none
        avgLatencyMs := row.avgLatencyMs.filter fun latency => 0 < latency
        avgChosenCostBps := row.avgChosenCostBps.filter fun _ => hasCost
        avgCostSavedBps := row.avgCostSavedBps.filter fun _ => hasCost
        netEvBps := if 0 < row.total then
            some ((evaluationMargin * 10000 * row.successCount + row.savedSuccessSum) / row.total)
          else none }

structure ArmEvStats where
  n : ℚ
  mean : ℚ
  var : ℚ
  deriving DecidableEq

def evMean (row : ArmRow) (evaluationMargin : ℚ) : ℚ :=
  (evaluationMargin * 10000 * row.successCount + row.savedSuccessSum) / row.total

/-- The variance before it is cut off at zero. -/
def evVariance (row : ArmRow) (evaluationMargin : ℚ) : ℚ :=
  let n : ℚ := row.total
  let m4 := evaluationMargin * 10000
  let k : ℚ := row.successCount
  let mean := evMean row evaluationMargin
  let sumSq := m4 * m4 * k + 2 * m4 * row.savedSuccessSum + row.savedSuccessSqSum
  (sumSq - n * mean * mean) / (n - 1)

def evStats (row : Option ArmRow) (evaluationMargin : ℚ) : Option ArmEvStats :=
  row.bind fun row =>
    if row.total < 2 then none
    else some ⟨row.total, evMean row evaluationMargin, Max.max (evVariance row evaluationMargin) 0⟩

/-! ## Significance -/

inductive ExperimentVerdict where
  | collectingData
  | notSignificant
  | variantWins
  | variantLoses
  | guardrailBreached
  deriving DecidableEq

/-- The functions of the standard library that the test needs. -/
structure RealFunctions where
  sqrt : ℚ → ℚ
  exp : ℚ → ℚ
  sqrtTwo : ℚ

namespace RealFunctions

variable (functions : RealFunctions)

def erfcApprox (x : ℚ) : ℚ :=
  let t := 1 / (1 + 0.3275911 * x)
  let poly := t * (0.254829592 +
    t * (-0.284496736 + t * (1.421413741 + t * (-1.453152027 + t * 1.061405429))))
  poly * functions.exp (-x * x)

def twoTailedPValue (z : ℚ) : ℚ :=
  functions.erfcApprox (|z| / functions.sqrtTwo)

end RealFunctions

structure EvaluationSettings where
  minSampleSize : ℕ
  guardrailThresholdPp : ℚ
  evaluationMargin : ℚ

/-- How far the second rate is below the first, in percentage points. -/
def trips (thresholdPp : ℚ) (control variant : ExperimentArmMetrics) : Bool :=
  thresholdPp < (control.authRate - variant.authRate) * 100

structure Significance where
  pValue : Option ℚ
  confidenceInterval : Option (ℚ × ℚ)
  verdict : ExperimentVerdict

/-- The test of two arms with values that are not all equal. -/
def significanceOf (functions : RealFunctions) (delta se : ℚ) (isCostExperiment : Bool)
    (evaluationMargin : ℚ) : Significance :=
  let pValue := functions.twoTailedPValue (delta / se)
  let half := 1.96 * se
  let toPp := evaluationMargin * 100
  { pValue := some pValue
    confidenceInterval := some (if isCostExperiment then (delta - half, delta + half)
      else ((delta - half) / toPp, (delta + half) / toPp))
    verdict := if pValue < 0.05 then
        if 0 < delta then .variantWins else .variantLoses
      else .notSignificant }

def computeSignificance (functions : RealFunctions) (control variant : ExperimentArmMetrics)
    (controlStats variantStats : Option ArmEvStats) (total : Int)
    (settings : EvaluationSettings) (isCostExperiment : Bool) : Significance :=
  if total < settings.minSampleSize ∨ control.transactionCount = 0 ∨
      variant.transactionCount = 0 then
    ⟨none, none, .collectingData⟩
  else if trips settings.guardrailThresholdPp control variant then
    ⟨none, none, .guardrailBreached⟩
  else
    match controlStats, variantStats with
    | some c, some v =>
        let se := functions.sqrt (c.var / c.n + v.var / v.n)
        if se = 0 then ⟨none, none, .notSignificant⟩
        else significanceOf functions (v.mean - c.mean) se isCostExperiment
          settings.evaluationMargin
    | _, _ => ⟨none, none, .notSignificant⟩

structure ExperimentResultsResponse where
  experimentId : String
  merchantId : String
  control : ExperimentArmMetrics
  variant : ExperimentArmMetrics
  deltaPp : ℚ
  significance : Significance
  minSampleSize : ℕ
  netDeltaBps : Option ℚ
  evaluationMargin : ℚ

/-- The response from the rows of both arms. -/
def resultsOf (functions : RealFunctions) (query : ExperimentResultsQuery)
    (settings : EvaluationSettings) (controlRow variantRow : Option ArmRow) :
    ExperimentResultsResponse :=
  let control := armMetrics "control" controlRow settings.evaluationMargin
  let variant := armMetrics "variant" variantRow settings.evaluationMargin
  let isCostExperiment := control.avgCostSavedBps.isSome || variant.avgCostSavedBps.isSome
  { experimentId := query.experimentId
    merchantId := query.merchantId
    control := control
    variant := variant
    deltaPp := (variant.authRate - control.authRate) * 100
    significance := computeSignificance functions control variant
      (evStats controlRow settings.evaluationMargin)
      (evStats variantRow settings.evaluationMargin)
      (control.transactionCount + variant.transactionCount) settings isCostExperiment
    minSampleSize := settings.minSampleSize
    netDeltaBps := match isCostExperiment, control.netEvBps, variant.netEvBps with
      | true, some c, some v => some (v - c)
      | _, _, _ => none
    evaluationMargin := settings.evaluationMargin }

def loadExperiment [LetterCase] (functions : RealFunctions) (query : ExperimentResultsQuery)
    (settings : EvaluationSettings) (log : List AbTestEvent) : ExperimentResultsResponse :=
  resultsOf functions query settings (armRow query log "control") (armRow query log "variant")

/-! ## The sample of an arm's payments -/

section Sample

variable [LetterCase]

/-- The payments of an arm. -/
def payments (events : List AbTestEvent) : List String :=
  paymentsIf (fun _ => true) events

/-- The saving of a payment that has succeeded. -/
def savingOf (events : List AbTestEvent) (payment : String) : Option ℚ :=
  (events.find? fun event => event.isSuccess && event.paymentId = some payment).map fun event =>
    AbTestEvent.extractFloat event.costSavedBps

/-- The margin and the saving of a success, and nothing otherwise. -/
def paymentValue (evaluationMargin : ℚ) (events : List AbTestEvent) (payment : String) : ℚ :=
  (savingOf events payment).elim 0 (evaluationMargin * 10000 + ·)

/-- A success is the success of a payment, and the only one of it. -/
structure ResolvedOnce (events : List AbTestEvent) : Prop where
  named : ∀ event ∈ events, event.isSuccess = true → event.paymentId.isSome = true
  once : ∀ payment, (rowsOf AbTestEvent.paymentId (events.filter AbTestEvent.isSuccess)
    (some payment)).length ≤ 1

variable {events : List AbTestEvent}

omit [LetterCase] in
theorem mem_paymentsIf {holds : AbTestEvent → Bool} {payment : String} :
    payment ∈ paymentsIf holds events ↔
      ∃ event ∈ events, holds event = true ∧ event.paymentId = some payment := by
  rw [paymentsIf, uniqExact, List.mem_dedup, List.reduceOption_mem_iff, List.mem_map]
  constructor
  · rintro ⟨event, kept, isPayment⟩
    rcases List.mem_filter.mp kept with ⟨listed, isHeld⟩
    exact ⟨event, listed, isHeld, isPayment⟩
  · rintro ⟨event, listed, isHeld, isPayment⟩
    exact ⟨event, List.mem_filter.mpr ⟨listed, isHeld⟩, isPayment⟩

omit [LetterCase] in
theorem nodup_paymentsIf (holds : AbTestEvent → Bool) : (paymentsIf holds events).Nodup :=
  List.nodup_dedup _

theorem savingOf_eq_head (payment : String) :
    savingOf events payment =
      (rowsOf AbTestEvent.paymentId (events.filter AbTestEvent.isSuccess)
        (some payment)).head?.map fun event => AbTestEvent.extractFloat event.costSavedBps := by
  rw [savingOf, rowsOf, List.filter_filter, ← List.head?_filter]
  congr 3
  funext event
  exact Bool.and_comm _ _

theorem isSome_savingOf {payment : String} :
    (savingOf events payment).isSome = true ↔
      payment ∈ paymentsIf AbTestEvent.isSuccess events := by
  rw [savingOf, Option.isSome_map, List.find?_isSome, mem_paymentsIf]
  constructor
  · rintro ⟨event, listed, isHeld⟩
    rw [Bool.and_eq_true, decide_eq_true_eq] at isHeld
    exact ⟨event, listed, isHeld⟩
  · rintro ⟨event, listed, isHeld⟩
    refine ⟨event, listed, ?_⟩
    rw [Bool.and_eq_true, decide_eq_true_eq]
    exact isHeld

/-- The successes are the payments with a saving. -/
theorem length_successes :
    (paymentsIf AbTestEvent.isSuccess events).length =
      ((payments events).filter fun payment => (savingOf events payment).isSome).length := by
  have distinct : (payments events).Nodup := nodup_paymentsIf _
  apply List.Perm.length_eq
  apply (List.perm_ext_iff_of_nodup (nodup_paymentsIf _) (distinct.filter _)).mpr
  intro payment
  rw [List.mem_filter, isSome_savingOf]
  constructor
  · intro succeeded
    rcases mem_paymentsIf.mp succeeded with ⟨event, listed, -, isPayment⟩
    exact ⟨mem_paymentsIf.mpr ⟨event, listed, rfl, isPayment⟩, succeeded⟩
  · exact And.right

/-- A sum over the successes is a sum over the payments. -/
theorem sumOf_successes (resolved : ResolvedOnce events) (value : ℚ → ℚ) :
    sumOf (fun event => value (AbTestEvent.extractFloat event.costSavedBps))
        (events.filter AbTestEvent.isSuccess) =
      sumOf (fun payment => (savingOf events payment).elim 0 value) (payments events) := by
  have distinct : ((payments events).map some).Nodup :=
    (nodup_paymentsIf _).map (Option.some_injective String)
  have complete : ∀ event ∈ events.filter AbTestEvent.isSuccess,
      event.paymentId ∈ (payments events).map some := by
    intro event kept
    rcases List.mem_filter.mp kept with ⟨listed, succeeded⟩
    rcases Option.isSome_iff_exists.mp (resolved.named event listed succeeded) with
      ⟨payment, isPayment⟩
    rw [isPayment]
    exact List.mem_map_of_mem (mem_paymentsIf.mpr ⟨event, listed, rfl, isPayment⟩)
  rw [← sum_sumOf_rowsOf _ distinct complete, List.map_map, sumOf]
  congr 1
  apply List.map_congr_left
  intro payment _
  rw [savingOf_eq_head, Function.comp_apply]
  have atMostOne := resolved.once payment
  cases isRows : rowsOf AbTestEvent.paymentId (events.filter AbTestEvent.isSuccess)
      (some payment) with
  | nil => rfl
  | cons event rest =>
      rw [isRows, List.length_cons] at atMostOne
      have noMore : rest = [] := List.length_eq_zero_iff.mp (by omega)
      rw [noMore, sumOf_cons, sumOf_nil, add_zero, List.head?_cons, Option.map_some,
        Option.elim_some]

/-! ### The aggregated moments -/

theorem evMean_aggregate (resolved : ResolvedOnce events) (arm : String) (evaluationMargin : ℚ) :
    evMean (aggregate arm events) evaluationMargin =
      sampleMean (paymentValue evaluationMargin events) (payments events) := by
  have savings := sumOf_successes resolved id
  simp only [id] at savings
  rw [evMean, sampleMean]
  simp only [aggregate, savings, length_successes]
  rw [← sumOf_elim_add]
  rfl

theorem evVariance_aggregate (resolved : ResolvedOnce events) (nonempty : payments events ≠ [])
    (arm : String) (evaluationMargin : ℚ) :
    evVariance (aggregate arm events) evaluationMargin =
      sampleVariance (paymentValue evaluationMargin events) (payments events) := by
  have nonzero : ((payments events).length : ℚ) ≠ 0 := by
    rw [Nat.cast_ne_zero]
    exact (List.length_pos_iff.mpr nonempty).ne'
  have savings := sumOf_successes resolved id
  simp only [id] at savings
  rw [sampleVariance_eq nonzero, ← evMean_aggregate resolved arm]
  simp only [evVariance, paymentValue]
  rw [sumOf_elim_add_sq, ← length_successes, ← sumOf_successes resolved,
    ← sumOf_successes resolved]
  rfl

end Sample

/-! ## Exchanged arms -/

def exchangedArm (arm : String) : String :=
  if arm = "control" then "variant" else if arm = "variant" then "control" else arm

def AbTestEvent.exchanged (event : AbTestEvent) : AbTestEvent :=
  { event with variantArm := exchangedArm event.variantArm }

def ExperimentVerdict.exchanged : ExperimentVerdict → ExperimentVerdict
  | .variantWins => .variantLoses
  | .variantLoses => .variantWins
  | verdict => verdict

theorem exchangedArm_exchangedArm (arm : String) : exchangedArm (exchangedArm arm) = arm := by
  by_cases isControl : arm = "control"
  · rw [isControl]
    rfl
  · by_cases isVariant : arm = "variant"
    · rw [isVariant]
      rfl
    · rw [exchangedArm, exchangedArm, if_neg isControl, if_neg isVariant, if_neg isControl,
        if_neg isVariant]

theorem exchangedArm_mem {arm : String} :
    exchangedArm arm ∈ ["control", "variant"] ↔ arm ∈ ["control", "variant"] := by
  by_cases isControl : arm = "control"
  · rw [isControl]
    decide
  · by_cases isVariant : arm = "variant"
    · rw [isVariant]
      decide
    · rw [exchangedArm, if_neg isControl, if_neg isVariant]

theorem armEvents_exchanged (query : ExperimentResultsQuery) (log : List AbTestEvent)
    (arm : String) :
    armEvents query (log.map AbTestEvent.exchanged) arm =
      (armEvents query log (exchangedArm arm)).map AbTestEvent.exchanged := by
  have selected : selectsEvent query ∘ AbTestEvent.exchanged = selectsEvent query := by
    funext event
    have sameArms : decide (exchangedArm event.variantArm ∈ ["control", "variant"]) =
        decide (event.variantArm ∈ ["control", "variant"]) :=
      decide_eq_decide.mpr exchangedArm_mem
    rw [Function.comp_apply, selectsEvent, selectsEvent, ← sameArms]
    rfl
  have ofArm : (fun event => decide (AbTestEvent.variantArm event = arm)) ∘
      AbTestEvent.exchanged = fun event => decide (event.variantArm = exchangedArm arm) := by
    funext event
    apply decide_eq_decide.mpr
    constructor
    · rintro rfl
      exact (exchangedArm_exchangedArm _).symm
    · intro isArm
      change exchangedArm event.variantArm = arm
      rw [isArm, exchangedArm_exchangedArm]
  rw [armEvents, armEvents, rowsOf, rowsOf, List.filter_map, List.filter_map, selected, ofArm]

section Rows

theorem avgIf_map {α β : Type} (value : β → ℚ) (holds : β → Bool) (image : α → β)
    (rows : List α) :
    avgIf value holds (rows.map image) = avgIf (value ∘ image) (holds ∘ image) rows := by
  rw [avgIf, avgIf, List.filter_map]
  cases rows.filter (holds ∘ image) with
  | nil => rfl
  | cons first rest =>
      rw [List.map_cons]
      simp only [sampleMean, sumOf, List.map_cons, List.map_map, List.length_cons,
        List.length_map, Function.comp_apply]

theorem paymentsIf_exchanged (holds : AbTestEvent → Bool) (events : List AbTestEvent) :
    paymentsIf holds (events.map AbTestEvent.exchanged) =
      paymentsIf (holds ∘ AbTestEvent.exchanged) events := by
  rw [paymentsIf, List.filter_map, List.map_map]
  rfl

theorem sumOf_exchanged (value : AbTestEvent → ℚ) (holds : AbTestEvent → Bool)
    (events : List AbTestEvent) :
    sumOf value ((events.map AbTestEvent.exchanged).filter holds) =
      sumOf (value ∘ AbTestEvent.exchanged) (events.filter (holds ∘ AbTestEvent.exchanged)) := by
  rw [List.filter_map, sumOf, List.map_map]
  rfl

theorem aggregate_exchanged [LetterCase] (arm : String) (events : List AbTestEvent) :
    aggregate arm (events.map AbTestEvent.exchanged) = aggregate arm events := by
  simp only [aggregate, paymentsIf_exchanged, avgIf_map, sumOf_exchanged]
  rw [List.filter_map, List.length_map]
  rfl

/-- The row of an arm of the exchanged log, but for its name. -/
theorem armRow_exchanged [LetterCase] (query : ExperimentResultsQuery) (log : List AbTestEvent)
    (arm : String) :
    armRow query (log.map AbTestEvent.exchanged) arm =
      (armRow query log (exchangedArm arm)).map fun row => { row with arm := arm } := by
  rw [armRow, armRow, armEvents_exchanged]
  by_cases isEmpty : armEvents query log (exchangedArm arm) = []
  · rw [isEmpty, List.map_nil, if_pos rfl, if_pos rfl, Option.map_none]
  · rw [if_neg isEmpty, if_neg (isEmpty ∘ List.map_eq_nil_iff.mp), aggregate_exchanged,
      Option.map_some]
    rfl

theorem evStats_rename (row : Option ArmRow) (arm : String) (evaluationMargin : ℚ) :
    evStats (row.map fun row => { row with arm := arm }) evaluationMargin =
      evStats row evaluationMargin := by
  cases row <;> rfl

theorem armMetrics_rename (row : Option ArmRow) (arm other : String) (evaluationMargin : ℚ) :
    armMetrics arm (row.map fun row => { row with arm := arm }) evaluationMargin =
      { armMetrics other row evaluationMargin with arm := arm } := by
  cases row <;> rfl

end Rows

/-! ### The verdicts -/

section Verdicts

variable {functions : RealFunctions}

theorem twoTailedPValue_neg (z : ℚ) :
    functions.twoTailedPValue (-z) = functions.twoTailedPValue z := by
  rw [RealFunctions.twoTailedPValue, abs_neg]
  rfl

theorem twoTailedPValue_zero (expZero : functions.exp 0 = 1) :
    functions.twoTailedPValue 0 = 0.999999999 := by
  rw [RealFunctions.twoTailedPValue, abs_zero, zero_div, RealFunctions.erfcApprox, neg_zero,
    zero_mul, expZero]
  norm_num

theorem significanceOf_neg (expZero : functions.exp 0 = 1) (delta se : ℚ)
    (isCostExperiment : Bool) (evaluationMargin : ℚ) :
    (significanceOf functions (-delta) se isCostExperiment evaluationMargin).verdict =
      (significanceOf functions delta se isCostExperiment evaluationMargin).verdict.exchanged := by
  simp only [significanceOf, neg_div, twoTailedPValue_neg]
  by_cases isSmall : functions.twoTailedPValue (delta / se) < 0.05
  · rw [if_pos isSmall, if_pos isSmall]
    rcases lt_trichotomy delta 0 with negative | isZero | positive
    · rw [if_pos (neg_pos.mpr negative), if_neg (lt_asymm negative)]
      rfl
    · rw [isZero, zero_div, twoTailedPValue_zero expZero] at isSmall
      norm_num at isSmall
    · rw [if_neg (lt_asymm (neg_neg_of_pos positive)), if_pos positive]
      rfl
  · rw [if_neg isSmall, if_neg isSmall]
    rfl

theorem computeSignificance_exchanged (expZero : functions.exp 0 = 1)
    {control variant : ExperimentArmMetrics} {settings : EvaluationSettings}
    (untripped : trips settings.guardrailThresholdPp control variant = false)
    (untrippedBack : trips settings.guardrailThresholdPp variant control = false)
    (controlStats variantStats : Option ArmEvStats) (total : Int) (isCostExperiment : Bool) :
    (computeSignificance functions variant control variantStats controlStats total settings
        isCostExperiment).verdict =
      (computeSignificance functions control variant controlStats variantStats total settings
        isCostExperiment).verdict.exchanged := by
  unfold computeSignificance
  rw [untripped, untrippedBack]
  simp only [or_comm (a := variant.transactionCount = 0)]
  by_cases collecting : total < settings.minSampleSize ∨ control.transactionCount = 0 ∨
      variant.transactionCount = 0
  · rw [if_pos collecting, if_pos collecting]
    rfl
  · rw [if_neg collecting, if_neg collecting, if_neg Bool.false_ne_true,
      if_neg Bool.false_ne_true]
    cases controlStats with
    | none => cases variantStats <;> rfl
    | some c =>
        cases variantStats with
        | none => rfl
        | some v =>
            simp only [add_comm (v.var / v.n)]
            by_cases isZero : functions.sqrt (c.var / c.n + v.var / v.n) = 0
            · rw [if_pos isZero, if_pos isZero]
              rfl
            · rw [if_neg isZero, if_neg isZero, ← neg_sub v.mean, significanceOf_neg expZero]

end Verdicts

/-! ## The results -/

section Results

variable [LetterCase]

/-- The statistics of a sample with more than one payment. -/
def sampleStats (evaluationMargin : ℚ) (events : List AbTestEvent) : Option ArmEvStats :=
  if (payments events).length < 2 then none
  else some ⟨(payments events).length,
    sampleMean (paymentValue evaluationMargin events) (payments events),
    sampleVariance (paymentValue evaluationMargin events) (payments events)⟩

/-- How much more a payment of the variant is worth, when both arms have statistics. -/
def meanDifference (query : ExperimentResultsQuery) (evaluationMargin : ℚ)
    (log : List AbTestEvent) : Option ℚ := do
  let control ← evStats (armRow query log "control") evaluationMargin
  let variant ← evStats (armRow query log "variant") evaluationMargin
  return variant.mean - control.mean

omit [LetterCase] in
theorem payments_ne_nil {events : List AbTestEvent} (atLeastTwo : 2 ≤ (payments events).length) :
    payments events ≠ [] := by
  apply List.length_pos_iff.mp
  omega

theorem evVariance_nonneg {events : List AbTestEvent} (resolved : ResolvedOnce events)
    (atLeastTwo : 2 ≤ (payments events).length) (arm : String) (evaluationMargin : ℚ) :
    0 ≤ evVariance (aggregate arm events) evaluationMargin := by
  rw [evVariance_aggregate resolved (payments_ne_nil atLeastTwo)]
  exact sampleVariance_nonneg _ (payments_ne_nil atLeastTwo)

theorem evStats_armRow {query : ExperimentResultsQuery} {log : List AbTestEvent} {arm : String}
    (resolved : ResolvedOnce (armEvents query log arm)) (evaluationMargin : ℚ) :
    evStats (armRow query log arm) evaluationMargin =
      sampleStats evaluationMargin (armEvents query log arm) := by
  rw [armRow, sampleStats]
  by_cases isEmpty : armEvents query log arm = []
  · rw [if_pos isEmpty, isEmpty]
    rfl
  · rw [if_neg isEmpty, evStats, Option.bind_some]
    by_cases few : (payments (armEvents query log arm)).length < 2
    · rw [if_pos few]
      exact if_pos few
    · have atLeastTwo := not_lt.mp few
      rw [if_neg few, ← evMean_aggregate resolved arm,
        ← evVariance_aggregate resolved (payments_ne_nil atLeastTwo) arm,
        max_eq_left (evVariance_nonneg resolved atLeastTwo arm evaluationMargin)]
      exact if_neg few

theorem meanDifference_exchanged (query : ExperimentResultsQuery) (evaluationMargin : ℚ)
    (log : List AbTestEvent) :
    meanDifference query evaluationMargin (log.map AbTestEvent.exchanged) =
      (meanDifference query evaluationMargin log).map Neg.neg := by
  have control : exchangedArm "control" = "variant" := rfl
  have variant : exchangedArm "variant" = "control" := rfl
  rw [meanDifference, meanDifference, armRow_exchanged, armRow_exchanged, evStats_rename,
    evStats_rename, control, variant]
  cases evStats (armRow query log "control") evaluationMargin with
  | none => cases evStats (armRow query log "variant") evaluationMargin <;> rfl
  | some c =>
      cases evStats (armRow query log "variant") evaluationMargin with
      | none => rfl
      | some v => exact congrArg some (neg_sub v.mean c.mean).symm

/-- The response to the exchanged log, when the guardrail is not tripped either way. -/
theorem verdict_exchanged {functions : RealFunctions} (expZero : functions.exp 0 = 1)
    {query : ExperimentResultsQuery} {settings : EvaluationSettings} {log : List AbTestEvent}
    (untripped : trips settings.guardrailThresholdPp
      (loadExperiment functions query settings log).control
      (loadExperiment functions query settings log).variant = false)
    (untrippedBack : trips settings.guardrailThresholdPp
      (loadExperiment functions query settings log).variant
      (loadExperiment functions query settings log).control = false) :
    (loadExperiment functions query settings
        (log.map AbTestEvent.exchanged)).significance.verdict =
      (loadExperiment functions query settings log).significance.verdict.exchanged := by
  have control : exchangedArm "control" = "variant" := rfl
  have variant : exchangedArm "variant" = "control" := rfl
  have exchanged := computeSignificance_exchanged expZero untripped untrippedBack
    (evStats (armRow query log "control") settings.evaluationMargin)
    (evStats (armRow query log "variant") settings.evaluationMargin)
  simp only [loadExperiment, resultsOf] at exchanged ⊢
  rw [armRow_exchanged, armRow_exchanged, evStats_rename, evStats_rename, control, variant,
    armMetrics_rename _ "control" "variant", armMetrics_rename _ "variant" "control", ← exchanged,
    add_comm (armMetrics "control" _ _).transactionCount, Bool.or_comm]
  rfl

/-- The statistics are those of the sample of payments, their variance is never cut off, and
exchanged arms turn the difference and the verdict around. -/
theorem experimentResults (functions : RealFunctions) (expZero : functions.exp 0 = 1)
    (query : ExperimentResultsQuery) (settings : EvaluationSettings) (log : List AbTestEvent)
    (resolved : ∀ arm ∈ ["control", "variant"], ResolvedOnce (armEvents query log arm)) :
    (∀ arm ∈ ["control", "variant"],
      evStats (armRow query log arm) settings.evaluationMargin =
          sampleStats settings.evaluationMargin (armEvents query log arm) ∧
        ∀ row, armRow query log arm = some row → 2 ≤ row.total →
          Max.max (evVariance row settings.evaluationMargin) 0 =
            evVariance row settings.evaluationMargin) ∧
      meanDifference query settings.evaluationMargin (log.map AbTestEvent.exchanged) =
        (meanDifference query settings.evaluationMargin log).map Neg.neg ∧
      (trips settings.guardrailThresholdPp (loadExperiment functions query settings log).control
          (loadExperiment functions query settings log).variant = false →
        trips settings.guardrailThresholdPp (loadExperiment functions query settings log).variant
            (loadExperiment functions query settings log).control = false →
          (loadExperiment functions query settings
              (log.map AbTestEvent.exchanged)).significance.verdict =
            (loadExperiment functions query settings log).significance.verdict.exchanged) := by
  refine ⟨?_, meanDifference_exchanged query settings.evaluationMargin log,
    fun untripped untrippedBack => verdict_exchanged expZero untripped untrippedBack⟩
  intro arm isArm
  refine ⟨evStats_armRow (resolved arm isArm) settings.evaluationMargin, ?_⟩
  intro row isRow atLeastTwo
  rw [armRow] at isRow
  by_cases isEmpty : armEvents query log arm = []
  · rw [if_pos isEmpty] at isRow
    cases isRow
  · rw [if_neg isEmpty, Option.some.injEq] at isRow
    subst isRow
    exact max_eq_left (evVariance_nonneg (resolved arm isArm) atLeastTwo arm _)

end Results

/-! ### Two payments for each arm -/

@[reducible]
def statsCase : LetterCase :=
  LetterCase.ascii

attribute [local instance] statsCase

/-- Functions that are exact at the squares and at zero. -/
def closeFunctions : RealFunctions where
  sqrt x := Nat.sqrt x.num.natAbs / Nat.sqrt x.den
  exp x := (1 + x / 1024) ^ 1024
  sqrtTwo := 1.41421356

def feesQuery : ExperimentResultsQuery :=
  ⟨"shop", "fees", none, none⟩

def feesEvent (arm payment status : String) (costSavedBps : Option ℚ) : AbTestEvent :=
  ⟨"shop", "routing_evaluate_ab_test", "fees", 0, arm, some payment, some status, none,
    costSavedBps.map fun _ => 180, costSavedBps, some 25, some true⟩

/-- A payment of the control arm succeeds at its second attempt. -/
def feesLog : List AbTestEvent :=
  [feesEvent "control" "p1" "ab_test_decision" none, feesEvent "control" "p1" "failure" none,
    feesEvent "control" "p1" "Success" (some 500),
    feesEvent "control" "p2" "ab_test_decision" none, feesEvent "control" "p2" "failure" none,
    feesEvent "variant" "p3" "ab_test_decision" none,
    feesEvent "variant" "p3" "success" (some 4000),
    feesEvent "variant" "p4" "ab_test_decision" none]

theorem resolvedOnce_feesLog :
    ∀ arm ∈ ["control", "variant"], ResolvedOnce (armEvents feesQuery feesLog arm) := by
  have single : ∀ arm ∈ ["control", "variant"],
      (∀ event ∈ armEvents feesQuery feesLog arm, event.isSuccess = true →
        event.paymentId.isSome = true) ∧
      ((armEvents feesQuery feesLog arm).filter AbTestEvent.isSuccess).length ≤ 1 := by
    decide +kernel
  intro arm isArm
  exact ⟨(single arm isArm).1, fun _ =>
    (List.length_filter_le _ _).trans (single arm isArm).2⟩

theorem experimentResults_fees :
    evStats (armRow feesQuery feesLog "control") 1 = some ⟨2, 5250, 55125000⟩ ∧
      (loadExperiment closeFunctions feesQuery ⟨4, 5, 1⟩
          (feesLog.map AbTestEvent.exchanged)).significance.verdict =
        (loadExperiment closeFunctions feesQuery ⟨4, 5, 1⟩
          feesLog).significance.verdict.exchanged := by
  have results := experimentResults closeFunctions (by norm_num [closeFunctions]) feesQuery
    ⟨4, 5, 1⟩ feesLog resolvedOnce_feesLog
  refine ⟨((results.1 "control" (by decide)).1).trans (by decide +kernel), results.2.2 ?_ ?_⟩
  · decide +kernel
  · decide +kernel

end DecisionEngine.Analytics
