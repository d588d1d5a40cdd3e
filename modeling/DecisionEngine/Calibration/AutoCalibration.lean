import DecisionEngine.CostIngestion.Types
import DecisionEngine.Json.Value

/-!
# Auto-calibration

The bucket size and the hedging percentage of every cluster with enough traffic are derived
from its volume, and written into the sub-level entries of the merchant's configuration.  The
first entry of the cluster counts: one of a human is left alone, one of the autopilot is
changed if it is beyond the dead-bands, and without one an entry is appended.
-/

namespace DecisionEngine.Calibration

open CostIngestion Json Text

/-- The section `sr_auto_calibration` of the configuration, as far as a merchant's calibration
reads it. -/
structure SrAutoCalibrationConfig where
  minBucketSize : Option Int32
  maxBucketSize : Option Int32
  maxHedgingPercent : Option ℚ
  reactionHorizonSecs : Option ℕ
  lookbackSecs : Option ℕ
  minVolume : Option ℤ

structure CalibrationParams where
  minBucket : Int32
  maxBucket : Int32
  maxHedgingPct : ℚ
  reactionHorizonSecs : ℚ
  lookbackSecs : ℚ
  minVolume : ℤ

/-- A cluster of the traffic, with the dimensions that the merchant clusters on. -/
structure SegmentTraffic where
  paymentMethodType : String
  paymentMethod : String
  cardNetwork : Option String
  currency : Option String
  country : Option String
  authType : Option String
  volume : ℤ
  gatewayCount : ℤ
  deriving DecidableEq

def autopilotSource : String :=
  "autopilot"

def bucketDeadband : Int32 :=
  25

def hedgeDeadbandPct : ℚ :=
  1

/-! ## Targets -/

/-- The default in place of a value that is absent or not positive. -/
def CalibrationParams.fromConfig (config : SrAutoCalibrationConfig) : CalibrationParams :=
  let lookbackSecs := ((config.lookbackSecs.filter fun secs => 0 < secs).getD 3600 : ℚ)
  { minBucket := (config.minBucketSize.filter fun size => 0 < size).getD 100
    maxBucket := (config.maxBucketSize.filter fun size => 0 < size).getD 2000
    maxHedgingPct := (config.maxHedgingPercent.filter fun percent => 0 < percent).getD 30
    reactionHorizonSecs :=
      match config.reactionHorizonSecs.filter fun secs => 0 < secs with
      | some secs => secs
      | none => lookbackSecs
    lookbackSecs
    minVolume := (config.minVolume.filter fun volume => 0 < volume).getD 100 }

/-- The nearest integer, halves away from zero. -/
def roundAway (x : ℚ) : ℤ :=
  if 0 ≤ x then ⌊x + 1 / 2⌋ else ⌈x - 1 / 2⌉

def round25 (x : ℚ) : Int32 :=
  .ofIntClamp (roundAway (x / 25) * 25)

/-- Bounds in the wrong order are a panic. -/
def clampBucket (params : CalibrationParams) (bucket : Int32) : Option Int32 :=
  if params.maxBucket < params.minBucket then none
  else if bucket < params.minBucket then some params.minBucket
  else if params.maxBucket < bucket then some params.maxBucket
  else some bucket

def autoBucket [Rounding] (volume gateways : ℤ) (params : CalibrationParams) : Option Int32 :=
  if gateways < 2 ∨ volume ≤ 0 then some params.minBucket
  else clampBucket params (round25 (5 * Rounding.sqrt (volume / (gateways - 1 : ℤ))))

def autoHedgePct (bucket : Int32) (volume gateways : ℤ) (params : CalibrationParams) : ℚ :=
  if gateways < 2 ∨ volume ≤ 0 then 5
  else
    let others : ℚ := (gateways - 1 : ℤ)
    let perPgCap := params.maxHedgingPct / 100 / others
    let volumeInHorizon := volume * (params.reactionHorizonSecs / params.lookbackSecs)
    let refreshShare :=
      if 0 < volumeInHorizon then bucket.toInt / volumeInHorizon else perPgCap
    let perPg := max (min refreshShare perPgCap) (1 / 100)
    let totalPct := min (perPg * others * 100) params.maxHedgingPct
    roundAway (totalPct * 100) / 100

/-- The bucket size and the hedging percentage that the traffic of a cluster calls for. -/
structure Target where
  bucket : Int32
  hedge : ℚ

def SegmentTraffic.target [Rounding] (params : CalibrationParams) (seg : SegmentTraffic) :
    Option Target := do
  let bucket ← autoBucket seg.volume seg.gatewayCount params
  return ⟨bucket, autoHedgePct bucket seg.volume seg.gatewayCount params⟩

/-- Enough volume, and several gateways. -/
def qualifying (params : CalibrationParams) (segments : List SegmentTraffic) :
    List SegmentTraffic :=
  segments.filter fun seg => params.minVolume ≤ seg.volume ∧ 2 ≤ seg.gatewayCount

/-! ## Entries -/

variable (entry : Value)

/-- The text of a field, absent when it is empty. -/
def storedDim (key : String) : Option String :=
  ((entry.get key).bind Value.asString).filter fun text => text ≠ ""

def eqIgnoreAsciiCase (first second : String) : Bool :=
  toAsciiLowercase first = toAsciiLowercase second

def dimMatches (key : String) (expected : Option String) : Bool :=
  match storedDim entry key, expected with
  | some stored, some expected => eqIgnoreAsciiCase stored expected
  | none, none => true
  | _, _ => false

def segmentEntryMatches (seg : SegmentTraffic) : Bool :=
  dimMatches entry "paymentMethodType" (some seg.paymentMethodType) &&
    dimMatches entry "paymentMethod" (some seg.paymentMethod) &&
    dimMatches entry "cardNetwork" seg.cardNetwork &&
    dimMatches entry "cardIsIn" none &&
    dimMatches entry "currency" seg.currency &&
    dimMatches entry "country" seg.country &&
    dimMatches entry "authType" seg.authType

def isAutopilot (entry : Value) : Bool :=
  (entry.get "source").bind Value.asString = some autopilotSource

/-- The field of a dimension that is present. -/
def dimField (key : String) (dim : Option String) : List (String × Value) :=
  (dim.map fun text => (key, .string text)).toList

variable (seg : SegmentTraffic)

def newSegmentEntry (target : Target) : Value :=
  .ofFields
    ([("paymentMethodType", .string seg.paymentMethodType),
      ("paymentMethod", .string seg.paymentMethod), ("bucketSize", .int target.bucket.toInt),
      ("hedgingPercent", .float target.hedge), ("source", .string autopilotSource)] ++
      dimField "cardNetwork" seg.cardNetwork ++ dimField "currency" seg.currency ++
      dimField "country" seg.country ++ dimField "authType" seg.authType)

/-- A value of the entry is absent or beyond its dead-band. -/
def needsUpdate (target : Target) : Bool :=
  let bucketChanged :=
    match (entry.get "bucketSize").bind Value.asI64 with
    | none => true
    | some current => decide (bucketDeadband ≤ (Int32.ofInt current - target.bucket).abs)
  let hedgeChanged :=
    match (entry.get "hedgingPercent").bind Value.asF64 with
    | none => true
    | some current => decide (hedgeDeadbandPct ≤ |current - target.hedge|)
  bucketChanged || hedgeChanged

def updateEntry (target : Target) : Option Value := do
  let entry ← entry.set "bucketSize" (.int target.bucket.toInt)
  let entry ← entry.set "hedgingPercent" (.float target.hedge)
  entry.set "source" (.string autopilotSource)

/-- Change the first entry of the cluster, or append one; with the number of changes. -/
def calibrateEntry (seg : SegmentTraffic) (target : Target) :
    List Value → Option (List Value × ℕ)
  | [] => some ([newSegmentEntry seg target], 1)
  | entry :: rest =>
      if segmentEntryMatches entry seg then
        if ¬ isAutopilot entry then some (entry :: rest, 0)
        else if needsUpdate entry target then
          (updateEntry entry target).map fun updated => (updated :: rest, 1)
        else some (entry :: rest, 0)
      else (calibrateEntry seg target rest).map fun done => (entry :: done.1, done.2)

def calibrateEntries [Rounding] (params : CalibrationParams) :
    List SegmentTraffic → List Value → Option (List Value × ℕ)
  | [], entries => some (entries, 0)
  | seg :: rest, entries => do
      let target ← seg.target params
      let first ← calibrateEntry seg target entries
      let others ← calibrateEntries params rest first.1
      return (others.1, first.2 + others.2)

/-! ## Configurations -/

/-- What a calibration does with the configuration. -/
inductive CalibrationOutcome where
  | skipped
  | panicked
  | unchanged
  | written (config : Value)

/-- The sub-level entries of a configuration. -/
def subLevelEntries (config : Value) : List Value :=
  ((config.get "subLevelInputConfig").bind Value.asArray).getD []

/-- The stored configuration that a calibration edits; `none` when there is none, or its text
is not JSON. -/
def editedConfig (existing : Option Value) : Value :=
  existing.getD (.object [])

def calibrateMerchant [Rounding] (params : CalibrationParams) (existing : Option Value)
    (segments : List SegmentTraffic) : CalibrationOutcome :=
  let config := editedConfig existing
  if (qualifying params segments).isEmpty then .skipped
  else
    match calibrateEntries params (qualifying params segments) (subLevelEntries config) with
    | none => .panicked
    | some (entries, changed) =>
        if changed = 0 then .unchanged
        else
          match config.set "subLevelInputConfig" (.array entries) with
          | none => .panicked
          | some config => .written config

/-- The configuration that is stored afterwards. -/
def CalibrationOutcome.stored (existing : Option Value) : CalibrationOutcome → Option Value
  | .written config => some config
  | .skipped | .panicked | .unchanged => existing

/-! ## Clusters -/

/-- The dimensions of an entry up to the case of the letters. -/
def clusterOf (entry : Value) : List (Option String) :=
  ["paymentMethodType", "paymentMethod", "cardNetwork", "cardIsIn", "currency", "country",
    "authType"].map fun key => (storedDim entry key).map toAsciiLowercase

namespace SegmentTraffic

def dimensions (seg : SegmentTraffic) : List (Option String) :=
  [some seg.paymentMethodType, some seg.paymentMethod, seg.cardNetwork, none, seg.currency,
    seg.country, seg.authType]

def cluster (seg : SegmentTraffic) : List (Option String) :=
  seg.dimensions.map (Option.map toAsciiLowercase)

/-- No dimension is the empty text, which entries do not store. -/
def HasDims (seg : SegmentTraffic) : Prop :=
  some "" ∉ seg.dimensions

end SegmentTraffic

theorem toAsciiLowercase_eq_empty {text : String} : toAsciiLowercase text = "" ↔ text = "" := by
  rw [toAsciiLowercase, ← String.toList_eq_nil_iff, String.toList_ofList, List.map_eq_nil_iff,
    String.toList_eq_nil_iff]

theorem dimMatches_iff {entry : Value} {key : String} {expected : Option String} :
    dimMatches entry key expected = true ↔
      (storedDim entry key).map toAsciiLowercase = expected.map toAsciiLowercase := by
  unfold dimMatches
  cases storedDim entry key <;> cases expected <;> simp [eqIgnoreAsciiCase]

theorem segmentEntryMatches_iff {entry : Value} {seg : SegmentTraffic} :
    segmentEntryMatches entry seg = true ↔ clusterOf entry = seg.cluster := by
  simp only [segmentEntryMatches, Bool.and_eq_true, dimMatches_iff, clusterOf,
    SegmentTraffic.cluster, SegmentTraffic.dimensions, List.map_cons, List.map_nil,
    List.cons.injEq, and_true, and_assoc]

/-- Entries have no empty dimensions. -/
theorem empty_not_mem_clusterOf : some "" ∉ clusterOf entry := by
  intro listed
  rcases List.mem_map.mp listed with ⟨key, -, isEmpty⟩
  rcases Option.map_eq_some_iff.mp isEmpty with ⟨text, stored, lower⟩
  rw [toAsciiLowercase_eq_empty] at lower
  rw [lower, storedDim, Option.filter_eq_some_iff] at stored
  exact absurd stored.2 (by decide)

theorem segmentEntryMatches_of_empty {seg : SegmentTraffic} (empty : ¬ seg.HasDims)
    (entry : Value) : ¬ segmentEntryMatches entry seg = true := by
  rw [segmentEntryMatches_iff]
  intro same
  apply empty_not_mem_clusterOf entry
  rw [same]
  exact List.mem_map.mpr ⟨some "", not_not.mp empty, rfl⟩

/-- The first entry of a cluster. -/
def firstOf (entries : List Value) (cluster : List (Option String)) : Option Value :=
  entries.find? fun entry => clusterOf entry = cluster

/-! ## Values of an entry -/

/-- The entry has the values of the target. -/
def HasTarget (target : Target) : Prop :=
  entry.get "bucketSize" = some (.int target.bucket.toInt) ∧
    entry.get "hedgingPercent" = some (.float target.hedge)

/-- The targets are within the dead-bands of each other. -/
def Target.near (first second : Target) : Bool :=
  !(decide (bucketDeadband ≤ (first.bucket - second.bucket).abs) ||
    decide (hedgeDeadbandPct ≤ |first.hedge - second.hedge|))

theorem Target.near_self (target : Target) : target.near target = true := by
  simp [Target.near, bucketDeadband, hedgeDeadbandPct]
  decide

theorem needsUpdate_of_hasTarget {entry : Value} {first : Target} (has : HasTarget entry first)
    (second : Target) : needsUpdate entry second = !first.near second := by
  have isI64 : Value.asI64 (.int first.bucket.toInt) = some first.bucket.toInt := by
    have low := first.bucket.le_toInt
    have high := first.bucket.toInt_lt
    rw [Value.asI64, if_pos]
    omega
  simp only [needsUpdate, has.1, has.2, Option.bind_some, isI64, Value.asF64, Int32.ofInt_toInt,
    Target.near, Bool.not_not]

/-- An entry as the calibration leaves it: one of a human is the same, and one of the autopilot
has the same fields but for its two values. -/
structure Kept (old new : Value) : Prop where
  manual : isAutopilot old = false → new = old
  fields : ∀ key, key ≠ "bucketSize" → key ≠ "hedgingPercent" → new.get key = old.get key

namespace Kept

variable {old middle new : Value}

theorem refl (entry : Value) : Kept entry entry :=
  ⟨fun _ => rfl, fun _ _ _ => rfl⟩

theorem isAutopilot_eq (kept : Kept old new) : isAutopilot new = isAutopilot old := by
  rw [isAutopilot, isAutopilot, kept.fields "source" (by decide) (by decide)]

theorem clusterOf_eq (kept : Kept old new) : clusterOf new = clusterOf old := by
  apply List.map_congr_left
  intro key listed
  have different : key ≠ "bucketSize" ∧ key ≠ "hedgingPercent" := by
    revert key
    decide
  rw [storedDim, storedDim, kept.fields key different.1 different.2]

theorem trans (first : Kept old middle) (second : Kept middle new) : Kept old new := by
  constructor
  · intro isManual
    have same := first.manual isManual
    rw [← same]
    exact second.manual (same ▸ isManual)
  · intro key notBucket notHedge
    rw [second.fields key notBucket notHedge, first.fields key notBucket notHedge]

end Kept

theorem get_source_of_isAutopilot {entry : Value} (autopilot : isAutopilot entry = true) :
    entry.get "source" = some (.string autopilotSource) := by
  rw [isAutopilot, decide_eq_true_eq, Option.bind_eq_some_iff] at autopilot
  rcases autopilot with ⟨value, found, isText⟩
  cases value with
  | string text =>
      cases isText
      exact found
  | _ => cases isText

theorem updateEntry_spec {entry updated : Value} {target : Target}
    (autopilot : isAutopilot entry = true) (isUpdated : updateEntry entry target = some updated) :
    Kept entry updated ∧ HasTarget updated target := by
  simp only [updateEntry, Option.bind_eq_bind, Option.bind_eq_some_iff] at isUpdated
  rcases isUpdated with ⟨first, setBucket, second, setHedge, setSource⟩
  refine ⟨⟨?_, ?_⟩, ?_, ?_⟩
  · rw [autopilot]
    exact nofun
  · intro key notBucket notHedge
    by_cases isSource : key = "source"
    · rw [isSource, Value.get_set_self setSource, get_source_of_isAutopilot autopilot]
    · rw [Value.get_set_of_ne setSource (Ne.symm isSource),
        Value.get_set_of_ne setHedge (Ne.symm notHedge),
        Value.get_set_of_ne setBucket (Ne.symm notBucket)]
  · rw [Value.get_set_of_ne setSource (by decide), Value.get_set_of_ne setHedge (by decide),
      Value.get_set_self setBucket]
  · rw [Value.get_set_of_ne setSource (by decide), Value.get_set_self setHedge]

theorem updateEntry_isSome {entry : Value} (autopilot : isAutopilot entry = true)
    (target : Target) : (updateEntry entry target).isSome = true := by
  have editable := Value.isEditable_of_get (get_source_of_isAutopilot autopilot)
  rcases Option.isSome_iff_exists.mp (editable "bucketSize" (.int target.bucket.toInt)) with
    ⟨first, setBucket⟩
  rcases Option.isSome_iff_exists.mp
    (Value.isEditable_of_set setBucket "hedgingPercent" (.float target.hedge)) with
    ⟨second, setHedge⟩
  simp only [updateEntry, Option.bind_eq_bind, setBucket, Option.bind_some, setHedge]
  exact Value.isEditable_of_set setHedge ..

/-! ## New entries -/

theorem get_ofFields_dimField (fields : List (String × Value)) (key : String)
    (dim : Option String) (other : String) :
    (Value.ofFields (fields ++ dimField key dim)).get other =
      if key = other ∧ dim.isSome then dim.map .string else (Value.ofFields fields).get other := by
  cases dim with
  | none => simp [dimField]
  | some text => simp [dimField, Value.get_ofFields_concat]

theorem get_newSegmentEntry (target : Target) (key : String) :
    (newSegmentEntry seg target).get key =
      if "authType" = key ∧ seg.authType.isSome then seg.authType.map .string
      else if "country" = key ∧ seg.country.isSome then seg.country.map .string
      else if "currency" = key ∧ seg.currency.isSome then seg.currency.map .string
      else if "cardNetwork" = key ∧ seg.cardNetwork.isSome then seg.cardNetwork.map .string
      else if "source" = key then some (.string autopilotSource)
      else if "hedgingPercent" = key then some (.float target.hedge)
      else if "bucketSize" = key then some (.int target.bucket.toInt)
      else if "paymentMethod" = key then some (.string seg.paymentMethod)
      else if "paymentMethodType" = key then some (.string seg.paymentMethodType)
      else none := by
  rw [newSegmentEntry, get_ofFields_dimField, get_ofFields_dimField, get_ofFields_dimField,
    get_ofFields_dimField, Value.get_ofFields]
  rfl

theorem isAutopilot_newSegmentEntry (target : Target) :
    isAutopilot (newSegmentEntry seg target) = true := by
  simp [isAutopilot, get_newSegmentEntry, Value.asString]

theorem hasTarget_newSegmentEntry (target : Target) :
    HasTarget (newSegmentEntry seg target) target := by
  simp [HasTarget, get_newSegmentEntry]

/-- A dimension that is not empty is read back. -/
theorem storedDim_eq {entry : Value} {key : String} {dim : Option String}
    (found : entry.get key = if dim.isSome then dim.map .string else none) (has : dim ≠ some "") :
    storedDim entry key = dim := by
  rw [storedDim, found]
  cases dim with
  | none => rfl
  | some text =>
      have nonempty : text ≠ "" := fun isEmpty => has (congrArg some isEmpty)
      simp [Value.asString, nonempty]

theorem clusterOf_newSegmentEntry {seg : SegmentTraffic} (has : seg.HasDims) (target : Target) :
    clusterOf (newSegmentEntry seg target) = seg.cluster := by
  simp only [SegmentTraffic.HasDims, SegmentTraffic.dimensions, List.mem_cons, List.not_mem_nil,
    or_false, not_or, eq_comm (a := some "")] at has
  rcases has with ⟨hasType, hasMethod, hasNetwork, hasBin, hasCurrency, hasCountry, hasAuth⟩
  have stored : ∀ (key : String) (dim : Option String),
      (newSegmentEntry seg target).get key = (if dim.isSome then dim.map .string else none) →
      dim ≠ some "" → storedDim (newSegmentEntry seg target) key = dim :=
    fun _ _ => storedDim_eq
  simp only [clusterOf, SegmentTraffic.cluster, SegmentTraffic.dimensions, List.map_cons,
    List.map_nil]
  rw [stored _ _ _ hasType, stored _ _ _ hasMethod, stored _ _ _ hasNetwork, stored _ _ _ hasBin,
    stored _ _ _ hasCurrency, stored _ _ _ hasCountry, stored _ _ _ hasAuth] <;>
    simp [get_newSegmentEntry]

end DecisionEngine.Calibration
