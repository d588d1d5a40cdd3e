import DecisionEngine.Calibration.Settling
import DecisionEngine.Transition.Interleaving

/-!
# Human edits and the calibration

A calibration reads the configuration of a merchant and later writes the whole edited document
back.  A rule-configuration update writes a document in one step, and is lost when it comes
between the read and the write.

A human edit is kept when every calibration writes over a document with the manual parts that
it has read.
-/

namespace DecisionEngine.Calibration

open CostIngestion Json Transition

/-- The rows of the merchant's configuration, whose names are not unique; a value may be no
JSON. -/
abbrev ConfigRows := List (Option Value)

/-- The configuration that is found. -/
def findConfig (rows : ConfigRows) : Option Value :=
  rows.head?.join

/-- Every row of the name is updated. -/
def updateConfig (config : Value) (rows : ConfigRows) : ConfigRows :=
  rows.map fun _ => some config

def insertConfig (config : Value) (rows : ConfigRows) : ConfigRows :=
  rows ++ [some config]

inductive ConfigTask where
  /-- A rule-configuration update of a human. -/
  | update (config : Value)
  | calibrate (segments : List SegmentTraffic)

inductive ConfigStage where
  | pending (task : ConfigTask)
  | write (read : ConfigRows) (config : Value)
  | finished

/-- The statements of an update and of a calibration; the event is the document of an update
that has found a row. -/
def configProcess [Rounding] (params : CalibrationParams) :
    Process ConfigRows ConfigStage (Option Value)
  | .pending (.update config), rows =>
      some (if rows.isEmpty then none else some config, .finished, updateConfig config rows)
  | .pending (.calibrate segments), rows =>
      match calibrateMerchant params (findConfig rows) segments with
      | .written config => some (none, .write rows config, rows)
      | .skipped | .panicked | .unchanged => some (none, .finished, rows)
  | .write read config, rows =>
      some (none, .finished,
        if read.isEmpty then insertConfig config rows else updateConfig config rows)
  | .finished, _ => none

/-- The fields of the update and its entries that are not the autopilot's are in the stored
document. -/
structure ManualKept (update stored : Value) : Prop where
  fields : ∀ key, key ≠ "subLevelInputConfig" → stored.get key = update.get key
  entries : ∀ entry ∈ subLevelEntries update, isAutopilot entry = false →
    entry ∈ subLevelEntries stored

variable {ι : Type}

def startTasks (rows : ConfigRows) (tasks : ι → ConfigTask) : Config ConfigRows ι ConfigStage :=
  ⟨rows, fun index => .pending (tasks index)⟩

/-- A calibration writes while the stored document has the manual parts of the one that it has
read. -/
def WritesOverRead (config : Config ConfigRows ι ConfigStage) (index : ι) : Prop :=
  ∀ read edited, config.locals index = .write read edited →
    ∀ stored, findConfig config.shared = some stored →
      ManualKept stored (editedConfig (findConfig read))

/-- The document of the last update. -/
def lastUpdate (trace : List (ι × Option Value)) : Option Value :=
  (trace.filterMap Prod.snd).getLast?

namespace ManualKept

variable {update stored next : Value}

theorem refl (config : Value) : ManualKept config config :=
  ⟨fun _ _ => rfl, fun _ listed _ => listed⟩

theorem trans (kept : ManualKept update stored) (again : ManualKept stored next) :
    ManualKept update next := by
  constructor
  · intro key different
    rw [again.fields key different, kept.fields key different]
  · intro entry listed isManual
    exact again.entries entry (kept.entries entry listed isManual) isManual

end ManualKept

/-! ## Steps -/

section Steps

variable [Rounding] {params : CalibrationParams} {rows : ConfigRows}

/-- A calibration keeps the manual parts of the document that it edits. -/
theorem manualKept_of_written {segments : List SegmentTraffic} {existing : Option Value}
    {config : Value} (written : calibrateMerchant params existing segments = .written config) :
    ManualKept (editedConfig existing) config := by
  have after : afterCalibration params existing segments = some config := by
    rw [afterCalibration, written]
    rfl
  have preserved := preserved_afterCalibration params existing segments
  rw [after] at preserved
  exact ⟨preserved.1, fun _ listed isManual => preserved.2.mem_of_manual listed isManual⟩

/-- A stage that writes has calibrated what it has read. -/
def Calibrated (params : CalibrationParams) : ConfigStage → Prop
  | .write read config =>
      ∃ segments, calibrateMerchant params (findConfig read) segments = .written config
  | .pending _ | .finished => True

/-- The document of the last update is kept by the stored one. -/
def UpdateKept (update : Option Value) (rows : ConfigRows) : Prop :=
  ∀ config, update = some config → ∃ stored, findConfig rows = some stored ∧
    ManualKept config stored

section

omit [Rounding]

theorem findConfig_updateConfig (config : Value) {stored : Value}
    (found : findConfig rows = some stored) :
    findConfig (updateConfig config rows) = some config := by
  cases rows with
  | nil => cases found
  | cons row rest => rfl

theorem findConfig_insertConfig (config : Value) {stored : Value}
    (found : findConfig rows = some stored) :
    findConfig (insertConfig config rows) = some stored := by
  cases rows with
  | nil => cases found
  | cons row rest => exact found

theorem lastUpdate_concat (trace : List (ι × Option Value)) (index : ι) (event : Option Value) :
    lastUpdate (trace ++ [(index, event)]) = event.or (lastUpdate trace) := by
  rw [lastUpdate, List.filterMap_append]
  cases event with
  | none => exact congrArg List.getLast? (List.append_nil _)
  | some config => exact List.getLast?_concat

end

/-- A step keeps the last update, or is an update itself. -/
theorem configProcess_step {stage next : ConfigStage} {after : ConfigRows} {event : Option Value}
    (steps : configProcess params stage rows = some (event, next, after))
    (calibrated : Calibrated params stage)
    (overRead : ∀ read edited, stage = .write read edited →
      ∀ stored, findConfig rows = some stored →
        ManualKept stored (editedConfig (findConfig read)))
    {update : Option Value} (kept : UpdateKept update rows) :
    Calibrated params next ∧ UpdateKept (event.or update) after := by
  cases stage with
  | finished => cases steps
  | pending task =>
      cases task with
      | update config =>
          cases rows with
          | nil =>
              cases steps
              exact ⟨trivial, kept⟩
          | cons row rest =>
              cases steps
              refine ⟨trivial, fun update isUpdate => ⟨config, rfl, ?_⟩⟩
              rw [← Option.some.inj isUpdate]
              exact .refl config
      | calibrate segments =>
          rw [configProcess] at steps
          cases outcome : calibrateMerchant params (findConfig rows) segments with
          | written config =>
              rw [outcome] at steps
              cases steps
              exact ⟨⟨segments, outcome⟩, kept⟩
          | _ =>
              rw [outcome] at steps
              cases steps
              exact ⟨trivial, kept⟩
  | write read edited =>
      cases steps
      refine ⟨trivial, fun update isUpdate => ?_⟩
      rcases kept update isUpdate with ⟨stored, found, isKept⟩
      rcases calibrated with ⟨segments, written⟩
      split
      · exact ⟨stored, findConfig_insertConfig edited found, isKept⟩
      · have throughRead := isKept.trans (overRead read edited rfl stored found)
        exact ⟨edited, findConfig_updateConfig edited found,
          throughRead.trans (manualKept_of_written written)⟩

/-- In a run whose calibrations write over what they have read, the manual parts of the last
update are in the stored configuration. -/
theorem updateKept_of_run [DecidableEq ι] {tasks : ι → ConfigTask}
    {trace : List (ι × Option Value)} {config : Config ConfigRows ι ConfigStage}
    (run : Run (fun config label next => Moves (configProcess params) config label next ∧
      WritesOverRead config label.1) (startTasks rows tasks) trace config) :
    UpdateKept (lastUpdate trace) config.shared := by
  have invariant : (∀ index, Calibrated params (config.locals index)) ∧
      UpdateKept (lastUpdate trace) config.shared := by
    apply run.invariant_of_allowed (fun trace config =>
      (∀ index, Calibrated params (config.locals index)) ∧
        UpdateKept (lastUpdate trace) config.shared)
    · exact ⟨fun _ => trivial, nofun⟩
    · rintro trace middle ⟨index, event⟩ target ⟨calibrated, kept⟩ overRead moves
      rcases moves with ⟨steps⟩
      rcases configProcess_step steps (calibrated index) overRead kept with ⟨isNext, isKept⟩
      rw [lastUpdate_concat]
      exact ⟨forall_update (Calibrated params) isNext calibrated, isKept⟩
  exact invariant.2

end Steps

/-! ## An edit between the read and the write -/

/-- Roots with eight decimals. -/
local instance editRounding : Rounding := .decimal

/-- The edit of a human: a bucket size, and an entry without a source. -/
def humanConfig : Value :=
  .object [("defaultBucketSize", .int 300),
    ("subLevelInputConfig", .array [.object [("bucketSize", .int 50),
      ("paymentMethod", .string "debit"), ("paymentMethodType", .string "card")]])]

/-- One calibration and one human edit. -/
def editTasks : Bool → ConfigTask
  | false => .calibrate [networkTraffic "VISA" 400]
  | true => .update humanConfig

def editStart : Config ConfigRows Bool ConfigStage :=
  startTasks [some (.object [])] editTasks

/-- The calibration of the empty configuration writes an entry, and no other field. -/
theorem exists_calibrated : ∃ edited,
    calibrateMerchant defaultParams (some (.object [])) [networkTraffic "VISA" 400] =
      .written edited ∧ edited.get "defaultBucketSize" = none := by
  have isWritten : (calibrateMerchant defaultParams (some (.object []))
      [networkTraffic "VISA" 400]).isWritten = true := by decide +kernel
  rcases exists_written isWritten with ⟨edited, written⟩
  exact ⟨edited, written, (manualKept_of_written written).fields "defaultBucketSize" (by decide)⟩

/-- The calibration reads and writes after the edit. -/
theorem updateKept_of_run_before :
    UpdateKept (lastUpdate (scheduleTrace (configProcess defaultParams) editStart
        [true, false, false]))
      (runSchedule (configProcess defaultParams) editStart [true, false, false]).shared := by
  apply updateKept_of_run
  apply run_scheduleTrace
  have isWritten : (calibrateMerchant defaultParams (some humanConfig)
      [networkTraffic "VISA" 400]).isWritten = true := by decide +kernel
  rcases exists_written isWritten with ⟨edited, written⟩
  have isStored : updateConfig humanConfig [some (.object [])] = [some humanConfig] := rfl
  have asRead : ManualKept humanConfig (editedConfig (some humanConfig)) := .refl _
  simp [AllowedSchedule, WritesOverRead, startTasks, editTasks, configProcess, findConfig, isStored,
    written, asRead]

/-- The edit falls between the read and the write of the calibration. -/
theorem updateKept_of_run_counterexample :
    Run (Moves (configProcess defaultParams)) editStart
        (scheduleTrace (configProcess defaultParams) editStart [false, true, false])
        (runSchedule (configProcess defaultParams) editStart [false, true, false]) ∧
      ¬ UpdateKept (lastUpdate (scheduleTrace (configProcess defaultParams) editStart
          [false, true, false]))
        (runSchedule (configProcess defaultParams) editStart [false, true, false]).shared := by
  refine ⟨interleaving_scheduleTrace .., fun kept => ?_⟩
  rcases exists_calibrated with ⟨edited, written, lost⟩
  simp only [scheduleTrace, runSchedule, editStart, startTasks, editTasks, configProcess,
    findConfig, written, List.head?_cons, Option.join_some, Function.update_self, ne_eq,
    reduceCtorEq, not_false_eq_true, Function.update_of_ne] at kept
  rcases kept humanConfig rfl with ⟨stored, found, isKept⟩
  cases found
  have present := isKept.fields "defaultBucketSize" (by decide)
  rw [lost] at present
  cases present

end DecisionEngine.Calibration
