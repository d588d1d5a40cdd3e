import DecisionEngine.Config.Features
import DecisionEngine.Transition.ReadModifyWrite

/-!
# Toggles of a feature

The merchants of a feature are in one record.  A toggle reads the record and later writes it
back with its own merchant changed, so a toggle that comes in between is lost.
-/

namespace DecisionEngine.Config

open Text Transition

/-- The rows of the feature, whose names are not unique; a value may be missing or no record. -/
abbrev FeatureRows := List (Option FeatureConf)

structure ToggleRequest where
  merchantId : String
  enabled : Bool

/-- The record that is found, or the default. -/
def foundConf (rows : FeatureRows) : FeatureConf :=
  rows.head?.join.getD .default

section Toggles

variable [LetterCase]

variable (request : ToggleRequest)

/-- Where a row was read, every row of the name is updated, else one is inserted. -/
def writeToggle (read rows : FeatureRows) : FeatureRows :=
  let conf := (foundConf read).toggled request.merchantId request.enabled
  if read.isEmpty then rows ++ [some conf] else rows.map fun _ => some conf

/-- The two statements of a toggle. -/
def toggleProcess : Process FeatureRows (UpdateState FeatureRows ToggleRequest) UpdateEvent
  | .pending request, rows => some (.read, .loaded request rows, rows)
  | .loaded request read, rows => some (.wrote, .finished, writeToggle request read rows)
  | .finished, _ => none

variable {ι : Type}

/-- What the last request of a merchant asks for. -/
def lastToggle (requests : List ToggleRequest) (merchantId : String) : Option Bool :=
  (requests.reverse.find? fun request => request.merchantId = merchantId).map
    ToggleRequest.enabled

/-- The view of a merchant after the toggles. -/
def toggledView (view : FeatureView) (last : Option Bool) : FeatureView :=
  match last with
  | some enabled => { view with rollout := if enabled then some 100 else none }
  | none => view

/-- Each merchant has what its last request asked for, or what it had before; in the end every
request has written. -/
structure TogglesKept (merchants : Set String) (requests : ι → ToggleRequest) (start : FeatureRows)
    (trace : List (ι × UpdateEvent))
    (config : Config FeatureRows ι (UpdateState FeatureRows ToggleRequest)) : Prop where
  entries : ∀ merchantId ∈ merchants, (foundConf config.shared).view merchantId =
    toggledView ((foundConf start).view merchantId)
      (lastToggle ((writers trace).map requests) merchantId)
  completed : config.Done toggleProcess → ∀ index, index ∈ writers trace

/-! ## Toggles one after the other -/

/-- What a toggle writes over the rows that it has read. -/
def toggleEffect (rows : FeatureRows) : Option FeatureRows :=
  some (writeToggle request rows rows)

theorem foundConf_writeToggle (rows : FeatureRows) :
    foundConf (writeToggle request rows rows) =
      (foundConf rows).toggled request.merchantId request.enabled := by
  cases rows with
  | nil => rfl
  | cons first rest => rfl

omit [LetterCase] in
theorem lastToggle_concat (requests : List ToggleRequest) (request : ToggleRequest)
    (merchantId : String) :
    lastToggle (requests ++ [request]) merchantId =
      if request.merchantId = merchantId then some request.enabled
      else lastToggle requests merchantId := by
  rw [lastToggle, List.reverse_append, List.reverse_singleton, List.singleton_append,
    List.find?_cons]
  by_cases same : request.merchantId = merchantId
  · simp [same]
  · simp [same, lastToggle]

omit [LetterCase] in
theorem toggledView_toggledView (view : FeatureView) (last : Option Bool) (enabled : Bool) :
    { toggledView view last with rollout := if enabled then some 100 else none } =
      toggledView view (some enabled) := by
  cases last <;> rfl

/-- The toggles of other merchants do not show in the view of a merchant. -/
theorem view_serially {merchantId : String} {requests : List ToggleRequest}
    (distinct : ∀ request ∈ requests, SameLetters request.merchantId merchantId →
      request.merchantId = merchantId) (start : FeatureRows) :
    (foundConf (serially toggleEffect requests start)).view merchantId =
      toggledView ((foundConf start).view merchantId) (lastToggle requests merchantId) := by
  induction requests using List.reverseRecOn with
  | nil => rfl
  | append_singleton rest last ih =>
      have restDistinct := ih fun request listed =>
        distinct request (List.mem_append_left [last] listed)
      have written : serially toggleEffect (rest ++ [last]) start =
          writeToggle last (serially toggleEffect rest start)
            (serially toggleEffect rest start) := by
        rw [serially_concat]
        rfl
      rw [written, foundConf_writeToggle, lastToggle_concat]
      by_cases same : last.merchantId = merchantId
      · rw [same, view_toggled_self, restDistinct, toggledView_toggledView, if_pos rfl]
      · have differ : ¬SameLetters last.merchantId merchantId := fun letters =>
          same (distinct last (by simp) letters)
        rw [view_toggled_of_ne differ, restDistinct, if_neg same]

/-! ## Interleaved toggles -/

/-- A fresh write has the effect of the toggle on the rows that are there. -/
theorem toggleProcess_eq_of_fresh
    {config : Config FeatureRows ι (UpdateState FeatureRows ToggleRequest)} {index : ι}
    (fresh : WritesFresh id config index) :
    toggleProcess (config.locals index) config.shared =
      updateProcess toggleEffect (config.locals index) config.shared := by
  cases isLocal : config.locals index with
  | pending request => rfl
  | loaded request read =>
      have sameRows : config.shared = read := fresh request read isLocal
      rw [← sameRows]
      rfl
  | finished => rfl

variable [DecidableEq ι]

/-- Where every toggle writes while the record is the one that it has read, no toggle is lost. -/
theorem togglesKept_of_writesFresh {merchants : Set String} {requests : ι → ToggleRequest}
    (distinct : ∀ index, ∀ merchantId ∈ merchants,
      SameLetters (requests index).merchantId merchantId →
        (requests index).merchantId = merchantId)
    {start : FeatureRows} {trace : List (ι × UpdateEvent)}
    {config : Config FeatureRows ι (UpdateState FeatureRows ToggleRequest)}
    (run : Run (fun config label next => Moves toggleProcess config label next ∧
      WritesFresh id config label.1) (startUpdates start requests) trace config) :
    TogglesKept merchants requests start trace config := by
  have respects : Respects toggleEffect (id : FeatureRows → FeatureRows) := by
    rintro request first second (rfl : first = second)
    rfl
  have asUpdates : Run (fun config label next =>
      Moves (updateProcess toggleEffect) config label next ∧ WritesFresh id config label.1)
      (startUpdates start requests) trace config := by
    apply run.mono
    rintro middle label next ⟨moves, fresh⟩
    refine ⟨?_, fresh⟩
    rcases moves with ⟨steps⟩
    rw [toggleProcess_eq_of_fresh fresh] at steps
    exact .move steps
  have serialised := serialisedAs_writers respects asUpdates
  refine ⟨?_, ?_⟩
  · intro merchantId listed
    have rows : config.shared = serially toggleEffect ((writers trace).map requests) start :=
      serialised.observed
    rw [rows]
    apply view_serially
    intro request requestListed letters
    rcases List.mem_map.mp requestListed with ⟨index, -, rfl⟩
    exact distinct index merchantId listed letters
  · intro done index
    rw [serialised.finished]
    have isDone := done index
    cases isLocal : config.locals index with
    | pending request =>
        rw [isLocal] at isDone
        cases isDone
    | loaded request read =>
        rw [isLocal] at isDone
        cases isDone
    | finished => rfl

end Toggles

/-! ## Two merchants -/

section TwoMerchants

local instance toggleCase : LetterCase := .ascii

/-- Two merchants enable the feature. -/
def twoToggles (second : Bool) : ToggleRequest :=
  ⟨if second then "merchant_2" else "merchant_1", true⟩

def twoMerchants : Set String :=
  {"merchant_1", "merchant_2"}

/-- One after the other, both have the feature. -/
theorem togglesKept_one_by_one :
    ∃ trace config, Run (fun config label next => Moves toggleProcess config label next ∧
        WritesFresh id config label.1) (startUpdates [some .default] twoToggles) trace config ∧
      TogglesKept twoMerchants twoToggles [some .default] trace config := by
  have fresh : AllowedSchedule toggleProcess (WritesFresh id)
      (startUpdates [some .default] twoToggles) [false, false, true, true] := by
    refine ⟨?_, ?_, ?_, ?_, trivial⟩
    all_goals
      intro request read found
      cases found
      try rfl
  have distinct : ∀ second, ∀ merchantId ∈ twoMerchants,
      SameLetters (twoToggles second).merchantId merchantId →
        (twoToggles second).merchantId = merchantId := by
    intro second merchantId listed letters
    rcases listed with rfl | rfl
    · cases second with
      | false => rfl
      | true => exact absurd letters (by decide +kernel)
    · cases second with
      | false => exact absurd letters (by decide +kernel)
      | true => rfl
  rcases run_runSchedule _ fresh with ⟨trace, run⟩
  exact ⟨trace, _, run, togglesKept_of_writesFresh distinct run⟩

/-- When both read the record before either writes, the first one to write is lost. -/
theorem togglesKept_counterexample :
    ∃ trace config, Interleaving toggleProcess (startUpdates [some .default] twoToggles) trace
        config ∧ config.Done toggleProcess ∧
      ¬TogglesKept twoMerchants twoToggles [some .default] trace config := by
  refine ⟨_, _, interleaving_scheduleTrace toggleProcess
    (startUpdates [some .default] twoToggles) [false, true, false, true], ?_, ?_⟩
  · intro second
    cases second <;> rfl
  · intro kept
    exact absurd (kept.entries "merchant_1" (Or.inl rfl)) (by decide +kernel)

end TwoMerchants

end DecisionEngine.Config
