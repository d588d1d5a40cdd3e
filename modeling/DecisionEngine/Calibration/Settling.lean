import DecisionEngine.Calibration.AutoCalibration
import DecisionEngine.Transition.Run

/-!
# What a calibration changes, and when it settles

A calibration keeps the entries of the humans and every other field of the configuration.  It
keeps the entries of the autopilot unique, and the next calibration with the same traffic
changes nothing, when no dimension of the traffic is the empty text and clusters that differ
in the case of their letters alone call for about the same values.
-/

namespace DecisionEngine.Calibration

open CostIngestion Json Text Transition

/-! ## One segment -/

/-- What the calibration of a segment does to the entries. -/
inductive EntryStep (seg : SegmentTraffic) (target : Target) (entries : List Value) :
    List Value → ℕ → Prop
  | same {entry : Value} (found : firstOf entries seg.cluster = some entry)
      (settled : isAutopilot entry = false ∨ needsUpdate entry target = false) :
      EntryStep seg target entries entries 0
  | updated {before after : List Value} {entry new : Value}
      (isSplit : entries = before ++ entry :: after)
      (isFirst : firstOf before seg.cluster = none) (isCluster : clusterOf entry = seg.cluster)
      (autopilot : isAutopilot entry = true) (needs : needsUpdate entry target = true)
      (kept : Kept entry new) (has : HasTarget new target) :
      EntryStep seg target entries (before ++ new :: after) 1
  | appended (isNew : firstOf entries seg.cluster = none) :
      EntryStep seg target entries (entries ++ [newSegmentEntry seg target]) 1

section Segment

variable {seg : SegmentTraffic} {target : Target} {entries next : List Value} {changed : ℕ}

theorem firstOf_cons (entry : Value) (rest : List Value) (cluster : List (Option String)) :
    firstOf (entry :: rest) cluster =
      if clusterOf entry = cluster then some entry else firstOf rest cluster := by
  rw [firstOf, List.find?_cons]
  by_cases same : clusterOf entry = cluster
  · rw [if_pos same, decide_eq_true same]
  · rw [if_neg same, decide_eq_false same]
    rfl

theorem firstOf_append (first second : List Value) (cluster : List (Option String)) :
    firstOf (first ++ second) cluster = (firstOf first cluster).or (firstOf second cluster) :=
  List.find?_append

/-- What a step does with the entries before it does not concern it. -/
theorem EntryStep.cons {entry : Value} (other : clusterOf entry ≠ seg.cluster)
    (step : EntryStep seg target entries next changed) :
    EntryStep seg target (entry :: entries) (entry :: next) changed := by
  cases step with
  | same found settled =>
      refine .same ?_ settled
      rw [firstOf_cons, if_neg other]
      exact found
  | updated isSplit isFirst isCluster autopilot needs kept has =>
      rename_i before after old new
      rw [isSplit]
      have isSplit : entry :: (before ++ old :: after) = (entry :: before) ++ old :: after := rfl
      refine EntryStep.updated isSplit ?_ isCluster autopilot needs kept has
      rw [firstOf_cons, if_neg other]
      exact isFirst
  | appended isNew =>
      refine .appended ?_
      rw [firstOf_cons, if_neg other]
      exact isNew

theorem entryStep_of_calibrateEntry
    (done : calibrateEntry seg target entries = some (next, changed)) :
    EntryStep seg target entries next changed := by
  induction entries generalizing next changed with
  | nil =>
      cases done
      exact .appended rfl
  | cons entry rest ih =>
      rw [calibrateEntry] at done
      by_cases isMatch : segmentEntryMatches entry seg = true
      · have isCluster := segmentEntryMatches_iff.mp isMatch
        have found : firstOf (entry :: rest) seg.cluster = some entry := by
          rw [firstOf_cons, if_pos isCluster]
        rw [if_pos isMatch] at done
        by_cases autopilot : isAutopilot entry = true
        · rw [if_neg (not_not.mpr autopilot)] at done
          by_cases needs : needsUpdate entry target = true
          · rw [if_pos needs, Option.map_eq_some_iff] at done
            rcases done with ⟨new, isUpdated, isPair⟩
            cases isPair
            rcases updateEntry_spec autopilot isUpdated with ⟨kept, has⟩
            exact EntryStep.updated (List.nil_append _).symm rfl isCluster autopilot needs kept has
          · rw [if_neg needs] at done
            cases done
            exact .same found (Or.inr (Bool.not_eq_true _ ▸ needs))
        · rw [if_pos autopilot] at done
          cases done
          exact .same found (Or.inl (Bool.not_eq_true _ ▸ autopilot))
      · rw [if_neg isMatch, Option.map_eq_some_iff] at done
        rcases done with ⟨⟨others, count⟩, isDone, isPair⟩
        cases isPair
        rw [segmentEntryMatches_iff] at isMatch
        exact (ih isDone).cons isMatch

/-- Without a change the calibration is the step that does nothing. -/
theorem calibrateEntry_of_settled {entry : Value}
    (found : firstOf entries seg.cluster = some entry)
    (settled : isAutopilot entry = false ∨ needsUpdate entry target = false) :
    calibrateEntry seg target entries = some (entries, 0) := by
  induction entries with
  | nil => cases found
  | cons first rest ih =>
      rw [firstOf_cons] at found
      rw [calibrateEntry]
      split at found
      · next isCluster =>
          cases found
          rw [if_pos (segmentEntryMatches_iff.mpr isCluster)]
          rcases settled with isManual | fits
          · rw [if_pos (Bool.not_eq_true _ ▸ isManual)]
          · rw [fits]
            split <;> rfl
      · next different =>
          rw [if_neg (mt segmentEntryMatches_iff.mp different), ih found]
          rfl

/-- No entry has an empty dimension, so that the traffic of one is appended every time. -/
theorem calibrateEntry_of_empty (empty : ¬ seg.HasDims) :
    calibrateEntry seg target entries = some (entries ++ [newSegmentEntry seg target], 1) := by
  induction entries with
  | nil => rfl
  | cons entry rest ih =>
      rw [calibrateEntry, if_neg (segmentEntryMatches_of_empty empty entry), ih]
      rfl

theorem calibrateEntry_isSome (seg : SegmentTraffic) (target : Target) (entries : List Value) :
    (calibrateEntry seg target entries).isSome = true := by
  induction entries with
  | nil => rfl
  | cons entry rest ih =>
      rw [calibrateEntry]
      split
      · split
        · rfl
        · next autopilot =>
            split
            · rw [Option.isSome_map]
              exact updateEntry_isSome (not_not.mp autopilot) target
            · rfl
      · rw [Option.isSome_map]
        exact ih

/-! ## What a step keeps -/

/-- The entries are kept, and entries of the autopilot are appended. -/
inductive Extends : List Value → List Value → Prop
  | appended {added : List Value} (autopilot : ∀ entry ∈ added, isAutopilot entry = true) :
      Extends [] added
  | kept {old new : Value} {rest next : List Value} (isKept : Kept old new)
      (others : Extends rest next) : Extends (old :: rest) (new :: next)

namespace Extends

variable {first second third : List Value}

theorem refl (entries : List Value) : Extends entries entries := by
  induction entries with
  | nil => exact .appended fun _ listed => absurd listed List.not_mem_nil
  | cons entry rest ih => exact .kept (.refl entry) ih

/-- Entries of the autopilot are followed by such entries. -/
theorem autopilot (extended : Extends first second)
    (before : ∀ entry ∈ first, isAutopilot entry = true) :
    ∀ entry ∈ second, isAutopilot entry = true := by
  induction extended with
  | appended autopilot => exact autopilot
  | kept isKept others ih =>
      rw [List.forall_mem_cons] at before ⊢
      rw [isKept.isAutopilot_eq]
      exact ⟨before.1, ih before.2⟩

theorem trans (extended : Extends first second) (again : Extends second third) :
    Extends first third := by
  induction extended generalizing third with
  | appended autopilot => exact .appended (again.autopilot autopilot)
  | kept isKept others ih =>
      cases again with
      | kept nextKept nextOthers => exact .kept (isKept.trans nextKept) (ih nextOthers)

theorem prepend (before : List Value) (extended : Extends first second) :
    Extends (before ++ first) (before ++ second) := by
  induction before with
  | nil => exact extended
  | cons entry rest ih => exact .kept (.refl entry) ih

/-- The entries of humans stay. -/
theorem mem_of_manual (extended : Extends first second) {entry : Value} (listed : entry ∈ first)
    (isManual : isAutopilot entry = false) : entry ∈ second := by
  induction extended with
  | appended => cases listed
  | kept isKept others ih =>
      rcases List.mem_cons.mp listed with rfl | later
      · rw [isKept.manual isManual]
        exact List.mem_cons_self
      · exact List.mem_cons_of_mem _ (ih later)

end Extends

theorem EntryStep.extends (step : EntryStep seg target entries next changed) :
    Extends entries next := by
  cases step with
  | same found settled => exact .refl entries
  | updated isSplit isFirst isCluster autopilot needs kept has =>
      rw [isSplit]
      exact (Extends.kept kept (.refl _)).prepend _
  | appended isNew =>
      have added : Extends [] [newSegmentEntry seg target] := by
        apply Extends.appended
        intro entry listed
        rw [List.mem_singleton.mp listed]
        exact isAutopilot_newSegmentEntry seg target
      have extended := added.prepend entries
      rwa [List.append_nil] at extended

/-! ## Clusters of the autopilot -/

/-- The clusters of the entries of the autopilot, each time one has an entry. -/
def autopilotClusters (entries : List Value) : List (List (Option String)) :=
  (entries.filter fun entry => isAutopilot entry).map clusterOf

theorem autopilotClusters_append (first second : List Value) :
    autopilotClusters (first ++ second) = autopilotClusters first ++ autopilotClusters second := by
  rw [autopilotClusters, List.filter_append, List.map_append]
  rfl

theorem Extends.isPrefix {first second : List Value} (extended : Extends first second) :
    autopilotClusters first <+: autopilotClusters second := by
  induction extended with
  | appended => exact List.nil_prefix
  | @kept old new rest next isKept others ih =>
      have same := isKept.isAutopilot_eq
      rw [autopilotClusters, autopilotClusters, List.filter_cons, List.filter_cons, same]
      split
      · rw [List.map_cons, List.map_cons, isKept.clusterOf_eq]
        exact List.prefix_cons_inj _ |>.mpr ih
      · exact ih

theorem not_mem_autopilotClusters {cluster : List (Option String)}
    (isNew : firstOf entries cluster = none) : cluster ∉ autopilotClusters entries := by
  intro listed
  rcases List.mem_map.mp listed with ⟨entry, isEntry, isCluster⟩
  have differs := List.find?_eq_none.mp isNew entry (List.mem_of_mem_filter isEntry)
  exact differs (decide_eq_true isCluster)

/-- A cluster with an entry does not get a second one. -/
theorem EntryStep.nodup (step : EntryStep seg target entries next changed)
    (has : seg.HasDims) (unique : (autopilotClusters entries).Nodup) :
    (autopilotClusters next).Nodup := by
  cases step with
  | same found settled => exact unique
  | updated isSplit isFirst isCluster autopilot needs kept hasTarget =>
      rename_i before after entry new
      have same : autopilotClusters (new :: after) = autopilotClusters (entry :: after) := by
        rw [autopilotClusters, autopilotClusters, List.filter_cons_of_pos autopilot,
          List.filter_cons_of_pos (kept.isAutopilot_eq.trans autopilot), List.map_cons,
          List.map_cons, kept.clusterOf_eq]
      rw [isSplit, autopilotClusters_append] at unique
      rw [autopilotClusters_append, same]
      exact unique
  | appended isNew =>
      have added : autopilotClusters [newSegmentEntry seg target] = [seg.cluster] := by
        rw [autopilotClusters, List.filter_cons_of_pos (isAutopilot_newSegmentEntry seg target),
          List.filter_nil, List.map_singleton, clusterOf_newSegmentEntry has target]
      rw [autopilotClusters_append, added, ← List.concat_eq_append, List.nodup_concat]
      exact ⟨not_mem_autopilotClusters isNew, unique⟩

/-! ## Entries of a cluster -/

/-- The first entry of another cluster stays the same. -/
theorem EntryStep.firstOf_of_ne (step : EntryStep seg target entries next changed)
    (has : seg.HasDims) {cluster : List (Option String)} (different : cluster ≠ seg.cluster) :
    firstOf next cluster = firstOf entries cluster := by
  cases step with
  | same found settled => rfl
  | updated isSplit isFirst isCluster autopilot needs kept hasTarget =>
      rw [← isCluster] at different
      rw [isSplit, firstOf_append, firstOf_append, firstOf_cons, firstOf_cons, kept.clusterOf_eq,
        if_neg (Ne.symm different), if_neg (Ne.symm different)]
  | appended isNew =>
      rw [← clusterOf_newSegmentEntry has target] at different
      rw [firstOf_append, firstOf_cons, if_neg (Ne.symm different)]
      exact Option.or_none

/-- The first entry of the cluster is the one before, within the dead-bands or of a human, or
it has the values of the target. -/
theorem EntryStep.firstOf_self (step : EntryStep seg target entries next changed)
    (has : seg.HasDims) :
    (next = entries ∧ ∃ entry, firstOf entries seg.cluster = some entry ∧
        (isAutopilot entry = false ∨ needsUpdate entry target = false)) ∨
      ((∀ entry, firstOf entries seg.cluster = some entry →
          isAutopilot entry = true ∧ needsUpdate entry target = true) ∧
        ∃ new, firstOf next seg.cluster = some new ∧ HasTarget new target) := by
  cases step with
  | same found settled => exact Or.inl ⟨rfl, _, found, settled⟩
  | updated isSplit isFirst isCluster autopilot needs kept hasTarget =>
      right
      constructor
      · intro entry found
        rw [isSplit, firstOf_append, isFirst, Option.none_or, firstOf_cons, if_pos isCluster]
          at found
        rw [← Option.some.inj found]
        exact ⟨autopilot, needs⟩
      · refine ⟨_, ?_, hasTarget⟩
        rw [firstOf_append, isFirst, Option.none_or, firstOf_cons,
          if_pos (kept.clusterOf_eq.trans isCluster)]
  | appended isNew =>
      right
      constructor
      · intro entry found
        rw [isNew] at found
        cases found
      · refine ⟨_, ?_, hasTarget_newSegmentEntry seg target⟩
        rw [firstOf_append, isNew, Option.none_or, firstOf_cons,
          if_pos (clusterOf_newSegmentEntry has target)]

end Segment

/-! ## The traffic -/

section Traffic

variable [Rounding] {params : CalibrationParams} {seg : SegmentTraffic}
  {segments all : List SegmentTraffic} {entries next : List Value} {changed : ℕ}

/-- The step of one segment in the loop. -/
def SegmentStep (params : CalibrationParams) (entries : List Value) (seg : SegmentTraffic)
    (next : List Value) : Prop :=
  ∃ target changed, seg.target params = some target ∧ EntryStep seg target entries next changed

theorem calibrateEntries_cons {rest : List SegmentTraffic}
    (done : calibrateEntries params (seg :: rest) entries = some (next, changed)) :
    ∃ target middle first others, seg.target params = some target ∧
      calibrateEntry seg target entries = some (middle, first) ∧
      calibrateEntries params rest middle = some (next, others) ∧ changed = first + others := by
  simp only [calibrateEntries, Option.bind_eq_bind, Option.pure_def, Option.bind_eq_some_iff,
    Option.some.injEq, Prod.mk.injEq] at done
  rcases done with ⟨target, isTarget, ⟨middle, first⟩, isFirst, ⟨last, others⟩, isRest, rfl, rfl⟩
  exact ⟨target, middle, first, others, isTarget, isFirst, isRest, rfl⟩

/-- The loop over the segments is a run. -/
theorem run_calibrateEntries (listed : ∀ seg ∈ segments, seg ∈ all)
    (done : calibrateEntries params segments entries = some (next, changed)) :
    Run (fun entries seg next => SegmentStep params entries seg next ∧ seg ∈ all) entries segments
      next := by
  induction segments generalizing entries changed with
  | nil =>
      cases done
      exact .refl
  | cons seg rest ih =>
      rcases calibrateEntries_cons done with
        ⟨target, middle, first, others, isTarget, isFirst, isRest, -⟩
      rw [List.forall_mem_cons] at listed
      have step : SegmentStep params entries seg middle :=
        ⟨target, first, isTarget, entryStep_of_calibrateEntry isFirst⟩
      exact (Run.single ⟨step, listed.1⟩).append (ih listed.2 isRest)

/-- The first entry of the segment's cluster is one of a human, or within the dead-bands. -/
def Satisfied (entries : List Value) (seg : SegmentTraffic) (target : Target) : Prop :=
  ∃ entry, firstOf entries seg.cluster = some entry ∧
    (isAutopilot entry = false ∨ needsUpdate entry target = false)

/-- The first entry of the cluster is one of a human, or within the dead-bands of all its
segments. -/
def SettledFor (params : CalibrationParams) (segments : List SegmentTraffic)
    (entries : List Value) (cluster : List (Option String)) : Prop :=
  ∃ entry, firstOf entries cluster = some entry ∧
    (isAutopilot entry = false ∨
      ∀ seg ∈ segments, seg.cluster = cluster → ∀ target, seg.target params = some target →
        needsUpdate entry target = false)

/-- The targets of the segments are within the dead-bands of each other. -/
def NearTargets (params : CalibrationParams) (first second : SegmentTraffic) : Prop :=
  ∀ target other, first.target params = some target → second.target params = some other →
    target.near other = true

/-- Segments of one cluster have targets near each other, or its entry suits all of them. -/
def Compatible (params : CalibrationParams) (segments : List SegmentTraffic)
    (entries : List Value) : Prop :=
  ∀ first ∈ segments, ∀ second ∈ segments, first.cluster = second.cluster →
    NearTargets params first second ∨ SettledFor params segments entries first.cluster

theorem SettledFor.satisfied {cluster : List (Option String)}
    (settled : SettledFor params all entries cluster) (listed : seg ∈ all)
    (isCluster : seg.cluster = cluster) {target : Target}
    (isTarget : seg.target params = some target) : Satisfied entries seg target := by
  rcases settled with ⟨entry, found, isManual | fits⟩
  · exact ⟨entry, isCluster ▸ found, Or.inl isManual⟩
  · exact ⟨entry, isCluster ▸ found, Or.inr (fits seg listed isCluster target isTarget)⟩

/-- In the course of the loop: the first entry of a cluster is the one at the start or suits
all its segments, and it suits the segments that have had their turn. -/
structure Settling (params : CalibrationParams) (all : List SegmentTraffic)
    (start : List Value) (processed : List SegmentTraffic) (entries : List Value) : Prop where
  clusters : ∀ seg ∈ all, firstOf entries seg.cluster = firstOf start seg.cluster ∨
    SettledFor params all entries seg.cluster
  listed : ∀ seg ∈ processed, seg ∈ all
  processed : ∀ seg ∈ processed, ∀ target, seg.target params = some target →
    Satisfied entries seg target

variable {start : List Value} {processed : List SegmentTraffic}

/-- A cluster that is changed suits all its segments afterwards. -/
theorem settledFor_step (compatible : Compatible params all start)
    (settling : Settling params all start processed entries) (listed : seg ∈ all) {target : Target}
    (isTarget : seg.target params = some target)
    (needs : ∀ entry, firstOf entries seg.cluster = some entry →
      isAutopilot entry = true ∧ needsUpdate entry target = true)
    {new : Value} (found : firstOf next seg.cluster = some new) (has : HasTarget new target) :
    SettledFor params all next seg.cluster := by
  have unsettled : ¬ SettledFor params all entries seg.cluster := by
    intro settled
    rcases settled.satisfied listed rfl isTarget with ⟨entry, isFirst, suits⟩
    rcases needs entry isFirst with ⟨autopilot, isNeeded⟩
    rw [autopilot, isNeeded] at suits
    rcases suits with isFalse | isFalse <;> cases isFalse
  have same := (settling.clusters seg listed).resolve_right unsettled
  refine ⟨new, found, Or.inr fun other otherListed isCluster otherTarget isOther => ?_⟩
  rcases compatible seg listed other otherListed isCluster.symm with near | atStart
  · rw [needsUpdate_of_hasTarget has, near target otherTarget isTarget isOther]
    rfl
  · rw [SettledFor, ← same] at atStart
    exact absurd atStart unsettled

theorem Settling.step (compatible : Compatible params all start) (dims : ∀ seg ∈ all, seg.HasDims)
    (settling : Settling params all start processed entries) (listed : seg ∈ all)
    (step : SegmentStep params entries seg next) :
    Settling params all start (processed ++ [seg]) next := by
  rcases step with ⟨target, changed, isTarget, step⟩
  have others : ∀ {cluster}, cluster ≠ seg.cluster →
      firstOf next cluster = firstOf entries cluster :=
    fun different => step.firstOf_of_ne (dims seg listed) different
  have allListed : ∀ other ∈ processed ++ [seg], other ∈ all := by
    intro other inTrace
    rw [List.mem_append, List.mem_singleton] at inTrace
    rcases inTrace with earlier | rfl
    · exact settling.listed other earlier
    · exact listed
  rcases step.firstOf_self (dims seg listed) with
    ⟨rfl, entry, found, suits⟩ | ⟨needs, new, found, has⟩
  · refine ⟨settling.clusters, allListed, fun other inTrace otherTarget isOther => ?_⟩
    rw [List.mem_append, List.mem_singleton] at inTrace
    rcases inTrace with earlier | rfl
    · exact settling.processed other earlier otherTarget isOther
    · rw [isTarget] at isOther
      rw [← Option.some.inj isOther]
      exact ⟨entry, found, suits⟩
  · have settled := settledFor_step compatible settling listed isTarget needs found has
    refine ⟨fun other otherListed => ?_, allListed, fun other inTrace otherTarget isOther => ?_⟩
    · by_cases same : other.cluster = seg.cluster
      · rw [same]
        exact Or.inr settled
      · rw [SettledFor, others same]
        exact settling.clusters other otherListed
    · by_cases same : other.cluster = seg.cluster
      · exact settled.satisfied (allListed other inTrace) same isOther
      · rw [List.mem_append, List.mem_singleton] at inTrace
        rcases inTrace with earlier | rfl
        · rw [Satisfied, others same]
          exact settling.processed other earlier otherTarget isOther
        · exact absurd rfl same

/-- The loop keeps the entries of humans and the fields of the others. -/
theorem extends_of_calibrateEntries
    (done : calibrateEntries params segments entries = some (next, changed)) :
    Extends entries next := by
  have run := run_calibrateEntries (fun _ listed => listed) done
  apply run.invariant fun _ next => Extends entries next
  · exact .refl entries
  · rintro trace middle seg target extended ⟨⟨_, _, -, step⟩, -⟩
    exact extended.trans step.extends

theorem nodup_of_calibrateEntries (dims : ∀ seg ∈ segments, seg.HasDims)
    (unique : (autopilotClusters entries).Nodup)
    (done : calibrateEntries params segments entries = some (next, changed)) :
    (autopilotClusters next).Nodup := by
  have run := run_calibrateEntries (fun _ listed => listed) done
  apply run.invariant fun _ next => (autopilotClusters next).Nodup
  · exact unique
  · rintro trace middle seg target nodup ⟨⟨_, _, -, step⟩, listed⟩
    exact step.nodup (dims seg listed) nodup

/-- After the loop every segment is satisfied. -/
theorem satisfied_of_calibrateEntries (dims : ∀ seg ∈ segments, seg.HasDims)
    (compatible : Compatible params segments entries)
    (done : calibrateEntries params segments entries = some (next, changed)) :
    ∀ seg ∈ segments, ∀ target, seg.target params = some target → Satisfied next seg target := by
  have run := run_calibrateEntries (fun _ listed => listed) done
  have settling : Settling params segments entries segments next := by
    apply run.invariant fun processed next => Settling params segments entries processed next
    · exact ⟨fun _ _ => Or.inl rfl, fun _ listed => absurd listed List.not_mem_nil,
        fun _ listed => absurd listed List.not_mem_nil⟩
    · rintro trace middle seg target settling ⟨step, listed⟩
      exact settling.step compatible dims listed step
  exact settling.processed

/-- The loop changes nothing when every segment is satisfied. -/
theorem unchanged_of_satisfied
    (satisfied : ∀ seg ∈ segments, ∀ target, seg.target params = some target →
      Satisfied entries seg target)
    (done : calibrateEntries params segments entries = some (next, changed)) : changed = 0 := by
  induction segments generalizing changed with
  | nil =>
      cases done
      rfl
  | cons seg rest ih =>
      rcases calibrateEntries_cons done with
        ⟨target, middle, first, others, isTarget, isFirst, isRest, rfl⟩
      rw [List.forall_mem_cons] at satisfied
      rcases satisfied.1 target isTarget with ⟨entry, found, suits⟩
      rw [calibrateEntry_of_settled found suits] at isFirst
      cases isFirst
      rw [ih satisfied.2 isRest]

/-! ## Traffic with an empty dimension -/

/-- The traffic of an empty dimension changes the entries every time. -/
theorem changed_of_empty (listed : seg ∈ segments) (empty : ¬ seg.HasDims)
    (done : calibrateEntries params segments entries = some (next, changed)) : changed ≠ 0 := by
  induction segments generalizing entries changed with
  | nil => cases listed
  | cons head rest ih =>
      rcases calibrateEntries_cons done with
        ⟨target, middle, first, others, isTarget, isFirst, isRest, rfl⟩
      rcases List.mem_cons.mp listed with rfl | later
      · rw [calibrateEntry_of_empty empty] at isFirst
        cases isFirst
        exact Nat.ne_of_gt (Nat.add_pos_left Nat.one_pos others)
      · exact fun isZero => ih later isRest (Nat.eq_zero_of_add_eq_zero_left isZero)

/-- The bounds are in order and the configuration can be edited. -/
def CanCalibrate (params : CalibrationParams) (config : Value) : Prop :=
  ¬ params.maxBucket < params.minBucket ∧ config.IsEditable

theorem target_isSome (inOrder : ¬ params.maxBucket < params.minBucket) (seg : SegmentTraffic) :
    (seg.target params).isSome = true := by
  simp only [SegmentTraffic.target, autoBucket, clampBucket, if_neg inOrder, Option.bind_eq_bind,
    Option.pure_def, Option.isSome_bind]
  split
  · rfl
  · split
    · rfl
    · split <;> rfl

theorem calibrateEntries_isSome (inOrder : ¬ params.maxBucket < params.minBucket)
    (segments : List SegmentTraffic) (entries : List Value) :
    (calibrateEntries params segments entries).isSome = true := by
  induction segments generalizing entries with
  | nil => rfl
  | cons seg rest ih =>
      rcases Option.isSome_iff_exists.mp (target_isSome inOrder seg) with ⟨target, isTarget⟩
      rcases Option.isSome_iff_exists.mp (calibrateEntry_isSome seg target entries) with
        ⟨first, isFirst⟩
      rcases Option.isSome_iff_exists.mp (ih first.1) with ⟨others, isRest⟩
      simp only [calibrateEntries, Option.bind_eq_bind, isTarget, isFirst, isRest,
        Option.bind_some, Option.pure_def, Option.isSome_some]

end Traffic

/-! ## Calibrations -/

section Merchant

variable [Rounding] {params : CalibrationParams} {existing : Option Value}
  {segments : List SegmentTraffic} {config : Value}

theorem calibrateMerchant_eq_written_iff :
    calibrateMerchant params existing segments = .written config ↔
      qualifying params segments ≠ [] ∧
        ∃ entries changed, calibrateEntries params (qualifying params segments)
            (subLevelEntries (editedConfig existing)) = some (entries, changed) ∧
          changed ≠ 0 ∧
          (editedConfig existing).set "subLevelInputConfig" (.array entries) = some config := by
  rw [calibrateMerchant]
  split
  · next isEmpty => exact iff_of_false nofun fun holds => holds.1 (List.isEmpty_iff.mp isEmpty)
  · next nonempty =>
      rw [and_iff_right (mt List.isEmpty_iff.mpr nonempty)]
      cases isDone : calibrateEntries params (qualifying params segments)
          (subLevelEntries (editedConfig existing)) with
      | none => exact iff_of_false nofun nofun
      | some done =>
          rcases done with ⟨entries, changed⟩
          dsimp only
          constructor
          · intro written
            split at written
            · cases written
            · next isChanged =>
                cases isSet : (editedConfig existing).set "subLevelInputConfig" (.array entries)
                  with
                | none =>
                    rw [isSet] at written
                    cases written
                | some config =>
                    rw [isSet] at written
                    cases written
                    exact ⟨entries, changed, rfl, isChanged, isSet⟩
          · rintro ⟨_, _, isPair, isChanged, isSet⟩
            cases isPair
            rw [if_neg isChanged, isSet]

omit [Rounding] in
theorem subLevelEntries_set {edited : Value} {entries : List Value}
    (isSet : edited.set "subLevelInputConfig" (.array entries) = some config) :
    subLevelEntries config = entries := by
  rw [subLevelEntries, Value.get_set_self isSet]
  rfl

/-- The configuration that is stored after a calibration. -/
def afterCalibration (params : CalibrationParams) (existing : Option Value)
    (segments : List SegmentTraffic) : Option Value :=
  (calibrateMerchant params existing segments).stored existing

/-- A calibration writes a configuration, or the stored one stays. -/
theorem afterCalibration_cases (params : CalibrationParams) (existing : Option Value)
    (segments : List SegmentTraffic) :
    (∃ config, calibrateMerchant params existing segments = .written config ∧
        afterCalibration params existing segments = some config) ∨
      ((∀ config, calibrateMerchant params existing segments ≠ .written config) ∧
        afterCalibration params existing segments = existing) := by
  unfold afterCalibration
  cases calibrateMerchant params existing segments with
  | written config => exact Or.inl ⟨config, rfl, rfl⟩
  | _ => exact Or.inr ⟨nofun, rfl⟩

/-- Other fields and the entries of humans are as they were, the autopilot has one entry for a
cluster at most, and a second calibration with the same traffic writes nothing. -/
structure CalibrationHolds (params : CalibrationParams) (existing : Option Value)
    (segments : List SegmentTraffic) : Prop where
  fields : ∀ key, key ≠ "subLevelInputConfig" →
    (editedConfig (afterCalibration params existing segments)).get key =
      (editedConfig existing).get key
  entries : Extends (subLevelEntries (editedConfig existing))
    (subLevelEntries (editedConfig (afterCalibration params existing segments)))
  unique : (autopilotClusters
    (subLevelEntries (editedConfig (afterCalibration params existing segments)))).Nodup
  settled : ∀ config,
    calibrateMerchant params (afterCalibration params existing segments) segments ≠
      .written config

/-- The autopilot has one entry for a cluster at most, the traffic has no empty dimensions, and
segments that differ in the case of letters alone agree on their targets. -/
structure Unambiguous (params : CalibrationParams) (existing : Option Value)
    (segments : List SegmentTraffic) : Prop where
  unique : (autopilotClusters (subLevelEntries (editedConfig existing))).Nodup
  dims : ∀ seg ∈ qualifying params segments, seg.HasDims
  compatible : Compatible params (qualifying params segments)
    (subLevelEntries (editedConfig existing))

/-- What is preserved, whatever the configuration and the traffic. -/
theorem preserved_afterCalibration (params : CalibrationParams) (existing : Option Value)
    (segments : List SegmentTraffic) :
    (∀ key, key ≠ "subLevelInputConfig" →
      (editedConfig (afterCalibration params existing segments)).get key =
        (editedConfig existing).get key) ∧
      Extends (subLevelEntries (editedConfig existing))
        (subLevelEntries (editedConfig (afterCalibration params existing segments))) := by
  rcases afterCalibration_cases params existing segments with ⟨config, written, after⟩ | ⟨-, same⟩
  · rcases calibrateMerchant_eq_written_iff.mp written with ⟨-, entries, changed, done, -, isSet⟩
    rw [after]
    constructor
    · intro key different
      exact Value.get_set_of_ne isSet (Ne.symm different)
    · have isNext : subLevelEntries (editedConfig (some config)) = entries :=
        subLevelEntries_set isSet
      rw [isNext]
      exact extends_of_calibrateEntries done
  · rw [same]
    exact ⟨fun _ _ => rfl, .refl _⟩

theorem calibrationHolds_of_unambiguous (unambiguous : Unambiguous params existing segments) :
    CalibrationHolds params existing segments := by
  rcases preserved_afterCalibration params existing segments with ⟨fields, entries⟩
  rcases afterCalibration_cases params existing segments with ⟨config, written, after⟩ | ⟨no, same⟩
  · rcases calibrateMerchant_eq_written_iff.mp written with ⟨-, next, changed, done, -, isSet⟩
    have isNext : subLevelEntries (editedConfig (afterCalibration params existing segments)) =
        next := by
      rw [after]
      exact subLevelEntries_set isSet
    refine ⟨fields, entries, ?_, fun again writtenAgain => ?_⟩
    · rw [isNext]
      exact nodup_of_calibrateEntries unambiguous.dims unambiguous.unique done
    · rcases calibrateMerchant_eq_written_iff.mp writtenAgain with
        ⟨-, more, changedAgain, doneAgain, isChanged, -⟩
      rw [isNext] at doneAgain
      have satisfied := satisfied_of_calibrateEntries unambiguous.dims unambiguous.compatible done
      exact isChanged (unchanged_of_satisfied satisfied doneAgain)
  · refine ⟨fields, entries, ?_, ?_⟩
    · rw [same]
      exact unambiguous.unique
    · rw [same]
      exact no

/-- Traffic with an empty dimension is written by every calibration. -/
theorem written_of_empty {seg : SegmentTraffic} (listed : seg ∈ qualifying params segments)
    (empty : ¬ seg.HasDims) (can : CanCalibrate params (editedConfig existing)) :
    ∃ config, calibrateMerchant params existing segments = .written config := by
  rcases Option.isSome_iff_exists.mp (calibrateEntries_isSome can.1 (qualifying params segments)
    (subLevelEntries (editedConfig existing))) with ⟨⟨entries, changed⟩, done⟩
  rcases Option.isSome_iff_exists.mp (can.2 "subLevelInputConfig" (.array entries)) with
    ⟨config, isSet⟩
  exact ⟨config, calibrateMerchant_eq_written_iff.mpr
    ⟨List.ne_nil_of_mem listed, entries, changed, done, changed_of_empty listed empty done, isSet⟩⟩

/-- A calibration that holds has found the autopilot's entries unique and, unless it panics,
no empty dimension. -/
theorem unique_of_calibrationHolds (holds : CalibrationHolds params existing segments) :
    (autopilotClusters (subLevelEntries (editedConfig existing))).Nodup ∧
      (CanCalibrate params (editedConfig existing) →
        ∀ seg ∈ qualifying params segments, seg.HasDims) := by
  refine ⟨holds.unique.sublist holds.entries.isPrefix.sublist, fun can seg listed => ?_⟩
  by_contra empty
  rcases written_of_empty listed empty can with ⟨config, written⟩
  rcases calibrateMerchant_eq_written_iff.mp written with ⟨-, entries, changed, -, -, isSet⟩
  have after : afterCalibration params existing segments = some config := by
    rw [afterCalibration, written]
    rfl
  have canAgain : CanCalibrate params (editedConfig (some config)) :=
    ⟨can.1, Value.isEditable_of_set isSet⟩
  rcases written_of_empty listed empty canAgain with ⟨again, writtenAgain⟩
  exact holds.settled again (after ▸ writtenAgain)

/-- A calibration of unambiguous traffic preserves what it does not manage, keeps the autopilot's
entries unique, and settles.  Conversely one that does has found them unique and, unless it
panics, no empty dimension. -/
theorem calibrationHolds_unambiguous (params : CalibrationParams) (existing : Option Value)
    (segments : List SegmentTraffic) :
    (Unambiguous params existing segments → CalibrationHolds params existing segments) ∧
      (CalibrationHolds params existing segments →
        (autopilotClusters (subLevelEntries (editedConfig existing))).Nodup ∧
          (CanCalibrate params (editedConfig existing) →
            ∀ seg ∈ qualifying params segments, seg.HasDims)) :=
  ⟨calibrationHolds_of_unambiguous, unique_of_calibrationHolds⟩

end Merchant

/-! ## Ambiguous traffic -/

/-- Roots with eight decimals. -/
local instance calibrationRounding : Rounding := .decimal

def defaultParams : CalibrationParams :=
  .fromConfig ⟨none, none, none, none, none, none⟩

/-- The credit cards of a network, in one spelling of its name. -/
def networkTraffic (network : String) (volume : ℤ) : SegmentTraffic :=
  ⟨"card", "credit", some network, none, none, none, volume, 2⟩

/-- Traffic without the name of its payment method. -/
def namelessTraffic : SegmentTraffic :=
  ⟨"card", "", none, none, none, none, 400, 2⟩

/-- A bucket size of a human, and entries of the autopilot. -/
def sampleConfig (entries : List Value) : Value :=
  .object [("defaultBucketSize", .int 125), ("subLevelInputConfig", .array entries)]

/-- An entry that is twice in the configuration. -/
def duplicateEntry : Value :=
  newSegmentEntry (networkTraffic "VISA" 400) ⟨100, 25⟩

theorem calibrationHolds_unambiguous_network :
    CalibrationHolds defaultParams (some (sampleConfig [duplicateEntry]))
      [networkTraffic "VISA" 100000] := by
  apply (calibrationHolds_unambiguous defaultParams (some (sampleConfig [duplicateEntry]))
    [networkTraffic "VISA" 100000]).1
  have qualifies : qualifying defaultParams [networkTraffic "VISA" 100000] =
      [networkTraffic "VISA" 100000] := by decide +kernel
  refine ⟨List.nodup_singleton _, ?_, ?_⟩
  · intro seg listed
    rw [qualifies, List.mem_singleton] at listed
    rw [listed, SegmentTraffic.HasDims]
    decide
  · intro first isFirst second isSecond same
    rw [qualifies, List.mem_singleton] at isFirst isSecond
    rw [isFirst, isSecond]
    left
    intro target other isTarget isOther
    rw [isTarget] at isOther
    rw [← Option.some.inj isOther]
    exact target.near_self

def CalibrationOutcome.isWritten : CalibrationOutcome → Bool
  | .written _ => true
  | .skipped | .panicked | .unchanged => false

theorem exists_written {outcome : CalibrationOutcome} (isWritten : outcome.isWritten = true) :
    ∃ config, outcome = .written config := by
  cases outcome with
  | written config => exact ⟨config, rfl⟩
  | _ => cases isWritten

theorem not_calibrationHolds_of_isWritten {existing : Option Value}
    {segments : List SegmentTraffic}
    (again : (calibrateMerchant defaultParams (afterCalibration defaultParams existing segments)
      segments).isWritten = true) : ¬ CalibrationHolds defaultParams existing segments := by
  intro holds
  rcases exists_written again with ⟨config, written⟩
  exact holds.settled config written

/-- Two spellings of a network change the same entry to and fro, traffic without a payment
method is appended by every calibration, and duplicates stay. -/
theorem calibrationHolds_unambiguous_counterexample :
    ¬ CalibrationHolds defaultParams none
        [networkTraffic "VISA" 100000, networkTraffic "visa" 400] ∧
      ¬ CalibrationHolds defaultParams none [namelessTraffic] ∧
      ¬ CalibrationHolds defaultParams (some (sampleConfig [duplicateEntry, duplicateEntry]))
        [networkTraffic "VISA" 400] := by
  refine ⟨?_, ?_, fun holds => ?_⟩
  · exact not_calibrationHolds_of_isWritten (by decide +kernel)
  · exact not_calibrationHolds_of_isWritten (by decide +kernel)
  · have unique := holds.unique
    revert unique
    decide +kernel

end DecisionEngine.Calibration
