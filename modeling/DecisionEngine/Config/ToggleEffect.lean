import DecisionEngine.Config.RouteIsolation

/-!
# What a toggle takes effect on

A toggle changes the list of the merchants of a feature.  A feature that is enabled for all is
decided by its other fields, so a toggle of it is stored and has no effect.

The other merchants keep what they had.
-/

namespace DecisionEngine.Config

open Text Transition DecisionEngine.Transition.Effect

/-! ## Decisions that no draw changes -/

def IsDraw (draw : Int) : Prop :=
  1 ≤ draw ∧ draw ≤ 100

/-- All draws are within the rollout, or none of them is. -/
def RolloutDecides (enabled : Bool) (rollout : Int) : Prop :=
  if enabled then 100 ≤ rollout else rollout < 1

theorem rolloutDecides_iff (enabled : Bool) (rollout : Int) :
    RolloutDecides enabled rollout ↔ ∀ draw, IsDraw draw → roller draw rollout = enabled := by
  cases enabled with
  | true =>
      constructor
      · exact fun all draw isDraw => decide_eq_true (isDraw.2.trans all)
      · intro decided
        change (100 : Int) ≤ rollout
        exact of_decide_eq_true (decided 100 ⟨by decide, by decide⟩)
  | false =>
      constructor
      · exact fun none draw isDraw => decide_eq_false (not_le.mpr (none.trans_le isDraw.1))
      · intro decided
        change rollout < 1
        exact not_le.mp (of_decide_eq_false (decided 1 ⟨by decide, by decide⟩))

/-- What a feature says of a merchant for every draw. -/
def FeatureView.Decided (view : FeatureView) (enabled : Bool) : Prop :=
  if view.enableAll then
    match view.disabled with
    | some disabled => enabled = !disabled
    | none => view.enableAllRollout.elim (enabled = true) (RolloutDecides enabled)
  else view.rollout.elim (enabled = false) (RolloutDecides enabled)

theorem FeatureView.decided_iff (view : FeatureView) (enabled : Bool) :
    view.Decided enabled ↔ ∀ draw, IsDraw draw → view.enabled draw = enabled := by
  have constant : ∀ answer : Bool, enabled = answer ↔ ∀ draw, IsDraw draw → answer = enabled :=
    fun answer => ⟨fun same _ _ => same.symm, fun all => (all 1 ⟨by decide, by decide⟩).symm⟩
  rcases view with ⟨enableAll, enableAllRollout, disabled, rollout⟩
  cases enableAll with
  | true =>
      cases disabled with
      | some disabled => exact constant (!disabled)
      | none =>
          cases enableAllRollout with
          | some rollout => exact rolloutDecides_iff enabled rollout
          | none => exact constant true
  | false =>
      cases rollout with
      | some rollout => exact rolloutDecides_iff enabled rollout
      | none => exact constant false

section Toggles

variable [LetterCase]

/-- A toggle decides a feature that is not enabled for all, and no other. -/
theorem decided_toggled_iff (conf : FeatureConf) (merchantId : String) (enabled : Bool) :
    ((conf.toggled merchantId enabled).view merchantId).Decided enabled ↔
      conf.enableAll = false ∨ (conf.view merchantId).Decided enabled := by
  rw [view_toggled_self]
  cases notAll : conf.enableAll with
  | true =>
      rw [or_iff_right (by decide), FeatureView.Decided, FeatureView.Decided, FeatureConf.view,
        notAll]
      rfl
  | false =>
      rw [FeatureView.Decided, FeatureConf.view, notAll]
      cases enabled with
      | true => exact iff_of_true (le_refl (100 : Int)) (.inl rfl)
      | false => exact iff_of_true rfl (.inl rfl)

end Toggles

/-! ## The stored configuration -/

section Stored

variable [LetterCase] {Data : AlgorithmType → Type} {Page ε : Type} {config : RouteConfig Data}
  {calls : RequestCalls Page} {merchantId : String}

def storedFeature (config : RouteConfig Data) (feature : KnownFeature) (store : TenantStore) :
    Option FeatureConf :=
  (store.configs.slot config.app feature.featureConfKey).stored config.formats.feature.fromStr

/-- The tables of the configurations are the same. -/
def SameTable (first second : TenantStore) : Prop :=
  first.configs.table = second.configs.table

omit [LetterCase] in
theorem storedFeature_congr {first second : TenantStore} (same : SameTable first second)
    (feature : KnownFeature) :
    storedFeature config feature first = storedFeature config feature second := by
  rw [storedFeature, storedFeature, Slot.stored, Slot.stored, Slot.row, Slot.row]
  change ((first.configs.rowsOf _).head?.bind _).bind _ = _
  rw [ConfigState.rowsOf, same]
  rfl

/-! ### What is read leaves the table -/

section

omit [LetterCase]

theorem table_findByNameFromRedisHelper {α : Type} (app : TenantAppState) (state : ConfigState)
    (name : String) (decode : String → Option α) :
    (state.findByNameFromRedisHelper app name decode).2.table = state.table := by
  rw [ConfigState.findByNameFromRedisHelper]
  cases state.getFromMemoryCache (app.cacheConfig.addPrefix name) with
  | some text => rfl
  | none =>
      cases state.getFromRedisCache app (app.cacheConfig.addPrefix name) with
      | some text =>
          dsimp only
          split <;> rfl
      | none =>
          cases state.findConfigByName name with
          | none => rfl
          | some row =>
              dsimp only
              cases row.value <;> rfl

theorem sameTable_findCached {α : Type} (app : TenantAppState) (calls : StoreCalls)
    (name : String) (decode : String → Option α) (store : TenantStore) :
    SameTable ((findCached app calls name decode : Route ε _).outcome store).2 store := by
  rw [outcome, findCached]
  dsimp only
  split
  · rfl
  · exact table_findByNameFromRedisHelper app store.configs name decode

theorem unnoticedAt_findConfig (calls : StoreCalls) (site : CallSite) (name : String)
    (onError : MeshError → ε) (store : TenantStore) :
    UnnoticedAt SameTable (findConfig calls site name onError) store := by
  apply unnoticedAt_of_same
  rw [outcome, findConfig]
  split <;> rfl

end

theorem unnoticedAt_readEffective (feature : KnownFeature) (store : TenantStore) :
    UnnoticedAt SameTable (readEffective config calls merchantId feature : Route ε Bool) store := by
  rw [readEffective]
  refine (unnoticedAt_findConfig calls.toStoreCalls .shown _ id store).attempt.bind fun row _ => ?_
  split
  · exact unnoticedAt_pure _
  · refine UnnoticedAt.bind ?_ fun conf _ => unnoticedAt_pure _
    intro other same
    exact (sameTable_findCached config.app calls.toStoreCalls _ _ _).trans same

theorem unnoticedAt_readFeatures (store : TenantStore) :
    UnnoticedAt SameTable (readFeatures config calls merchantId : Route ε _) store := by
  rw [readFeatures]
  refine UnnoticedAt.bind ?_ fun features _ => unnoticedAt_pure _
  have reads : ∀ feature ∈ KnownFeature.all, ∀ store : TenantStore,
      ApartAt SameTable False (do
        let enabled ← readEffective config calls merchantId feature
        return (⟨feature, enabled⟩ : MerchantFeatureEntry) : Route ε _) store := by
    intro feature _ store
    refine ⟨False.elim, fun _ => ?_⟩
    exact (unnoticedAt_readEffective feature store).bind fun enabled _ => unnoticedAt_pure _
  exact (apartAt_each reads store).unnoticed id

/-- The features are read unless a read of the table fails. -/
theorem ensures_readFeatures
    (found : ∀ feature, calls.failure .shown (KnownFeature.featureConfKey feature) = none)
    (store : TenantStore) :
    Ensures (readFeatures config calls merchantId : Route ε _) store
      fun result _ => result.isOk := by
  have reads : ∀ features : List KnownFeature, ∀ store : TenantStore, ∃ entries next,
      outcome (each features fun feature => do
        let enabled ← readEffective config calls merchantId feature
        return (⟨feature, enabled⟩ : MerchantFeatureEntry) : Route ε _) store =
          (.ok entries, next) := by
    intro features
    induction features with
    | nil => exact fun store => ⟨[], store, rfl⟩
    | cons feature rest ih =>
        intro store
        have read : ∃ enabled next, outcome
            (readEffective config calls merchantId feature : Route ε Bool) store =
              (.ok enabled, next) := by
          rcases readEffective_cases ε config merchantId (found feature) store with
            ⟨next, slot, isNext, -⟩
          exact ⟨_, _, isNext⟩
        rcases read with ⟨enabled, next, isNext⟩
        rcases ih next with ⟨entries, last, isLast⟩
        refine ⟨⟨feature, enabled⟩ :: entries, last, ?_⟩
        have entered : outcome (do
            let enabled ← readEffective config calls merchantId feature
            return (⟨feature, enabled⟩ : MerchantFeatureEntry) : Route ε _) store =
              (.ok ⟨feature, enabled⟩, next) := by
          rw [outcome_bind, isNext]
          rfl
        rw [each, outcome_bind, entered]
        dsimp only
        rw [outcome_bind, isLast]
        rfl
  rcases reads KnownFeature.all store with ⟨entries, next, isNext⟩
  rw [readFeatures, ensures_bind, Ensures, isNext]
  rfl

omit [LetterCase] in
/-- The load of an account leaves the configurations. -/
theorem outcome_loadMerchant (calls : StoreCalls) (merchantId : String) (store : TenantStore) :
    ∃ merchant accounts, (loadMerchant calls merchantId : Route ε _).outcome store =
      (.ok merchant, { store with accounts := accounts }) := by
  rw [outcome, loadMerchant]
  split
  · exact ⟨none, store.accounts, rfl⟩
  · exact ⟨_, _, rfl⟩

/-! ### What a toggle stores -/

/-- A toggle that cannot read the record adds another one behind it. -/
theorem storedFeature_updateConf_unread {feature : KnownFeature} {conf : FeatureConf}
    {failure : MeshError} (unread : calls.failure .lookup feature.featureConfKey = some failure)
    {store next : TenantStore} (isStored : storedFeature config feature store = some conf)
    {enabled : Bool} {error : ε}
    (succeeds : (updateConf config calls merchantId feature enabled error).outcome store =
      (.ok .unit, next)) : storedFeature config feature next = some conf := by
  have looked : ((findConfig calls.toStoreCalls .lookup feature.featureConfKey id).attempt :
      Route ε _).outcome store = (.ok none, store) := by
    simp only [outcome, attempt, findConfig, unread]
  have unfolded : (updateConf config calls merchantId feature enabled error).outcome store =
      Effect.outcome (do
        let serialized ← orError
          (config.formats.feature.toString (FeatureConf.default.toggled merchantId enabled)) error
        writeConfig config.app calls.toStoreCalls feature.featureConfKey
          (.insert (some serialized)) fun _ => error) store := by
    rw [updateConf, outcome_bind, looked]
    rfl
  rw [unfolded, outcome_bind] at succeeds
  generalize config.formats.feature.toString (FeatureConf.default.toggled merchantId enabled) =
    serialized at succeeds
  cases serialized with
  | none => cases succeeds
  | some text =>
      simp only [outcome, orError, Option.elim_some, writeConfig] at succeeds
      cases failed : calls.failure .write feature.featureConfKey with
      | some refused =>
          rw [failed] at succeeds
          cases succeeds
      | none =>
          rw [failed] at succeeds
          rcases ConfigState.run_cases (.insert (some text)) config.app feature.featureConfKey
              store.configs with ⟨refused, -, isRefused⟩ | ⟨written, slot, isNext, isSlot, atSlot⟩
          · cases isRefused
          · rw [isNext] at succeeds
            cases succeeds
            cases isSlot
            rw [storedFeature] at isStored ⊢
            rw [atSlot.own, Slot.written, Slot.stored, Slot.row]
            rw [Slot.stored, Slot.row] at isStored
            cases rows : (store.configs.slot config.app feature.featureConfKey).rows with
            | nil =>
                rw [rows] at isStored
                cases isStored
            | cons first rest =>
                rw [rows] at isStored
                exact isStored

/-- What the record is after a toggle. -/
def afterToggle (calls : StoreCalls) (feature : KnownFeature) (conf : FeatureConf)
    (merchantId : String) (enabled : Bool) : FeatureConf :=
  if (calls.failure .lookup feature.featureConfKey).isNone then conf.toggled merchantId enabled
  else conf

theorem storedFeature_updateConf (faithful : config.formats.feature.Faithful)
    {feature : KnownFeature} {conf : FeatureConf} {store next : TenantStore}
    (isStored : storedFeature config feature store = some conf) {enabled : Bool} {error : ε}
    (succeeds : (updateConf config calls merchantId feature enabled error).outcome store =
      (.ok .unit, next)) :
    storedFeature config feature next =
      some (afterToggle calls.toStoreCalls feature conf merchantId enabled) := by
  rw [afterToggle]
  cases unread : calls.failure .lookup feature.featureConfKey with
  | some failure => exact storedFeature_updateConf_unread unread isStored succeeds
  | none =>
      rcases updateConf_cases faithful unread merchantId enabled error with
        ⟨failed, fails⟩ | writes
      · rw [fails] at succeeds
        cases succeeds
      · rcases writes store with ⟨written, slot, isNext, atSlot, isToggled⟩
        rw [isNext] at succeeds
        cases succeeds
        rw [storedFeature, atSlot.own, isToggled, Slot.toggledConf]
        rw [storedFeature] at isStored
        rw [isStored]
        rfl

/-- The record after a request that toggles a feature. -/
theorem storedFeature_updateMerchantFeature (faithful : config.formats.feature.Faithful)
    {featureSlug : String} {feature : KnownFeature}
    (isFeature : KnownFeature.fromSlug featureSlug = some feature) {conf : FeatureConf}
    {store next : TenantStore} (isStored : storedFeature config feature store = some conf)
    {enabled : Bool} {response : MerchantFeaturesResponse}
    (succeeds : (updateMerchantFeature config calls merchantId featureSlug enabled).outcome store =
      (.ok response, next)) :
    storedFeature config feature next =
      some (afterToggle calls.toStoreCalls feature conf merchantId enabled) := by
  have ensured : Ensures (updateMerchantFeature config calls merchantId featureSlug enabled) store
      fun result next => ∀ response, result = .ok response →
        storedFeature config feature next =
          some (afterToggle calls.toStoreCalls feature conf merchantId enabled) := by
    rw [updateMerchantFeature]
    refine ensures_orError_bind (fun _ _ failed => by cases failed) fun found isFound => ?_
    rw [isFeature, Option.some.injEq] at isFound
    subst isFound
    rw [ensures_bind]
    rcases outcome_loadMerchant calls.toStoreCalls merchantId store with
      ⟨merchant, loaded, isLoaded⟩
    rw [Ensures, isLoaded]
    refine ensures_require_bind (fun _ _ failed => by cases failed) fun _ => ?_
    rw [ensures_bind, Ensures]
    cases updated : (updateConf config calls merchantId feature enabled
        MerchantAccountConfigurationError.storageError).outcome
          { store with accounts := loaded } with
    | mk result written =>
        cases result with
        | error error =>
            intro _ failed
            cases failed
        | ok done =>
            intro response _
            refine (storedFeature_congr
              (unnoticedAt_readFeatures written written rfl) feature).trans ?_
            have stillStored : storedFeature config feature { store with accounts := loaded } =
                some conf := isStored
            exact storedFeature_updateConf faithful stillStored updated
  rw [Ensures, succeeds] at ensured
  exact ensured response rfl

/-! ### What is reported -/

/-- The feature of a merchant as a request finds it. -/
def reported (config : RouteConfig Data) (calls : RequestCalls Page) (feature : KnownFeature)
    (merchantId : String) (store : TenantStore) : Except MerchantAccountConfigurationError Bool :=
  ((readEffective config calls merchantId feature).outcome store).1

/-- The read of a request is answered by the table, and its draw is one of the roller's. -/
structure Reads (calls : RequestCalls Page) (feature : KnownFeature) : Prop where
  found : calls.failure .shown feature.featureConfKey = none
  isDraw : IsDraw (calls.draw feature)

variable {feature : KnownFeature} {conf : FeatureConf}

theorem reported_of_stored {store : TenantStore}
    (isStored : storedFeature config feature store = some conf) (reads : Reads calls feature)
    (owner : String) : reported config calls feature owner store =
      .ok ((conf.view owner).enabled (calls.draw feature)) := by
  rcases readEffective_cases MerchantAccountConfigurationError config owner reads.found store with
    ⟨next, slot, isNext, -, -, -⟩
  rw [storedFeature] at isStored
  rw [reported, isNext, Slot.effective, isStored]
  rfl

/-- The toggle decides the feature for the merchant, and changes nothing for the others. -/
structure TogglesOnly (config : RouteConfig Data) (Page : Type) (feature : KnownFeature)
    (merchantId : String) (enabled : Bool) (before after : TenantStore) : Prop where
  takesEffect : ∀ calls : RequestCalls Page, Reads calls feature →
    reported config calls feature merchantId after = .ok enabled
  leavesOthers : ∀ other, ¬SameLetters merchantId other →
    ∀ calls : RequestCalls Page, Reads calls feature →
      reported config calls feature other after = reported config calls feature other before

/-- A stored feature is reported alike for all draws when it is decided. -/
theorem reportedAlways_iff {store : TenantStore}
    (isStored : storedFeature config feature store = some conf) (calls : RequestCalls Page)
    (enabled : Bool) :
    (∀ calls : RequestCalls Page, Reads calls feature →
        reported config calls feature merchantId store = .ok enabled) ↔
      (conf.view merchantId).Decided enabled := by
  rw [FeatureView.decided_iff]
  constructor
  · intro always draw isDraw
    have reads : Reads { calls with failure := fun _ _ => none, draw := fun _ => draw } feature :=
      ⟨rfl, isDraw⟩
    have isReported := always _ reads
    rw [reported_of_stored isStored reads] at isReported
    exact Except.ok.inj isReported
  · intro decided calls reads
    rw [reported_of_stored isStored reads, decided _ reads.isDraw]

theorem decided_afterToggle_iff (calls : StoreCalls) (feature : KnownFeature) (conf : FeatureConf)
    (enabled : Bool) :
    ((afterToggle calls feature conf merchantId enabled).view merchantId).Decided enabled ↔
      calls.failure .lookup feature.featureConfKey = none ∧ conf.enableAll = false ∨
        (conf.view merchantId).Decided enabled := by
  rw [afterToggle]
  cases calls.failure .lookup feature.featureConfKey with
  | none =>
      change ((conf.toggled merchantId enabled).view merchantId).Decided enabled ↔ _
      rw [decided_toggled_iff, eq_self_iff_true, true_and]
  | some failure =>
      change (conf.view merchantId).Decided enabled ↔ _
      simp

theorem view_afterToggle_of_ne {calls : StoreCalls} {feature : KnownFeature} {conf : FeatureConf}
    {other : String} {enabled : Bool} (differ : ¬SameLetters merchantId other) :
    (afterToggle calls feature conf merchantId enabled).view other = conf.view other := by
  rw [afterToggle]
  split
  · exact view_toggled_of_ne differ
  · rfl

/-- A toggle takes effect when it reads the record and the feature is not enabled for all, or
when the feature was decided so before. -/
theorem togglesOnly_iff (faithful : config.formats.feature.Faithful) {featureSlug : String}
    {feature : KnownFeature} (isFeature : KnownFeature.fromSlug featureSlug = some feature)
    {conf : FeatureConf} {before after : TenantStore}
    (isStored : storedFeature config feature before = some conf) {enabled : Bool}
    {response : MerchantFeaturesResponse}
    (succeeds : (updateMerchantFeature config calls merchantId featureSlug enabled).outcome
      before = (.ok response, after)) :
    TogglesOnly config Page feature merchantId enabled before after ↔
      calls.failure .lookup feature.featureConfKey = none ∧ conf.enableAll = false ∨
        (conf.view merchantId).Decided enabled := by
  have isToggled := storedFeature_updateMerchantFeature faithful isFeature isStored succeeds
  rw [← decided_afterToggle_iff calls.toStoreCalls, ← reportedAlways_iff isToggled calls]
  constructor
  · exact fun toggles => toggles.takesEffect
  · intro takesEffect
    refine ⟨takesEffect, fun other differ calls reads => ?_⟩
    rw [reported_of_stored isToggled reads, reported_of_stored isStored reads,
      view_afterToggle_of_ne differ]

end Stored

/-! ## A feature that is enabled for all -/

section EnabledForAll

local instance toggledCase : LetterCase := .ascii

/-- A tenant with one merchant and the record of one feature. -/
def recorded (conf : FeatureConf) : TenantStore :=
  { tenantsOf ["merchant_1"] with
    configs :=
      ⟨[⟨KnownFeature.autopilot.featureConfKey, some (featureFormat.print conf)⟩], fun _ => none,
        fun _ => none⟩ }

variable (conf : FeatureConf)

theorem storedFeature_recorded :
    storedFeature routeConfig .autopilot (recorded conf) = some conf :=
  featureFormat.parse_print conf

theorem faithful_routeConfig : routeConfig.formats.feature.Faithful :=
  faithful_ofFormat featureFormat

theorem fromSlug_autopilot : KnownFeature.fromSlug "autopilot" = some .autopilot := by
  decide +kernel

/-- The toggle of a merchant's feature is answered with success. -/
def AnsweredToggle (enabled : Bool) : Prop :=
  ((updateMerchantFeature routeConfig routeCalls "merchant_1" "autopilot" enabled).outcome
    (recorded conf)).1.isOk

theorem accountFound : ((loadMerchant routeCalls.toStoreCalls "merchant_1" :
    Route MerchantAccountConfigurationError _).outcome
      (tenantsOf ["merchant_1"])).1.toOption.join.isSome := by
  decide +kernel

/-- Whether the feature can be written does not depend on what is stored. -/
theorem exists_updateConf (enabled : Bool) (store : TenantStore) : ∃ next,
    (updateConf routeConfig routeCalls "merchant_1" .autopilot enabled
      MerchantAccountConfigurationError.storageError).outcome store =
        (.ok .unit, { store with configs := next }) := by
  have unfailing : routeCalls.failure .lookup KnownFeature.autopilot.featureConfKey = none := rfl
  rcases updateConf_cases faithful_routeConfig unfailing "merchant_1" enabled
      MerchantAccountConfigurationError.storageError with ⟨failed, fails⟩ | writes
  · have written : ((updateConf routeConfig routeCalls "merchant_1" .autopilot enabled
        MerchantAccountConfigurationError.storageError).outcome (tenantsOf [])).1.isOk := by
      cases enabled <;> decide +kernel
    rw [fails] at written
    cases written
  · rcases writes store with ⟨next, slot, isNext, -, -⟩
    exact ⟨next, isNext⟩

theorem answeredToggle (enabled : Bool) : AnsweredToggle conf enabled := by
  have isFound : ((loadMerchant routeCalls.toStoreCalls "merchant_1" :
      Route MerchantAccountConfigurationError _).outcome
        (recorded conf)).1.toOption.join.isSome :=
    accountFound
  rcases outcome_loadMerchant (ε := MerchantAccountConfigurationError) routeCalls.toStoreCalls
    "merchant_1" (recorded conf) with ⟨merchant, accounts, isLoaded⟩
  rw [isLoaded] at isFound
  rcases exists_updateConf enabled { recorded conf with accounts := accounts } with
    ⟨next, isNext⟩
  have answered : Ensures (updateMerchantFeature routeConfig routeCalls "merchant_1" "autopilot"
      enabled) (recorded conf) fun result _ => result.isOk := by
    rw [updateMerchantFeature, fromSlug_autopilot, ensures_bind, ensures_orError]
    refine ⟨fun absent => ?_, fun feature isFeature => ?_⟩
    · cases absent
    · cases isFeature
      dsimp only
      rw [ensures_bind, Ensures, isLoaded]
      refine ensures_require_bind (fun missing => ?_) fun _ => ?_
      · exact absurd (isFound.symm.trans missing) (by decide)
      · rw [ensures_bind, Ensures, isNext]
        exact ensures_readFeatures (fun _ => rfl) _
  exact answered

theorem exists_of_answeredToggle {conf : FeatureConf} {enabled : Bool}
    (answered : AnsweredToggle conf enabled) : ∃ response after,
      (updateMerchantFeature routeConfig routeCalls "merchant_1" "autopilot" enabled).outcome
        (recorded conf) = (.ok response, after) := by
  rw [AnsweredToggle] at answered
  cases run : (updateMerchantFeature routeConfig routeCalls "merchant_1" "autopilot"
      enabled).outcome (recorded conf) with
  | mk result after =>
      rw [run] at answered
      cases result with
      | error failure => cases answered
      | ok response => exact ⟨response, after, rfl⟩

def enabledForAll : FeatureConf :=
  ⟨true, none, none, some []⟩

def listedMerchants : FeatureConf :=
  ⟨false, none, none, some [⟨"MERCHANT_1", 50⟩, ⟨"merchant_2", 10⟩, ⟨"Merchant_1", 0⟩]⟩

theorem togglesOnly_listed : ∃ response after,
    (updateMerchantFeature routeConfig routeCalls "merchant_1" "autopilot" true).outcome
        (recorded listedMerchants) = (.ok response, after) ∧
      (TogglesOnly routeConfig Unit .autopilot "merchant_1" true (recorded listedMerchants)
          after ↔
        routeCalls.failure .lookup KnownFeature.autopilot.featureConfKey = none ∧
            listedMerchants.enableAll = false ∨
          (listedMerchants.view "merchant_1").Decided true) := by
  rcases exists_of_answeredToggle (answeredToggle listedMerchants true) with
    ⟨response, after, succeeds⟩
  refine ⟨response, after, succeeds, ?_⟩
  exact togglesOnly_iff faithful_routeConfig fromSlug_autopilot
    (storedFeature_recorded listedMerchants) succeeds

/-- The toggle is answered with success, and the feature stays enabled. -/
theorem togglesOnly_counterexample : ∃ response after,
    (updateMerchantFeature routeConfig routeCalls "merchant_1" "autopilot" false).outcome
        (recorded enabledForAll) = (.ok response, after) ∧
      ¬TogglesOnly routeConfig Unit .autopilot "merchant_1" false (recorded enabledForAll)
        after := by
  rcases exists_of_answeredToggle (answeredToggle enabledForAll false) with
    ⟨response, after, succeeds⟩
  refine ⟨response, after, succeeds, fun toggles => ?_⟩
  have isToggled := storedFeature_updateMerchantFeature faithful_routeConfig fromSlug_autopilot
    (storedFeature_recorded enabledForAll) succeeds
  have decided := (reportedAlways_iff isToggled routeCalls false).mp toggles.takesEffect
  rcases (decided_afterToggle_iff routeCalls.toStoreCalls .autopilot enabledForAll
    false).mp decided with ⟨-, notAll⟩ | before
  · cases notAll
  · cases before

end EnabledForAll

end DecisionEngine.Config
