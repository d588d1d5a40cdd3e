import DecisionEngine.Auth.Switching
import DecisionEngine.Merchant.HierarchyStore
import Mathlib.Data.List.Nodup

/-!
# What a grant covers

A grant names a scope, a merchant or an organisation.  The lists propose the scopes below a
node, and a scope is offered when it is stored and its own ancestry names the node; for a
scope itself it is enough that it is stored.  A session may switch to a scope that its grant
covers, which for a scope itself is not looked up.
-/

namespace DecisionEngine.Merchant

open Auth DecisionEngine.Auth.Jwt Json Transition

/-! ## The scopes of a grant -/

structure GrantedScope where
  profileId : String
  profileName : Option String
  hsMerchantId : Option String
  hsMerchantName : Option String

/-- `MAX_GRANTED_SCOPES`. -/
def maxGrantedScopes : Nat := 500

/-- The node that a candidate has to name as its ancestor. -/
inductive Under where
  | itself
  | merchant (hsMerchantId : String)
  | org (hsOrgId : String)

def placed (ancestry : Option Hierarchy) : Under → Bool
  | .itself => true
  | .merchant id => ancestry.any fun parent => parent.hsMerchantId = id
  | .org id => ancestry.any fun parent => parent.hsOrgId = id

section Scopes

variable (stored : Stored)

def grantedProfile (under : Under) (profileId : String) : Option GrantedScope := do
  let account ← stored.loadMerchantByMerchantId profileId
  let ancestry := account.hierarchy
  if placed ancestry under then
    some
      { profileId := profileId
        profileName := ancestry.bind Hierarchy.profileName
        hsMerchantId := ancestry.map Hierarchy.hsMerchantId
        hsMerchantName := ancestry.bind Hierarchy.hsMerchantName }
  else none

def scopesUnderMerchant (under : Under) (hsMerchantId : String) : List GrantedScope :=
  (listedProfiles stored hsMerchantId).filterMap (grantedProfile stored under)

/-- The scopes of one merchant after the other, up to the cap. -/
def scopesUnderMerchants (under : Under) (scopes : List GrantedScope) :
    List String → List GrantedScope
  | [] => scopes
  | hsMerchantId :: rest =>
      let extended := scopes ++ scopesUnderMerchant stored under hsMerchantId
      if maxGrantedScopes ≤ extended.length then extended.take maxGrantedScopes
      else scopesUnderMerchants under extended rest

def scopesForGrant (grant : ScopeGrant) : List GrantedScope :=
  match grant.level with
  | .profile => (grantedProfile stored .itself grant.id).toList
  | .merchant => scopesUnderMerchant stored (.merchant grant.id) grant.id
  | .org => scopesUnderMerchants stored (.org grant.id) [] (listedMerchants stored grant.id)

def grantCovers (grant : ScopeGrant) (profileId : String) : Bool :=
  if grant.level = .profile then grant.id = profileId
  else (scopesForGrant stored grant).any fun scope => scope.profileId = profileId

end Scopes

/-- A label of a scope in the switcher. -/
def switcherLabel (scope : GrantedScope) : String :=
  match scope.hsMerchantName, scope.profileName with
  | some merchant, some profile => merchant ++ " / " ++ profile
  | some merchant, none => merchant ++ " / " ++ scope.profileId
  | none, some profile => profile
  | none, none => scope.profileId

def grantedMerchants (stored : Stored) (grant : ScopeGrant) (role : String) : List MerchantInfo :=
  (scopesForGrant stored grant).map fun scope => ⟨scope.profileId, switcherLabel scope, role⟩

/-! ## What a grant is for -/

/-- The node of a grant as candidates have to name it. -/
def grantNode (grant : ScopeGrant) : Under :=
  match grant.level with
  | .profile => .itself
  | .merchant => .merchant grant.id
  | .org => .org grant.id

/-- The scopes that the lists propose for a grant. -/
def candidates (stored : Stored) (grant : ScopeGrant) : List String :=
  match grant.level with
  | .profile => [grant.id]
  | .merchant => listedProfiles stored grant.id
  | .org => (listedMerchants stored grant.id).flatMap (listedProfiles stored)

/-- The scopes of a grant without a cap. -/
def expansion (stored : Stored) (grant : ScopeGrant) : List GrantedScope :=
  (candidates stored grant).filterMap (grantedProfile stored (grantNode grant))

/-- A scope is offered when it is a candidate. -/
def isOffered (stored : Stored) (grant : ScopeGrant) (profileId : String) : Bool :=
  (grantedProfile stored (grantNode grant) profileId).isSome

/-- A scope that is stored and, but for a grant of a scope, names the granted node. -/
structure ScopeConfined (stored : Stored) (grant : ScopeGrant) (profileId : String) : Prop where
  isStored : (stored.loadMerchantByMerchantId profileId).isSome = true
  profile : grant.level = .profile → profileId = grant.id
  merchant : grant.level = .merchant →
    ∃ hierarchy, stored.ancestry profileId = some hierarchy ∧ hierarchy.hsMerchantId = grant.id
  org : grant.level = .org →
    ∃ hierarchy, stored.ancestry profileId = some hierarchy ∧ hierarchy.hsOrgId = grant.id

/-- A grant covers what it offers, and offers nothing twice. -/
structure OffersCovered (stored : Stored) (grant : ScopeGrant) : Prop where
  covers : ∀ profileId, grantCovers stored grant profileId = true ↔
    ∃ scope ∈ scopesForGrant stored grant, scope.profileId = profileId
  once : ((scopesForGrant stored grant).map GrantedScope.profileId).Nodup

/-- The scope that is granted itself is stored. -/
def GrantedStored (stored : Stored) (grant : ScopeGrant) : Prop :=
  grant.level = .profile → (stored.loadMerchantByMerchantId grant.id).isSome = true

/-- No scope that is stored and names the granted node is proposed twice. -/
def ProposedOnce (stored : Stored) (grant : ScopeGrant) : Prop :=
  ∀ profileId, ScopeConfined stored grant profileId →
    (candidates stored grant).count profileId ≤ 1

/-- The cap does not cut the scopes of an organisation off. -/
def BelowCap (stored : Stored) (grant : ScopeGrant) : Prop :=
  grant.level = .org → (expansion stored grant).length < maxGrantedScopes

/-! ## Candidates -/

section Candidates

variable {stored : Stored} {grant : ScopeGrant} {profileId : String}

variable {under : Under} {scope : GrantedScope}

theorem grantedProfile_eq_some (granted : grantedProfile stored under profileId = some scope) :
    scope.profileId = profileId ∧
      (stored.loadMerchantByMerchantId profileId).isSome = true ∧
      placed (stored.ancestry profileId) under = true := by
  rcases Option.bind_eq_some_iff.mp granted with ⟨account, loaded, offered⟩
  dsimp only at offered
  split at offered
  · next isPlaced =>
      cases offered
      rw [Stored.ancestry, loaded]
      exact ⟨rfl, rfl, isPlaced⟩
  · cases offered

theorem isSome_grantedProfile (isStored : (stored.loadMerchantByMerchantId profileId).isSome = true)
    (isPlaced : placed (stored.ancestry profileId) under = true) :
    (grantedProfile stored under profileId).isSome = true := by
  rcases Option.isSome_iff_exists.mp isStored with ⟨account, loaded⟩
  rw [Stored.ancestry, loaded, Option.bind_some] at isPlaced
  rw [grantedProfile, loaded, Option.bind_eq_bind, Option.bind_some]
  dsimp only
  rw [if_pos isPlaced]
  rfl

theorem placed_merchant_iff {ancestry : Option Hierarchy} {id : String} :
    placed ancestry (.merchant id) = true ↔
      ∃ hierarchy, ancestry = some hierarchy ∧ hierarchy.hsMerchantId = id := by
  cases ancestry <;> simp [placed]

theorem placed_org_iff {ancestry : Option Hierarchy} {id : String} :
    placed ancestry (.org id) = true ↔
      ∃ hierarchy, ancestry = some hierarchy ∧ hierarchy.hsOrgId = id := by
  cases ancestry <;> simp [placed]

/-- A candidate is offered when it is confined. -/
theorem isOffered_iff (candidate : profileId ∈ candidates stored grant) :
    isOffered stored grant profileId = true ↔ ScopeConfined stored grant profileId := by
  rcases grant with ⟨level, id⟩
  constructor
  · intro offered
    rcases Option.isSome_iff_exists.mp offered with ⟨scope, granted⟩
    rcases (grantedProfile_eq_some granted).2 with ⟨isStored, isPlaced⟩
    cases level with
    | profile =>
        have same : profileId = id := List.mem_singleton.mp candidate
        exact ⟨isStored, fun _ => same, nofun, nofun⟩
    | merchant => exact ⟨isStored, nofun, fun _ => placed_merchant_iff.mp isPlaced, nofun⟩
    | org => exact ⟨isStored, nofun, nofun, fun _ => placed_org_iff.mp isPlaced⟩
  · intro confined
    apply isSome_grantedProfile confined.isStored
    cases level with
    | profile => rfl
    | merchant => exact placed_merchant_iff.mpr (confined.merchant rfl)
    | org => exact placed_org_iff.mpr (confined.org rfl)

theorem map_profileId_expansion :
    (expansion stored grant).map GrantedScope.profileId =
      (candidates stored grant).filter (isOffered stored grant) := by
  rw [expansion]
  induction candidates stored grant with
  | nil => rfl
  | cons candidate rest ih =>
      cases granted : grantedProfile stored (grantNode grant) candidate with
      | none =>
          rw [List.filterMap_cons_none granted,
            List.filter_cons_of_neg (by simp [isOffered, granted]), ih]
      | some scope =>
          rw [List.filterMap_cons_some granted,
            List.filter_cons_of_pos (by simp [isOffered, granted]), List.map_cons, ih,
            (grantedProfile_eq_some granted).1]

/-- The scopes of one merchant after the other are those of all merchants, below the cap. -/
theorem scopesUnderMerchants_eq {under : Under} {scopes : List GrantedScope}
    {merchants : List String}
    (small : (scopes ++ merchants.flatMap (scopesUnderMerchant stored under)).length <
      maxGrantedScopes) :
    scopesUnderMerchants stored under scopes merchants =
      scopes ++ merchants.flatMap (scopesUnderMerchant stored under) := by
  induction merchants generalizing scopes with
  | nil => rw [scopesUnderMerchants, List.flatMap_nil, List.append_nil]
  | cons merchant rest ih =>
      rw [List.flatMap_cons, ← List.append_assoc] at small ⊢
      have notFull : ¬maxGrantedScopes ≤
          (scopes ++ scopesUnderMerchant stored under merchant).length := by
        rw [List.length_append] at small
        omega
      rw [scopesUnderMerchants, if_neg notFull]
      exact ih small

/-- Below the cap or not, only scopes of the merchants are offered. -/
theorem mem_of_mem_scopesUnderMerchants {scopes : List GrantedScope} {merchants : List String}
    {scope : GrantedScope} (offered : scope ∈ scopesUnderMerchants stored under scopes merchants) :
    scope ∈ scopes ++ merchants.flatMap (scopesUnderMerchant stored under) := by
  induction merchants generalizing scopes with
  | nil => rwa [List.flatMap_nil, List.append_nil]
  | cons merchant rest ih =>
      rw [List.flatMap_cons, ← List.append_assoc]
      rw [scopesUnderMerchants] at offered
      split at offered
      · exact List.mem_append_left _ (List.mem_of_mem_take offered)
      · exact ih offered

variable {merchants : List String}

theorem flatMap_scopesUnderMerchant :
    merchants.flatMap (scopesUnderMerchant stored under) =
      (merchants.flatMap (listedProfiles stored)).filterMap (grantedProfile stored under) :=
  List.filterMap_flatMap.symm

theorem scopesForGrant_eq (below : BelowCap stored grant) :
    scopesForGrant stored grant = expansion stored grant := by
  rcases grant with ⟨level, id⟩
  cases level with
  | profile =>
      change (grantedProfile stored .itself id).toList =
        [id].filterMap (grantedProfile stored .itself)
      cases granted : grantedProfile stored .itself id with
      | none => rw [List.filterMap_cons_none granted]; rfl
      | some scope => rw [List.filterMap_cons_some granted]; rfl
  | merchant => rfl
  | org =>
      have small := below rfl
      rw [expansion] at small ⊢
      change scopesUnderMerchants stored (.org id) [] (listedMerchants stored id) =
        ((listedMerchants stored id).flatMap (listedProfiles stored)).filterMap
          (grantedProfile stored (.org id))
      rw [← flatMap_scopesUnderMerchant]
      apply scopesUnderMerchants_eq
      rw [List.nil_append, flatMap_scopesUnderMerchant]
      exact small

theorem mem_expansion_of_mem_scopesForGrant (offered : scope ∈ scopesForGrant stored grant) :
    scope ∈ expansion stored grant := by
  rcases grant with ⟨level, id⟩
  cases level with
  | profile =>
      rwa [← scopesForGrant_eq (fun isOrg => by cases isOrg)]
  | merchant => exact offered
  | org =>
      have listed := mem_of_mem_scopesUnderMerchants offered
      rwa [List.nil_append, flatMap_scopesUnderMerchant] at listed

/-- What is offered is a candidate that is confined. -/
theorem confined_of_mem_scopesForGrant (offered : scope ∈ scopesForGrant stored grant) :
    ScopeConfined stored grant scope.profileId := by
  have listed := List.mem_map_of_mem (f := GrantedScope.profileId)
    (mem_expansion_of_mem_scopesForGrant offered)
  rw [map_profileId_expansion] at listed
  rcases List.mem_filter.mp listed with ⟨candidate, offers⟩
  exact (isOffered_iff candidate).mp offers

/-- What a grant covers is confined, if the scope that is granted itself is stored. -/
theorem confined_of_grantCovers (isStored : GrantedStored stored grant)
    (covered : grantCovers stored grant profileId = true) :
    ScopeConfined stored grant profileId := by
  rw [grantCovers] at covered
  split at covered
  · next isProfile =>
      have same := (of_decide_eq_true covered).symm
      rw [same]
      exact ⟨isStored isProfile, fun _ => rfl,
        fun other => (by rw [isProfile] at other; cases other),
        fun other => (by rw [isProfile] at other; cases other)⟩
  · rcases List.any_eq_true.mp covered with ⟨scope, offered, isScope⟩
    rw [← of_decide_eq_true isScope]
    exact confined_of_mem_scopesForGrant offered

/-- A grant covers what it offers just when the scope that is granted itself is stored. -/
theorem forall_covers_iff :
    (∀ profileId, grantCovers stored grant profileId = true ↔
      ∃ scope ∈ scopesForGrant stored grant, scope.profileId = profileId) ↔
      GrantedStored stored grant := by
  rcases grant with ⟨level, id⟩
  constructor
  · intro covers isProfile
    have isProfile : level = .profile := isProfile
    subst isProfile
    rcases (covers id).mp (by simp [grantCovers]) with ⟨scope, offered, rfl⟩
    exact (confined_of_mem_scopesForGrant offered).isStored
  · intro isStored profileId
    rw [grantCovers]
    split
    · next isProfile =>
        have isProfile : level = .profile := isProfile
        subst isProfile
        have isPlaced : placed (stored.ancestry id) .itself = true := rfl
        rcases Option.isSome_iff_exists.mp (isSome_grantedProfile (isStored rfl) isPlaced) with
          ⟨scope, granted⟩
        have offers : scopesForGrant stored ⟨.profile, id⟩ = [scope] := by
          rw [scopesForGrant, granted]
          rfl
        rw [decide_eq_true_iff, offers]
        simp [(grantedProfile_eq_some granted).1]
    · rw [List.any_eq_true]
      exact exists_congr fun scope => and_congr_right fun _ => decide_eq_true_iff

/-- Below the cap nothing is offered twice just when nothing is proposed twice. -/
theorem nodup_scopesForGrant_iff (below : BelowCap stored grant) :
    ((scopesForGrant stored grant).map GrantedScope.profileId).Nodup ↔
      ProposedOnce stored grant := by
  rw [scopesForGrant_eq below, map_profileId_expansion, List.nodup_iff_count_le_one]
  constructor
  · intro once profileId confined
    by_cases candidate : profileId ∈ candidates stored grant
    · have counted : ((candidates stored grant).filter (isOffered stored grant)).count profileId =
          (candidates stored grant).count profileId :=
        List.count_filter ((isOffered_iff candidate).mpr confined)
      rw [← counted]
      exact once profileId
    · rw [List.count_eq_zero_of_not_mem candidate]
      exact Nat.zero_le 1
  · intro once profileId
    by_cases listed : profileId ∈ (candidates stored grant).filter (isOffered stored grant)
    · rcases List.mem_filter.mp listed with ⟨candidate, offers⟩
      rw [List.count_filter offers]
      exact once profileId ((isOffered_iff candidate).mp offers)
    · rw [List.count_eq_zero_of_not_mem listed]
      exact Nat.zero_le 1

theorem offersCovered_iff (below : BelowCap stored grant) :
    OffersCovered stored grant ↔ GrantedStored stored grant ∧ ProposedOnce stored grant :=
  ⟨fun offers => ⟨forall_covers_iff.mp offers.covers,
      (nodup_scopesForGrant_iff below).mp offers.once⟩,
    fun holds => ⟨forall_covers_iff.mpr holds.1, (nodup_scopesForGrant_iff below).mpr holds.2⟩⟩

end Candidates

/-! ## Chains of switches -/

/-- A request to switch, with what is stored when the grant is looked up. -/
structure StoredSwitch where
  stored : Stored
  token : Value
  merchantId : String
  readings : ClockReadings
  jti : String
  denied : String → Bool
  userMerchants : String → Option (List MerchantInfo)
  jwtExpirySeconds : Nat

def StoredSwitch.request (switch : StoredSwitch) : SwitchRequest where
  token := switch.token
  merchantId := switch.merchantId
  around :=
    { readings := switch.readings
      jti := switch.jti
      denied := switch.denied
      covers := grantCovers switch.stored
      grantedMerchants := grantedMerchants switch.stored
      userMerchants := switch.userMerchants
      jwtExpirySeconds := switch.jwtExpirySeconds }

/-- Every switch of a chain reaches a scope that the first grant confines. -/
def ReachesConfined (grant : ScopeGrant) (trace : List StoredSwitch) : Prop :=
  ∀ switch ∈ trace, ∀ response, switchMerchant switch.request = .ok response →
    ScopeConfined switch.stored grant response.merchantId

/-- One switch with a token of the grant. -/
theorem confined_of_switch {grant : ScopeGrant} {switch : StoredSwitch} {claims : Jwt.JwtClaims}
    {response : SwitchResponse} (carries : Carries switch.token claims)
    (moves : MovesWithinGrant claims) (isGrant : grantOf claims = grant)
    (isStored : GrantedStored switch.stored grant)
    (switched : switchMerchant switch.request = .ok response) :
    ScopeConfined switch.stored grant response.merchantId := by
  rcases switchWithinGrant_eq_ok (switchMerchant_eq_ok carries moves switched) with
    ⟨covered, isTarget, -⟩
  rw [isGrant] at covered
  rw [isTarget]
  exact confined_of_grantCovers isStored covered

theorem reachesConfined_of_run {first : Jwt.JwtClaims} {token : Value}
    (carries : Carries token first) (moves : MovesWithinGrant first)
    {trace : List StoredSwitch} {tokens : List Value}
    (run : Run (fun tokens switch next => SwitchStep tokens switch.request next ∧
      GrantedStored switch.stored (grantOf first)) [token] trace tokens) :
    ReachesConfined (grantOf first) trace := by
  refine (run.invariant (fun trace tokens =>
    (∀ derived ∈ tokens, ∃ claims, Carries derived claims ∧ SameSession first claims) ∧
      ReachesConfined (grantOf first) trace) ?_ ?_).2
  · refine ⟨fun derived isFirst => ?_, fun _ made => by cases made⟩
    rw [List.mem_singleton.mp isFirst]
    exact ⟨first, carries, .refl first⟩
  · rintro trace tokens switch next ⟨sessions, confined⟩ ⟨step, isStored⟩
    refine ⟨forall_derived_of_step (fun _ same => same.moves moves)
      (fun _ carriesUsed same => same.switched carriesUsed.sub_eq switch.request) sessions step, ?_⟩
    intro other made response switched
    rcases List.mem_append.mp made with before | last
    · exact confined other before response switched
    · rw [List.mem_singleton.mp last] at switched ⊢
      rcases sessions switch.request.token step.1 with ⟨claims, carriesUsed, same⟩
      exact confined_of_switch carriesUsed (same.moves moves) same.grant isStored switched

/-- A grant covers what it offers and offers nothing twice just when the scope that is granted
itself is stored and nothing is proposed twice; every chain of switches with the grant stays
below it while the scope that is granted itself is stored. -/
theorem grant_confines (stored : Stored) (grant : ScopeGrant) :
    (BelowCap stored grant →
      (OffersCovered stored grant ↔
        GrantedStored stored grant ∧ ProposedOnce stored grant)) ∧
    ∀ (first : Jwt.JwtClaims) token trace tokens, Carries token first → MovesWithinGrant first →
      Run (fun tokens (switch : StoredSwitch) next => SwitchStep tokens switch.request next ∧
        GrantedStored switch.stored (grantOf first)) [token] trace tokens →
      ReachesConfined (grantOf first) trace :=
  ⟨offersCovered_iff,
    fun _ _ _ _ carries moves run => reachesConfined_of_run carries moves run⟩

/-! ## A scope that has moved -/

/-- The scope "profile" of the merchant "second", after it has moved from "first". -/
def moved : Hierarchy :=
  ⟨shapeVersion, "org", none, "second", none, none, none⟩

def movedStored : Stored :=
  (((Stored.mk [⟨"profile", some (mergeIntoMetadata none moved)⟩] fun _ => none).storeMerchant
    "first" ⟨shapeVersion, none, some "org", ["profile"]⟩).storeMerchant
      "second" ⟨shapeVersion, none, some "org", ["profile"]⟩).storeOrg
        "org" ⟨shapeVersion, none, ["first", "second"]⟩

/-- The scope is offered twice to who is granted the organisation. -/
theorem grant_confines_counterexample :
    ¬ ((∀ stored grant, BelowCap stored grant → OffersCovered stored grant) ∧
      ∀ (first : Jwt.JwtClaims) token trace tokens, Carries token first → MovesWithinGrant first →
        Run (fun tokens (switch : StoredSwitch) next => SwitchStep tokens switch.request next)
          [token] trace tokens →
        ReachesConfined (grantOf first) trace) := by
  rintro ⟨offers, -⟩
  have below : BelowCap movedStored ⟨.org, "org"⟩ := fun _ => by decide +kernel
  have twice : (scopesForGrant movedStored ⟨.org, "org"⟩).map GrantedScope.profileId =
      ["profile", "profile"] := by decide +kernel
  have once := (offers movedStored ⟨.org, "org"⟩ below).once
  rw [twice] at once
  exact absurd once (by decide)

theorem read_at_once : (1500 : Int) ≤ 1500 :=
  le_rfl

/-- A switch of the handed-over session while its scope is stored. -/
def storedSwitch : StoredSwitch where
  stored := movedStored
  token := handedOverToken
  merchantId := "profile"
  readings := ⟨1500, 1500, 1500, read_at_once, read_at_once, by decide⟩
  jti := "second"
  denied := fun _ => false
  userMerchants := fun _ => none
  jwtExpirySeconds := 3600

theorem grant_confines_stored :
    OffersCovered movedStored ⟨.merchant, "second"⟩ ∧
      ReachesConfined (grantOf handedOver) [storedSwitch] := by
  have listed : candidates movedStored ⟨.merchant, "second"⟩ = ["profile"] := by decide +kernel
  constructor
  · have below : BelowCap movedStored ⟨.merchant, "second"⟩ := fun _ => by decide +kernel
    refine ((grant_confines movedStored ⟨.merchant, "second"⟩).1 below).mpr ⟨nofun, ?_⟩
    intro profileId _
    rw [listed]
    exact List.count_le_length
  · have step : SwitchStep [handedOverToken] storedSwitch.request
        (tokensAfter [handedOverToken] storedSwitch.request) :=
      ⟨List.mem_singleton_self _, rfl⟩
    exact (grant_confines movedStored ⟨.profile, "profile"⟩).2 handedOver handedOverToken _ _
      carries_handedOver (.inl rfl) (.single ⟨step, fun _ => by decide +kernel⟩)

end DecisionEngine.Merchant
