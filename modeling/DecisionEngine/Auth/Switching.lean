import DecisionEngine.Auth.Jwt
import DecisionEngine.Transition.Run

/-!
# Switching between merchants

A session that was handed over, or with which a super admin views a merchant, moves within
the node that it was granted: every switch verifies a token and mints the next one from its
claims, with the lifetime that is left.  The clock is read once to verify the token, once
for the lifetime that is left and once to mint.

A chain of switches keeps the user, the role, the type, the grant and the permissions.  It
keeps the expiry when the last two readings of every switch are of one second.
-/

namespace DecisionEngine.Auth.Jwt

open Json Transition

/-! ## Requests -/

/-- The readings of the clock during one request, in seconds since the epoch. -/
structure ClockReadings where
  verify : Int
  remaining : Int
  mint : Int
  verify_le : verify ≤ remaining
  remaining_le : remaining ≤ mint
  bounded : mint < 2 ^ 63

/-- What a request meets with: the clock, the token id that it draws, the denylist, what the
grants cover, and the merchants of the user unless they cannot be fetched. -/
structure SwitchSurroundings where
  readings : ClockReadings
  jti : String
  denied : String → Bool
  covers : ScopeGrant → String → Bool
  grantedMerchants : ScopeGrant → String → List MerchantInfo
  userMerchants : String → Option (List MerchantInfo)
  jwtExpirySeconds : Nat

structure SwitchRequest where
  token : Value
  merchantId : String
  around : SwitchSurroundings

/-- `AuthResponse` with the token as it is signed. -/
structure SwitchResponse where
  token : Value
  userId : String
  email : String
  merchantId : String
  role : String
  merchants : List MerchantInfo

/-- A token without a grant covers the merchant that it is for. -/
def grantOf (claims : JwtClaims) : ScopeGrant :=
  claims.grant.getD (.profile claims.merchantId)

section Handlers

variable (around : SwitchSurroundings)

def verifyJwtNotRevoked (token : Value) : Except UserAuthError JwtClaims := do
  let claims ← (verifyJwt around.readings.verify token).mapError fun _ => .invalidToken
  if around.denied claims.jti then .error .invalidToken else pure claims

def switchWithinMemberships (claims : JwtClaims) (merchantId : String) :
    Except UserAuthError SwitchResponse := do
  let merchants ← (around.userMerchants claims.userId).elim (.error .storageError) .ok
  let target ← (merchants.find? fun info => info.merchantId = merchantId).elim
    (.error .merchantNotFound) .ok
  let token ← (generateJwt around.jti around.readings.mint claims.userId claims.email
    target.merchantId target.role tokenTypeStandard around.jwtExpirySeconds).mapError
    fun _ => .tokenGenerationFailed
  pure ⟨token, claims.userId, claims.email, target.merchantId, target.role, merchants⟩

def switchWithinGrant (claims : JwtClaims) (merchantId : String) :
    Except UserAuthError SwitchResponse := do
  let grant := grantOf claims
  if !around.covers grant merchantId then .error .forbidden
  else
    let remaining := claims.exp - unixNow around.readings.remaining
    let token ← (generateScopedJwt around.jti around.readings.mint claims.userId claims.email
      merchantId claims.role claims.tokenType (some grant) claims.perms remaining).mapError
      fun _ => .tokenGenerationFailed
    pure ⟨token, claims.userId, claims.email, merchantId, claims.role,
      around.grantedMerchants grant claims.role⟩

end Handlers

def switchMerchant (request : SwitchRequest) : Except UserAuthError SwitchResponse := do
  let claims ← verifyJwtNotRevoked request.around request.token
  if claims.tokenType = tokenTypeStandard then
    switchWithinMemberships request.around claims request.merchantId
  else if claims.tokenType = tokenTypeHsRedirect ∨ claims.tokenType = tokenTypeSuperAdminView then
    switchWithinGrant request.around claims request.merchantId
  else .error .unsupportedOperation

/-! ## Chains -/

/-- The tokens that have been derived from a first one, which is the head. -/
def tokensAfter (tokens : List Value) (request : SwitchRequest) : List Value :=
  match switchMerchant request with
  | .ok response => tokens ++ [response.token]
  | .error _ => tokens

/-- A request is made with a token that has been derived. -/
def SwitchStep (tokens : List Value) (request : SwitchRequest) (next : List Value) : Prop :=
  request.token ∈ tokens ∧ next = tokensAfter tokens request

/-- A session that moves within a grant. -/
def MovesWithinGrant (claims : JwtClaims) : Prop :=
  claims.tokenType = tokenTypeHsRedirect ∨ claims.tokenType = tokenTypeSuperAdminView

variable {claims : JwtClaims}

theorem MovesWithinGrant.ne_standard (moves : MovesWithinGrant claims) :
    claims.tokenType ≠ tokenTypeStandard := by
  rcases moves with isType | isType <;> rw [isType] <;> decide

/-- The same user with the same role, type, grant and permissions. -/
structure SameSession (first derived : JwtClaims) : Prop where
  sub : derived.sub = first.sub
  userId : derived.userId = first.userId
  email : derived.email = first.email
  role : derived.role = first.role
  tokenType : derived.tokenType = first.tokenType
  grant : grantOf derived = grantOf first
  permissions : ∀ requireExplicitPermissions,
    derived.permissions requireExplicitPermissions = first.permissions requireExplicitPermissions

/-- A session that is the same and is not over later. -/
structure WithinSession (first derived : JwtClaims) : Prop extends SameSession first derived where
  exp : derived.exp ≤ first.exp

/-- The lifetime that is left is computed before the expiry, and the token is minted in the
same second. -/
def Punctual (exp : Nat) (request : SwitchRequest) : Prop :=
  unixNow request.around.readings.remaining ≤ exp ∧
    request.around.readings.mint = request.around.readings.remaining

/-! ## One switch -/

variable {around : SwitchSurroundings} {merchantId : String} {response : SwitchResponse}

theorem switchWithinGrant_eq_ok {claims : JwtClaims}
    (switched : switchWithinGrant around claims merchantId = .ok response) :
    around.covers (grantOf claims) merchantId = true ∧ response.merchantId = merchantId ∧
      response.token = scopedPayload claims.userId claims.email merchantId claims.role
        claims.tokenType around.jti (some (grantOf claims)) claims.perms
        around.readings.mint.toNat
        ((around.readings.mint.toNat +
          (claims.exp - unixNow around.readings.remaining)) % 2 ^ 64) := by
  rw [switchWithinGrant] at switched
  dsimp only at switched
  split at switched
  · cases switched
  · next covered =>
      rcases bind_eq_ok.mp switched with ⟨token, minted, returned⟩
      rcases bind_eq_ok.mp (mapError_eq_ok.mp minted) with ⟨now, isNow, isToken⟩
      rw [sinceEpoch] at isNow
      split at isNow
      · cases isNow
      · cases isNow
        cases isToken
        cases returned
        exact ⟨by simpa using covered, rfl, rfl⟩

variable {request : SwitchRequest}

/-- A switch with a token that moves within a grant. -/
theorem switchMerchant_eq_ok {claims : JwtClaims} (carries : Carries request.token claims)
    (moves : MovesWithinGrant claims) (switched : switchMerchant request = .ok response) :
    switchWithinGrant request.around claims request.merchantId = .ok response := by
  rcases bind_eq_ok.mp switched with ⟨verified, isVerified, switched⟩
  rcases bind_eq_ok.mp isVerified with ⟨read, isRead, notDenied⟩
  have same := (verifyJwt_eq_ok.mp (mapError_eq_ok.mp isRead)).1.unique carries
  rw [same] at notDenied
  split at notDenied
  · cases notDenied
  · cases notDenied
    have notStandard : claims.tokenType ≠ tokenTypeStandard := moves.ne_standard
    rw [MovesWithinGrant] at moves
    rwa [if_neg notStandard, if_pos moves] at switched

theorem switchWithinGrant_of_covers {claims : JwtClaims}
    (covered : around.covers (grantOf claims) merchantId = true)
    (notBefore : 0 ≤ around.readings.mint) :
    switchWithinGrant around claims merchantId =
      .ok ⟨scopedPayload claims.userId claims.email merchantId claims.role claims.tokenType
          around.jti (some (grantOf claims)) claims.perms around.readings.mint.toNat
          ((around.readings.mint.toNat +
            (claims.exp - unixNow around.readings.remaining)) % 2 ^ 64),
        claims.userId, claims.email, merchantId, claims.role,
        around.grantedMerchants (grantOf claims) claims.role⟩ := by
  simp [switchWithinGrant, covered, generateScopedJwt, sinceEpoch, Int.not_lt.mpr notBefore,
    Except.mapError, bind, Except.bind, pure, Except.pure]

/-- A token that is not over and not denied can be switched to what its grant covers. -/
theorem switchMerchant_of_covers {claims : JwtClaims} (carries : Carries request.token claims)
    (moves : MovesWithinGrant claims) (notBefore : 0 ≤ request.around.readings.verify)
    (notOver : request.around.readings.verify.toNat ≤ claims.exp)
    (notDenied : request.around.denied claims.jti = false)
    (covered : request.around.covers (grantOf claims) request.merchantId = true) :
    ∃ response, switchMerchant request = .ok response := by
  have verified : verifyJwtNotRevoked request.around request.token = .ok claims := by
    simp [verifyJwtNotRevoked, verifyJwt_eq_ok.mpr ⟨carries, notBefore, notOver⟩, notDenied,
      Except.mapError, bind, Except.bind, pure, Except.pure]
  have notStandard : claims.tokenType ≠ tokenTypeStandard := moves.ne_standard
  have mintLater : 0 ≤ request.around.readings.mint :=
    notBefore.trans (request.around.readings.verify_le.trans request.around.readings.remaining_le)
  have switched := switchWithinGrant_of_covers covered mintLater
  have withinGrant : switchMerchant request =
      switchWithinGrant request.around claims request.merchantId := by
    rw [switchMerchant, verified]
    change (if claims.tokenType = tokenTypeStandard then _ else _) = _
    rw [MovesWithinGrant] at moves
    rw [if_neg notStandard, if_pos moves]
  exact ⟨_, withinGrant.trans switched⟩

/-- The session of the token that a switch mints. -/
def switchedClaims (request : SwitchRequest) (claims : JwtClaims) : JwtClaims where
  sub := claims.userId
  userId := claims.userId
  email := claims.email
  merchantId := request.merchantId
  role := claims.role
  tokenType := claims.tokenType
  jti := request.around.jti
  exp := (request.around.readings.mint.toNat +
    (claims.exp - unixNow request.around.readings.remaining)) % 2 ^ 64
  iat := request.around.readings.mint.toNat
  grant := some (grantOf claims)
  perms := claims.perms

theorem carries_switched {claims : JwtClaims} (carries : Carries request.token claims)
    (moves : MovesWithinGrant claims) (switched : switchMerchant request = .ok response) :
    Carries response.token (switchedClaims request claims) := by
  rw [(switchWithinGrant_eq_ok (switchMerchant_eq_ok carries moves switched)).2.2]
  have bounded := request.around.readings.bounded
  exact carries_scopedPayload carries.readable (by omega) (Nat.mod_lt _ (by decide))

/-- A switch keeps everything of a session but its merchant and its expiry. -/
theorem SameSession.switched {first claims : JwtClaims} (same : SameSession first claims)
    (isSub : claims.sub = claims.userId) (request : SwitchRequest) :
    SameSession first (switchedClaims request claims) where
  sub := isSub.symm.trans same.sub
  userId := same.userId
  email := same.email
  role := same.role
  tokenType := same.tokenType
  grant := same.grant
  permissions := same.permissions

/-- A punctual switch keeps the expiry. -/
theorem exp_switchedClaims {claims : JwtClaims} (small : claims.exp < 2 ^ 64)
    (punctual : Punctual claims.exp request) :
    (switchedClaims request claims).exp = claims.exp := by
  rcases punctual with ⟨notOver, sameSecond⟩
  rw [unixNow] at notOver
  have sum : request.around.readings.mint.toNat +
      (claims.exp - unixNow request.around.readings.remaining) = claims.exp := by
    rw [sameSecond, unixNow]
    omega
  change _ % 2 ^ 64 = _
  rw [sum, Nat.mod_eq_of_lt small]

/-! ## Chains of switches -/

theorem SameSession.refl (claims : JwtClaims) : SameSession claims claims :=
  ⟨rfl, rfl, rfl, rfl, rfl, rfl, fun _ => rfl⟩

theorem SameSession.moves {first claims : JwtClaims} (same : SameSession first claims)
    (moves : MovesWithinGrant first) : MovesWithinGrant claims := by
  rw [MovesWithinGrant, same.tokenType]
  exact moves

variable {tokens : List Value}

/-- A token that is derived is one that was there or one of a switch. -/
theorem mem_tokensAfter {request : SwitchRequest} {token : Value}
    (derived : token ∈ tokensAfter tokens request) :
    token ∈ tokens ∨
      ∃ response, switchMerchant request = .ok response ∧ token = response.token := by
  rw [tokensAfter] at derived
  split at derived
  · next response switched =>
      rcases List.mem_append.mp derived with old | isNew
      · exact .inl old
      · exact .inr ⟨response, switched, List.mem_singleton.mp isNew⟩
  · exact .inl derived

variable {property : JwtClaims → Prop}

/-- A switch keeps a property that all sessions have. -/
theorem forall_derived_of_step (moves : ∀ claims, property claims → MovesWithinGrant claims)
    {next : List Value} {request : SwitchRequest}
    (keeps : ∀ claims, Carries request.token claims → property claims →
      property (switchedClaims request claims))
    (holds : ∀ derived ∈ tokens, ∃ claims, Carries derived claims ∧ property claims)
    (step : SwitchStep tokens request next) :
    ∀ derived ∈ next, ∃ claims, Carries derived claims ∧ property claims := by
  rcases step with ⟨used, rfl⟩
  intro derived isDerived
  rcases mem_tokensAfter isDerived with old | ⟨response, switched, rfl⟩
  · exact holds derived old
  · rcases holds request.token used with ⟨claims, carriesUsed, held⟩
    exact ⟨switchedClaims request claims, carries_switched carriesUsed (moves _ held) switched,
      keeps claims carriesUsed held⟩

/-- Every chain keeps a property of sessions that a switch keeps. -/
theorem forall_derived_of_run {first : JwtClaims} {token : Value} {allowed : SwitchRequest → Prop}
    {property : JwtClaims → Prop} (carries : Carries token first) (initially : property first)
    (moves : ∀ claims, property claims → MovesWithinGrant claims)
    (keeps : ∀ request claims, Carries request.token claims → property claims → allowed request →
      property (switchedClaims request claims))
    {trace : List SwitchRequest} {tokens : List Value}
    (run : Run (fun tokens request next => SwitchStep tokens request next ∧ allowed request)
      [token] trace tokens) :
    ∀ derived ∈ tokens, ∃ claims, Carries derived claims ∧ property claims := by
  refine run.invariant
    (fun _ tokens => ∀ derived ∈ tokens, ∃ claims, Carries derived claims ∧ property claims) ?_ ?_
  · intro derived isFirst
    rw [List.mem_singleton.mp isFirst]
    exact ⟨first, carries, initially⟩
  · rintro trace tokens request next holds ⟨step, allowedRequest⟩
    exact forall_derived_of_step moves
      (fun claims carriesUsed held => keeps request claims carriesUsed held allowedRequest) holds
      step

variable {first : JwtClaims} {token : Value}

/-- Every chain keeps the session but for its merchant and its expiry. -/
theorem sameSession_of_run (carries : Carries token first) (moves : MovesWithinGrant first)
    {trace : List SwitchRequest} {tokens : List Value} (run : Run SwitchStep [token] trace tokens) :
    ∀ derived ∈ tokens, ∃ claims, Carries derived claims ∧ SameSession first claims := by
  have allowedRun : Run (fun tokens request next => SwitchStep tokens request next ∧ True) [token]
      trace tokens := run.mono fun _ _ _ step => ⟨step, trivial⟩
  refine forall_derived_of_run carries (.refl first) (fun _ same => same.moves moves) ?_ allowedRun
  intro request claims carriesUsed same _
  exact same.switched carriesUsed.sub_eq request

/-- A chain of punctual switches never escalates. -/
theorem withinSession_of_run {first : JwtClaims} {token : Value} (carries : Carries token first)
    (moves : MovesWithinGrant first) {trace : List SwitchRequest} {tokens : List Value}
    (run : Run (fun tokens request next =>
      SwitchStep tokens request next ∧ Punctual first.exp request) [token] trace tokens) :
    ∀ derived ∈ tokens, ∃ claims, Carries derived claims ∧ WithinSession first claims := by
  have kept : ∀ derived ∈ tokens, ∃ claims, Carries derived claims ∧
      (SameSession first claims ∧ claims.exp = first.exp) := by
    refine forall_derived_of_run carries ⟨.refl first, rfl⟩ (fun _ held => held.1.moves moves) ?_
      run
    rintro request claims carriesUsed ⟨same, sameExp⟩ punctual
    rw [← sameExp] at punctual ⊢
    exact ⟨same.switched carriesUsed.sub_eq request, exp_switchedClaims carriesUsed.exp_lt punctual⟩
  intro derived isDerived
  rcases kept derived isDerived with ⟨claims, carriesDerived, same, sameExp⟩
  exact ⟨claims, carriesDerived, same, sameExp.le⟩

/-! ## A switch across a second -/

/-- The session of a handoff at second 1000 for a quarter of an hour. -/
def handedOver : JwtClaims where
  sub := "hs_profile"
  userId := "hs_profile"
  email := ""
  merchantId := "profile"
  role := "admin"
  tokenType := tokenTypeHsRedirect
  jti := "first"
  exp := 1900
  iat := 1000
  grant := some ⟨.profile, "profile"⟩
  perms := none

def handedOverToken : Value :=
  scopedPayload "hs_profile" "" "profile" "admin" tokenTypeHsRedirect "first"
    (some ⟨.profile, "profile"⟩) none 1000 1900

/-- A switch at second 1500 that is minted at the given second. -/
def switchAt (token : Value) (mint : Int) (later : 1500 ≤ mint) (bounded : mint < 2 ^ 63) :
    SwitchRequest where
  token
  merchantId := "profile"
  around :=
    { readings := ⟨1500, 1500, mint, le_rfl, later, bounded⟩
      jti := "second"
      denied := fun _ => false
      covers := fun grant merchantId => grant = ⟨.profile, merchantId⟩
      grantedMerchants := fun _ _ => []
      userMerchants := fun _ => none
      jwtExpirySeconds := 3600 }

theorem carries_handedOver : Carries handedOverToken handedOver :=
  carries_scopedPayload (fun _ isHeld => by cases isHeld) (by decide) (by decide)

theorem switchStep_switchAt {claims : JwtClaims} {token : Value} {tokens : List Value} {mint : Int}
    (carries : Carries token claims) (moves : MovesWithinGrant claims)
    (isGrant : grantOf claims = ⟨.profile, "profile"⟩) (notOver : 1500 ≤ claims.exp)
    (listed : token ∈ tokens) (later : 1500 ≤ mint) (bounded : mint < 2 ^ 63) :
    ∃ response, switchMerchant (switchAt token mint later bounded) = .ok response ∧
      SwitchStep tokens (switchAt token mint later bounded) (tokens ++ [response.token]) := by
  have notBefore : (0 : Int) ≤ 1500 := by decide
  have covered : decide (grantOf claims = ⟨.profile, "profile"⟩) = true :=
    decide_eq_true isGrant
  have ofToken : Carries (switchAt token mint later bounded).token claims := carries
  rcases switchMerchant_of_covers ofToken moves notBefore notOver rfl covered with
    ⟨response, switched⟩
  refine ⟨response, switched, listed, ?_⟩
  rw [tokensAfter, switched]

theorem switchStep_handedOver {mint : Int} (later : 1500 ≤ mint) (bounded : mint < 2 ^ 63) :
    ∃ response, switchMerchant (switchAt handedOverToken mint later bounded) = .ok response ∧
      SwitchStep [handedOverToken] (switchAt handedOverToken mint later bounded)
        ([handedOverToken] ++ [response.token]) :=
  switchStep_switchAt carries_handedOver (.inl rfl) rfl (by decide) (List.mem_singleton_self _)
    later bounded

/-- The session of a switch that is minted one second after its lifetime has been computed is
over a second later than the first one. -/
theorem withinSession_of_run_counterexample :
    ¬ ∀ (first : JwtClaims) (token : Value) (trace : List SwitchRequest) (tokens : List Value),
      Carries token first → MovesWithinGrant first → Run SwitchStep [token] trace tokens →
        ∀ derived ∈ tokens, ∃ claims, Carries derived claims ∧ WithinSession first claims := by
  intro always
  have later : (1500 : Int) ≤ 1501 := by decide
  have bounded : (1501 : Int) < 2 ^ 63 := by decide
  rcases switchStep_handedOver later bounded with ⟨response, switched, step⟩
  rcases always handedOver handedOverToken _ _ carries_handedOver (.inl rfl) (.single step)
    response.token (by simp) with ⟨claims, carries, within⟩
  have expires := within.exp
  rw [carries.unique (carries_switched carries_handedOver (.inl rfl) switched)] at expires
  have expiry : ¬ (1501 + (1900 - 1500)) % 2 ^ 64 ≤ 1900 := by decide
  exact expiry expires

/-- A switch across a second, and one with the token that it gives, change no other part of the
session. -/
theorem sameSession_of_run_laterSecond :
    ∃ first second, ∀ derived ∈ [handedOverToken, first, second],
      ∃ claims, Carries derived claims ∧ SameSession handedOver claims := by
  have later : (1500 : Int) ≤ 1501 := by decide
  have bounded : (1501 : Int) < 2 ^ 63 := by decide
  rcases switchStep_handedOver later bounded with ⟨first, switched, step⟩
  have carries := carries_switched carries_handedOver (.inl rfl) switched
  have notOver : 1500 ≤ (1501 + (1900 - 1500)) % 2 ^ 64 := by decide
  rcases switchStep_switchAt carries (.inl rfl) rfl notOver
    (List.mem_append_right _ (List.mem_singleton_self _)) later bounded with ⟨second, -, next⟩
  exact ⟨first.token, second.token,
    sameSession_of_run carries_handedOver (.inl rfl) ((Run.single step).snoc next)⟩

/-- A switch within one second. -/
theorem withinSession_of_run_sameSecond :
    ∃ token, ∀ derived ∈ [handedOverToken, token],
      ∃ claims, Carries derived claims ∧ WithinSession handedOver claims := by
  have bounded : (1500 : Int) < 2 ^ 63 := by decide
  rcases switchStep_handedOver le_rfl bounded with ⟨response, -, step⟩
  have beforeExpiry : Int.toNat 1500 ≤ 1900 := by decide
  exact ⟨response.token, withinSession_of_run carries_handedOver (.inl rfl)
    (.single ⟨step, beforeExpiry, rfl⟩)⟩

end DecisionEngine.Auth.Jwt
