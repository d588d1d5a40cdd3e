import DecisionEngine.Auth.Authenticate

/-!
# Permissions that cannot be read

A session names its permissions in a claim, and a claim that cannot be read is as good as none.
A session without one holds everything, unless it was handed over and permissions have to be
explicit.  So a session gains by a malformed claim what the list in its place leaves out.
-/

namespace DecisionEngine.Auth.Jwt

open Json

/-! ## Requests of a session -/

/-- The claims that a token is accepted with, unless its session is revoked. -/
def acceptedClaims (reading : Int) (revoked : String → Bool) (payload : Value) :
    Option JwtClaims :=
  (verifyJwt reading payload).toOption.filter fun claims => !revoked claims.jti

/-- A request and what it finds: the clock, the revoked sessions, its method and route, the
other credentials and the keys. -/
structure SessionRequest where
  reading : Int
  revoked : String → Bool
  method : Method
  matchedPath : Option String
  adminSecret : Option String
  apiKey : Option String
  calls : AuthCalls
  store : ApiKeyStore

variable (config : MiddlewareConfig)

/-- The session of a token may make a request. -/
def MayMake (payload : Value) (request : SessionRequest) : Prop :=
  ∃ context, (authenticate config request.method request.matchedPath
    ⟨some (acceptedClaims request.reading request.revoked payload), request.adminSecret,
      request.apiKey⟩ request.calls request.store).1 = .admitted context

/-- A request is made by a session that holds what it requires. -/
theorem mayMake_iff {config : MiddlewareConfig} {payload : Value} {request : SessionRequest} :
    MayMake config payload request ↔
      ∃ claims, acceptedClaims request.reading request.revoked payload = some claims ∧
        requiredPermission request.method request.matchedPath ∈
          claims.permissions config.requireExplicitPermissions := by
  rw [MayMake]
  cases acceptedClaims request.reading request.revoked payload with
  | none => simp [authenticate]
  | some claims =>
      by_cases held : requiredPermission request.method request.matchedPath ∈
          claims.permissions config.requireExplicitPermissions
      · simp [authenticate, AuthContext.allows, AuthContext.fromJwt, held]
      · simp [authenticate, AuthContext.allows, AuthContext.fromJwt, held]

/-! ## Two tokens -/

/-- Two payloads that are equal but for the permissions, which one of them lists and the other
has something else in place of. -/
structure DifferInPerms (listed malformed : Value) (held : List Permission) : Prop where
  others : ∀ name, name ≠ "perms" → malformed.get name = listed.get name
  list : ∃ value, listed.get "perms" = some value ∧ permsOfValue value = some held
  other : ∃ value, malformed.get "perms" = some value ∧ permsOfValue value = none

section Tokens

variable {listed malformed : Value} {held : List Permission}

theorem numberClaim_congr {name : String} (same : malformed.get name = listed.get name) :
    numberClaim malformed name = numberClaim listed name := by
  rw [numberClaim, numberClaim, same]

/-- The malformed token has the claims of the other, without permissions. -/
theorem DifferInPerms.readClaims_eq (differ : DifferInPerms listed malformed held) (exp : Nat) :
    readClaims malformed exp =
      (readClaims listed exp).map fun claims => { claims with perms := none } := by
  obtain ⟨value, isOther, unreadable⟩ := differ.other
  have text : ∀ name, name ≠ "perms" → textClaim malformed name = textClaim listed name :=
    fun name notPerms => by rw [textClaim, textClaim, differ.others name notPerms]
  rw [readClaims, readClaims, text "sub" (by decide), text "email" (by decide),
    text "merchant_id" (by decide), text "role" (by decide), text "jti" (by decide),
    numberClaim_congr (differ.others "iat" (by decide)), differ.others "token_type" (by decide),
    differ.others "grant" (by decide), isOther, Option.bind_some, unreadable]
  cases textClaim listed "sub" <;> cases textClaim listed "email" <;>
    cases textClaim listed "merchant_id" <;> cases textClaim listed "role" <;>
    cases textClaim listed "jti" <;> cases numberClaim listed "iat" <;> rfl

theorem DifferInPerms.verifyJwt_eq (differ : DifferInPerms listed malformed held)
    (reading : Int) :
    verifyJwt reading malformed =
      (verifyJwt reading listed).map fun claims => { claims with perms := none } := by
  rw [verifyJwt, verifyJwt, numberClaim_congr (differ.others "exp" (by decide))]
  cases sinceEpoch reading with
  | error failure => rfl
  | ok now =>
      cases numberClaim listed "exp" with
      | error failure => rfl
      | ok exp =>
          change (if exp < now then .error .tokenExpired else readClaims malformed exp) =
            Except.map _ (if exp < now then .error .tokenExpired else readClaims listed exp)
          split
          · rfl
          · exact differ.readClaims_eq exp

theorem DifferInPerms.acceptedClaims_eq (differ : DifferInPerms listed malformed held)
    (reading : Int) (revoked : String → Bool) :
    acceptedClaims reading revoked malformed =
      (acceptedClaims reading revoked listed).map fun claims => { claims with perms := none } := by
  rw [acceptedClaims, acceptedClaims, differ.verifyJwt_eq]
  cases verifyJwt reading listed with
  | error failure => rfl
  | ok claims =>
      change Option.filter _ (some { claims with perms := none }) =
        Option.map _ (Option.filter _ (some claims))
      rw [Option.filter_some, Option.filter_some]
      cases revoked claims.jti <;> rfl

/-- The claims that are accepted are those that the payload carries. -/
theorem acceptedClaims_eq_some_iff {reading : Int} {revoked : String → Bool}
    {payload : Value} {claims : JwtClaims} :
    acceptedClaims reading revoked payload = some claims ↔
      Carries payload claims ∧ 0 ≤ reading ∧ reading.toNat ≤ claims.exp ∧
        revoked claims.jti = false := by
  rw [acceptedClaims, Option.filter_eq_some_iff, ← and_assoc, ← and_assoc,
    and_assoc (a := Carries _ _), ← verifyJwt_eq_ok]
  cases verifyJwt reading payload <;> simp [Except.toOption]

theorem DifferInPerms.perms_eq (differ : DifferInPerms listed malformed held)
    {claims : JwtClaims} (carries : Carries listed claims) : claims.perms = some held := by
  obtain ⟨value, isList, readable⟩ := differ.list
  have read := carries.2
  simp only [readClaims, Transition.bind_eq_ok, pure, Except.pure, Except.ok.injEq] at read
  rcases read with ⟨_, -, _, -, _, -, _, -, _, -, _, -, same⟩
  rw [← same, isList, Option.bind_some, readable]

end Tokens

/-- The session of the second token may make no request that the first may not. -/
def NeverGains (listed malformed : Value) : Prop :=
  ∀ request, MayMake config malformed request → MayMake config listed request

/-- A request by a method to a route that is not among those that only read. -/
def plainRequest (method : Method) : SessionRequest where
  reading := 0
  revoked := fun _ => false
  method := method
  matchedPath := none
  adminSecret := none
  apiKey := none
  calls := ⟨0, true, true, true, true⟩
  store := ⟨.empty, fun _ => none⟩

theorem requiredPermission_eq (method : Method) (matchedPath : Option String) :
    requiredPermission method matchedPath = .routingRead ∨
      requiredPermission method matchedPath = .routingWrite := by
  unfold requiredPermission
  split
  · exact .inl rfl
  · split
    · exact .inl rfl
    · exact .inr rfl

/-- A session without permissions may do everything or nothing. -/
theorem mem_permissions_of_unnamed {claims : JwtClaims} (unnamed : claims.perms = none)
    (requireExplicitPermissions : Bool) (method : Method) (matchedPath : Option String) :
    requiredPermission method matchedPath ∈ claims.permissions requireExplicitPermissions ↔
      ¬(requireExplicitPermissions = true ∧ claims.tokenType = tokenTypeHsRedirect) := by
  have known : requiredPermission method matchedPath ∈ knownPermissions := by
    rcases requiredPermission_eq method matchedPath with isRead | isWrite
    · simp [isRead, knownPermissions]
    · simp [isWrite, knownPermissions]
  rw [JwtClaims.permissions, unnamed]
  by_cases refused : requireExplicitPermissions = true ∧ claims.tokenType = tokenTypeHsRedirect
  · simp [refused]
  · have granted :
        ¬(requireExplicitPermissions && claims.tokenType = tokenTypeHsRedirect) = true := by
      simpa using refused
    simp only [if_neg granted, known, refused, not_false_eq_true]

/-- A malformed claim never grants exactly when the session was handed over and permissions
have to be explicit, or the list in its place has all of them. -/
theorem neverGains_iff {listed malformed : Value} {held : List Permission}
    (differ : DifferInPerms listed malformed held) {claims : JwtClaims}
    (carries : Carries listed claims) :
    NeverGains config listed malformed ↔
      (config.requireExplicitPermissions = true ∧ claims.tokenType = tokenTypeHsRedirect) ∨
        (.routingRead ∈ held ∧ .routingWrite ∈ held) := by
  have named := differ.perms_eq carries
  have sameClaims : ∀ {request : SessionRequest} {accepted},
      acceptedClaims request.reading request.revoked listed = some accepted →
        accepted = claims :=
    fun accepted => (acceptedClaims_eq_some_iff.mp accepted).1.unique carries
  have listedMay : ∀ request, MayMake config listed request →
      requiredPermission request.method request.matchedPath ∈ held := by
    intro request may
    obtain ⟨accepted, isAccepted, isHeld⟩ := mayMake_iff.mp may
    rw [sameClaims isAccepted, JwtClaims.permissions, named] at isHeld
    exact isHeld
  have malformedMay : ∀ request, MayMake config malformed request ↔
      (∃ accepted, acceptedClaims request.reading request.revoked listed = some accepted) ∧
        ¬(config.requireExplicitPermissions = true ∧
          claims.tokenType = tokenTypeHsRedirect) := by
    intro request
    rw [mayMake_iff, differ.acceptedClaims_eq]
    cases isAccepted : acceptedClaims request.reading request.revoked listed with
    | none => simp
    | some accepted =>
        have unnamed := fun refused => mem_permissions_of_unnamed
          (rfl : ({ claims with perms := none } : JwtClaims).perms = none) refused
          request.method request.matchedPath
        rw [sameClaims isAccepted]
        simp [unnamed]
  constructor
  · intro never
    by_cases refused : config.requireExplicitPermissions = true ∧
        claims.tokenType = tokenTypeHsRedirect
    · exact .inl refused
    · have may : ∀ method, MayMake config malformed (plainRequest method) := fun method =>
        (malformedMay _).mpr ⟨⟨claims, acceptedClaims_eq_some_iff.mpr
          ⟨carries, le_rfl, Nat.zero_le _, rfl⟩⟩, refused⟩
      exact .inr ⟨listedMay _ (never _ (may .get)), listedMay _ (never _ (may .put))⟩
  · intro condition request may
    obtain ⟨⟨accepted, isAccepted⟩, notRefused⟩ := (malformedMay request).mp may
    obtain ⟨reads, writes⟩ := condition.resolve_left notRefused
    refine mayMake_iff.mpr ⟨accepted, isAccepted, ?_⟩
    rw [sameClaims isAccepted, JwtClaims.permissions, named]
    rcases requiredPermission_eq request.method request.matchedPath with isRead | isWrite
    · exact isRead ▸ reads
    · exact isWrite ▸ writes

/-! ## A session that gains -/

def strictConfig (requireExplicitPermissions : Bool) : MiddlewareConfig :=
  ⟨"", true, requireExplicitPermissions, fun key => key⟩

/-- A session of a user that may only read. -/
def readerClaims : JwtClaims :=
  ⟨"u", "u", "e", "m", "member", tokenTypeStandard, "j", 10, 0, none, some [.routingRead]⟩

def readerPayload : Value :=
  scopedPayload "u" "e" "m" "member" tokenTypeStandard "j" none (some [.routingRead]) 0 10

theorem carries_readerPayload : Carries readerPayload readerClaims := by
  refine carries_scopedPayload ?_ (by decide) (by decide)
  rintro held ⟨⟩
  simp [Readable, asStr, permissionOf]

/-- The same session with a text in place of its permissions. -/
def unreadablePayload : Value :=
  (readerPayload.set "perms" (.string "routing:read")).getD .null

theorem differInPerms_unreadablePayload :
    DifferInPerms readerPayload unreadablePayload [.routingRead] := by
  have isSet : readerPayload.set "perms" (.string "routing:read") = some unreadablePayload := rfl
  refine ⟨fun name notPerms => Value.get_set_of_ne isSet notPerms.symm, ?_, ?_⟩
  · exact ⟨_, get_scopedPayload "perms", rfl⟩
  · exact ⟨_, Value.get_set_self isSet, rfl⟩

theorem neverGains_reader :
    NeverGains (strictConfig true) readerPayload unreadablePayload ↔
      ((strictConfig true).requireExplicitPermissions = true ∧
          readerClaims.tokenType = tokenTypeHsRedirect) ∨
        (.routingRead ∈ [Permission.routingRead] ∧ .routingWrite ∈ [Permission.routingRead]) :=
  neverGains_iff (strictConfig true) differInPerms_unreadablePayload carries_readerPayload

/-- With a list the session may not write, and with a text it may. -/
theorem neverGains_counterexample :
    ¬NeverGains (strictConfig true) readerPayload unreadablePayload := by
  intro never
  have accepted : acceptedClaims 0 (fun _ => false) readerPayload = some readerClaims :=
    acceptedClaims_eq_some_iff.mpr ⟨carries_readerPayload, le_rfl, by decide, rfl⟩
  have may : MayMake (strictConfig true) unreadablePayload (plainRequest .put) := by
    refine mayMake_iff.mpr ⟨{ readerClaims with perms := none }, ?_, ?_⟩
    · exact (differInPerms_unreadablePayload.acceptedClaims_eq 0 fun _ => false).trans
        (by rw [accepted]; rfl)
    · decide
  obtain ⟨claims, isClaims, isHeld⟩ := mayMake_iff.mp (never _ may)
  rw [show claims = readerClaims from Option.some.inj (isClaims.symm.trans accepted)] at isHeld
  revert isHeld
  decide

end DecisionEngine.Auth.Jwt
