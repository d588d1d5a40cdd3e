import DecisionEngine.Auth.Accounts
import DecisionEngine.Json.Value

/-!
# Session tokens

A token is a signed JSON payload.  Minting writes the claims of a session into a payload,
with the clock read once for the time of issue and the expiry; verifying reads the clock
again and the claims back.  A token stands for the payload that it signs.
-/

namespace DecisionEngine.Auth.Jwt

open Json Transition

/-! ## Claims -/

/-- The claims as they are read from a payload; the token type is a text. -/
structure JwtClaims where
  sub : String
  userId : String
  email : String
  merchantId : String
  role : String
  tokenType : String
  jti : String
  exp : Nat
  iat : Nat
  grant : Option ScopeGrant
  perms : Option (List Permission)

def tokenTypeStandard : String := "standard"
def tokenTypeHsRedirect : String := "hs_redirect"
def tokenTypeSuperAdminView : String := "super_admin_view"

/-- What a session may do; one that names nothing holds everything unless it was handed over
and permissions have to be explicit. -/
def JwtClaims.permissions (claims : JwtClaims) (requireExplicitPermissions : Bool) :
    List Permission :=
  match claims.perms with
  | some held => held
  | none =>
      if requireExplicitPermissions && claims.tokenType = tokenTypeHsRedirect then []
      else knownPermissions

inductive AuthError where
  | systemTime
  | missingClaim (name : String)
  | tokenExpired

/-! ## Encodings -/

def asStr : Permission → String
  | .routingRead => "routing:read"
  | .routingWrite => "routing:write"
  | .unknown raw => raw

def permissionOf (raw : String) : Permission :=
  if raw = "routing:read" then .routingRead
  else if raw = "routing:write" then .routingWrite
  else .unknown raw

def permsToValue (perms : List Permission) : Value :=
  .array (perms.map fun permission => .string (asStr permission))

def permsOfValue (value : Value) : Option (List Permission) := do
  let values ← value.asArray
  values.mapM fun value => value.asString.map permissionOf

def levelName : GrantLevel → String
  | .profile => "profile"
  | .merchant => "merchant"
  | .org => "org"

def levelOfName (name : String) : Option GrantLevel :=
  if name = "profile" then some .profile
  else if name = "merchant" then some .merchant
  else if name = "org" then some .org
  else none

/-- A level is its name, or an object with its name as the only field and null in it. -/
def levelOfValue : Value → Option GrantLevel
  | .string name => levelOfName name
  | .object [(name, .null)] => levelOfName name
  | _ => none

def grantToValue (grant : ScopeGrant) : Value :=
  .ofFields [("level", .string (levelName grant.level)), ("id", .string grant.id)]

/-- A grant is an object with its two fields, or an array of the two. -/
def grantOfValue : Value → Option ScopeGrant
  | .array [level, id] => do
      let level ← levelOfValue level
      let id ← id.asString
      pure ⟨level, id⟩
  | .object fields => do
      let level ← (lookupField "level" fields).bind levelOfValue
      let id ← (lookupField "id" fields).bind Value.asString
      pure ⟨level, id⟩
  | _ => none

theorem permissionOf_asStr_permissionOf (raw : String) :
    permissionOf (asStr (permissionOf raw)) = permissionOf raw := by
  by_cases isRead : raw = "routing:read"
  · subst isRead
    decide
  · by_cases isWrite : raw = "routing:write"
    · subst isWrite
      decide
    · have unknown : permissionOf raw = .unknown raw := by
        rw [permissionOf, if_neg isRead, if_neg isWrite]
      rw [unknown, asStr, unknown]

/-- Permissions as they can be read: one that is known has its own name. -/
def Readable (perms : List Permission) : Prop :=
  ∀ permission ∈ perms, permissionOf (asStr permission) = permission

variable {perms : List Permission}

theorem readable_of_mapM {values : List Value}
    (read : (values.mapM fun value => value.asString.map permissionOf) = some perms) :
    Readable perms := by
  induction values generalizing perms with
  | nil =>
      cases read
      simp [Readable]
  | cons value rest ih =>
      simp only [List.mapM_cons, Option.bind_eq_bind, Option.bind_eq_some_iff,
        Option.map_eq_some_iff, Option.pure_def, Option.some.injEq] at read
      rcases read with ⟨permission, ⟨raw, -, rfl⟩, others, readRest, rfl⟩
      exact List.forall_mem_cons.mpr ⟨permissionOf_asStr_permissionOf raw, ih readRest⟩

theorem readable_of_permsOfValue {value : Value} (read : permsOfValue value = some perms) :
    Readable perms := by
  rcases Option.bind_eq_some_iff.mp read with ⟨values, -, readAll⟩
  exact readable_of_mapM readAll

/-- Permissions that can be read are read as they were written. -/
theorem permsOfValue_permsToValue (readable : Readable perms) :
    permsOfValue (permsToValue perms) = some perms := by
  change (perms.map fun permission => Value.string (asStr permission)).mapM
    (fun value => value.asString.map permissionOf) = some perms
  induction perms with
  | nil => rfl
  | cons permission rest ih =>
      rcases List.forall_mem_cons.mp readable with ⟨first, others⟩
      rw [List.map_cons, List.mapM_cons, ih others]
      simp [Value.asString, first]

theorem levelOfName_levelName (level : GrantLevel) :
    levelOfName (levelName level) = some level := by
  cases level <;> decide

theorem grantOfValue_grantToValue (grant : ScopeGrant) :
    grantOfValue (grantToValue grant) = some grant := by
  rcases grant with ⟨level, id⟩
  simp [grantToValue, Value.ofFields, grantOfValue, lookupField_setField, levelOfValue,
    levelOfName_levelName, Value.asString]

/-! ## The clock -/

/-- Seconds since the epoch; a clock before the epoch reads as none. -/
def unixNow (reading : Int) : Nat :=
  reading.toNat

/-- Seconds since the epoch; a clock before the epoch is an error. -/
def sinceEpoch (reading : Int) : Except AuthError Nat :=
  if reading < 0 then .error .systemTime else .ok reading.toNat

/-! ## Minting and verifying -/

def scopedPayload (userId email merchantId role tokenType jti : String)
    (grant : Option ScopeGrant) (perms : Option (List Permission)) (iat exp : Nat) : Value :=
  .ofFields
    ([("sub", .string userId), ("user_id", .string userId), ("email", .string email),
      ("merchant_id", .string merchantId), ("role", .string role),
      ("token_type", .string tokenType), ("jti", .string jti)] ++
      (grant.map fun grant => ("grant", grantToValue grant)).toList ++
      (perms.map fun perms => ("perms", permsToValue perms)).toList ++
      [("iat", .int iat), ("exp", .int exp)])

/-- The expiry is counted in 64 bits without a check for overflow. -/
def generateScopedJwt (jti : String) (reading : Int) (userId email merchantId role
    tokenType : String) (grant : Option ScopeGrant) (perms : Option (List Permission))
    (expirySeconds : Nat) : Except AuthError Value := do
  let now ← sinceEpoch reading
  pure (scopedPayload userId email merchantId role tokenType jti grant perms now
    ((now + expirySeconds) % 2 ^ 64))

def generateJwt (jti : String) (reading : Int) (userId email merchantId role
    tokenType : String) (expirySeconds : Nat) : Except AuthError Value :=
  generateScopedJwt jti reading userId email merchantId role tokenType none
    (some knownPermissions) expirySeconds

variable (payload : Value)

def textClaim (name : String) : Except AuthError String :=
  ((payload.get name).bind Value.asString).elim (.error (.missingClaim name)) .ok

def numberClaim (name : String) : Except AuthError Nat :=
  ((payload.get name).bind Value.asU64).elim (.error (.missingClaim name)) .ok

/-- The claims of a payload but the expiry.  A token without a type is a standard one; a grant
or permissions that cannot be read are absent. -/
def readClaims (exp : Nat) : Except AuthError JwtClaims := do
  let userId ← textClaim payload "sub"
  let email ← textClaim payload "email"
  let merchantId ← textClaim payload "merchant_id"
  let role ← textClaim payload "role"
  let jti ← textClaim payload "jti"
  let iat ← numberClaim payload "iat"
  pure
    { sub := userId
      userId := userId
      email := email
      merchantId := merchantId
      role := role
      tokenType := ((payload.get "token_type").bind Value.asString).getD tokenTypeStandard
      jti := jti
      exp := exp
      iat := iat
      grant := (payload.get "grant").bind grantOfValue
      perms := (payload.get "perms").bind permsOfValue }

def verifyJwt (reading : Int) (payload : Value) : Except AuthError JwtClaims := do
  let now ← sinceEpoch reading
  let exp ← numberClaim payload "exp"
  if exp < now then .error .tokenExpired else readClaims payload exp

/-- The payload carries the claims. -/
def Carries (claims : JwtClaims) : Prop :=
  numberClaim payload "exp" = .ok claims.exp ∧ readClaims payload claims.exp = .ok claims

theorem exp_of_readClaims {payload : Value} {exp : Nat} {claims : JwtClaims}
    (read : readClaims payload exp = .ok claims) : claims.exp = exp := by
  simp only [readClaims, bind_eq_ok, pure, Except.pure, Except.ok.injEq] at read
  rcases read with ⟨_, -, _, -, _, -, _, -, _, -, _, -, rfl⟩
  rfl

variable {claims : JwtClaims}

/-- A token is good when its claims can be read and its expiry has not passed. -/
theorem verifyJwt_eq_ok {reading : Int} {payload : Value} :
    verifyJwt reading payload = .ok claims ↔
      Carries payload claims ∧ 0 ≤ reading ∧ reading.toNat ≤ claims.exp := by
  simp only [verifyJwt, bind_eq_ok, sinceEpoch]
  constructor
  · rintro ⟨now, isNow, exp, isExp, verified⟩
    split at isNow
    · cases isNow
    · next notBefore =>
        cases isNow
        split at verified
        · cases verified
        · next notOver =>
            have same := exp_of_readClaims verified
            subst same
            exact ⟨⟨isExp, verified⟩, Int.not_lt.mp notBefore, Nat.not_lt.mp notOver⟩
  · rintro ⟨⟨isExp, read⟩, notBefore, notOver⟩
    refine ⟨_, if_neg (Int.not_lt.mpr notBefore), _, isExp, ?_⟩
    rw [if_neg (Nat.not_lt.mpr notOver)]
    exact read

/-- A payload carries one set of claims. -/
theorem Carries.unique {payload : Value} {first second : JwtClaims}
    (carries : Carries payload first) (others : Carries payload second) : first = second := by
  have sameExp : first.exp = second.exp := Except.ok.inj (carries.1.symm.trans others.1)
  have read := carries.2
  rw [sameExp] at read
  exact Except.ok.inj (read.symm.trans others.2)

theorem Carries.sub_eq {payload : Value} (carries : Carries payload claims) :
    claims.sub = claims.userId := by
  have read := carries.2
  simp only [readClaims, bind_eq_ok, pure, Except.pure, Except.ok.injEq] at read
  rcases read with ⟨_, -, _, -, _, -, _, -, _, -, _, -, same⟩
  rw [← same]

theorem Carries.exp_lt {payload : Value} (carries : Carries payload claims) :
    claims.exp < 2 ^ 64 := by
  have isExp := carries.1
  rw [numberClaim] at isExp
  cases read : (payload.get "exp").bind Value.asU64 with
  | none =>
      rw [read] at isExp
      cases isExp
  | some exp =>
      rw [read] at isExp
      cases isExp
      rcases Option.bind_eq_some_iff.mp read with ⟨value, -, isNumber⟩
      exact Value.lt_of_asU64 isNumber

theorem Carries.readable {payload : Value} (carries : Carries payload claims) :
    ∀ perms, claims.perms = some perms → Readable perms := by
  intro perms held
  have read := carries.2
  simp only [readClaims, bind_eq_ok, pure, Except.pure, Except.ok.injEq] at read
  rcases read with ⟨_, -, _, -, _, -, _, -, _, -, _, -, same⟩
  rw [← same] at held
  rcases Option.bind_eq_some_iff.mp held with ⟨value, -, readPerms⟩
  exact readable_of_permsOfValue readPerms

theorem textClaim_of_get {payload : Value} {name text : String}
    (found : payload.get name = some (.string text)) : textClaim payload name = .ok text := by
  rw [textClaim, found]
  rfl

theorem numberClaim_of_get {payload : Value} {name : String} {number : Nat}
    (found : payload.get name = some (.int number)) (small : number < 2 ^ 64) :
    numberClaim payload name = .ok number := by
  rw [numberClaim, found, Option.bind_some, Value.asU64_int small]
  rfl

section Payload

variable {userId email merchantId role tokenType jti : String} {grant : Option ScopeGrant}
  {perms : Option (List Permission)} {iat exp : Nat}

/-- What a payload says under each name. -/
theorem get_scopedPayload (name : String) :
    (scopedPayload userId email merchantId role tokenType jti grant perms iat exp).get name =
      if name = "exp" then some (.int exp)
      else if name = "iat" then some (.int iat)
      else if name = "perms" then perms.map permsToValue
      else if name = "grant" then grant.map grantToValue
      else lookupField name [("jti", .string jti), ("token_type", .string tokenType),
        ("role", .string role), ("merchant_id", .string merchantId), ("email", .string email),
        ("user_id", .string userId), ("sub", .string userId)] := by
  have optional {α : Type} (other : String) (write : α → Value) (value : Option α) :
      lookupField name (value.map fun present => (other, write present)).toList.reverse =
        if other = name then value.map write else none := by
    rw [← lookupField_toList]
    cases value <;> rfl
  rw [scopedPayload, Value.get_ofFields, List.reverse_append, List.reverse_append,
    List.reverse_append, lookupField_append, lookupField_append, lookupField_append, optional,
    optional]
  by_cases isExp : name = "exp"
  · subst isExp
    rfl
  by_cases isIat : name = "iat"
  · subst isIat
    rfl
  by_cases isPerms : name = "perms"
  · subst isPerms
    simp [lookupField]
  by_cases isGrant : name = "grant"
  · subst isGrant
    simp [lookupField]
  simp only [lookupField, List.reverse_cons, List.reverse_nil, List.nil_append, List.cons_append,
    Ne.symm isExp, Ne.symm isIat, Ne.symm isPerms, Ne.symm isGrant, isExp, isIat, isPerms, isGrant,
    if_false, Option.none_or]

/-- A payload carries the claims that it was built from. -/
theorem carries_scopedPayload (readable : ∀ held, perms = some held → Readable held)
    (smallIat : iat < 2 ^ 64) (smallExp : exp < 2 ^ 64) :
    Carries (scopedPayload userId email merchantId role tokenType jti grant perms iat exp)
      ⟨userId, userId, email, merchantId, role, tokenType, jti, exp, iat, grant, perms⟩ := by
  have text (name value : String)
      (found : (scopedPayload userId email merchantId role tokenType jti grant perms iat exp).get
        name = some (.string value)) := textClaim_of_get found
  refine ⟨numberClaim_of_get (by simp [get_scopedPayload]) smallExp, ?_⟩
  have isSub := text "sub" userId (by simp [get_scopedPayload, lookupField])
  have isEmail := text "email" email (by simp [get_scopedPayload, lookupField])
  have isMerchantId := text "merchant_id" merchantId (by simp [get_scopedPayload, lookupField])
  have isRole := text "role" role (by simp [get_scopedPayload, lookupField])
  have isJti := text "jti" jti (by simp [get_scopedPayload, lookupField])
  have isIat : numberClaim
      (scopedPayload userId email merchantId role tokenType jti grant perms iat exp) "iat" =
        .ok iat :=
    numberClaim_of_get (by simp [get_scopedPayload]) smallIat
  have isGrant : (grant.map grantToValue).bind grantOfValue = grant := by
    cases grant with
    | none => rfl
    | some grant => exact grantOfValue_grantToValue grant
  have isPerms : (perms.map permsToValue).bind permsOfValue = perms := by
    cases perms with
    | none => rfl
    | some held => exact permsOfValue_permsToValue (readable held rfl)
  simp only [readClaims, isSub, isEmail, isMerchantId, isRole, isJti, isIat]
  simp [get_scopedPayload, lookupField, Value.asString, isGrant, isPerms, bind, Except.bind, pure,
    Except.pure]

end Payload

end DecisionEngine.Auth.Jwt
