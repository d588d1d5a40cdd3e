import DecisionEngine.Database.Table
import DecisionEngine.Text.Basic
import DecisionEngine.Transition.Effect

/-!
# Accounts and sessions of the dashboard

Users, their memberships at merchants and the merchant accounts are tables; a session is
a signed token that carries the user, a merchant and a role.  Signing up, logging in,
creating a merchant, switching, inviting, entering and leaving a merchant read and write
the tables one statement after the other and mint tokens.

Every request is one of a few changes of the tables and of the minted tokens.
-/

namespace DecisionEngine.Auth

open Database Text Transition

/-! ## Tables and tokens -/

/-- A row of `users`. -/
structure User where
  userId : String
  email : String
  passwordHash : String
  merchantId : Option String
  role : String
  isActive : Bool
  emailVerified : Bool
  deriving DecidableEq

/-- Both the id and the email are unique. -/
def SameUser (first second : User) : Prop :=
  first.userId = second.userId ∨ first.email = second.email

instance : DecidableRel SameUser :=
  fun _ _ => inferInstanceAs (Decidable (_ ∨ _))

instance : Std.Symm SameUser :=
  ⟨fun _ _ same => same.imp Eq.symm Eq.symm⟩

/-- A row of `user_merchants`. -/
structure UserMerchant where
  userId : String
  merchantId : String
  role : String
  deriving DecidableEq

def SameMembership (first second : UserMerchant) : Prop :=
  first.userId = second.userId ∧ first.merchantId = second.merchantId

instance : DecidableRel SameMembership :=
  fun _ _ => inferInstanceAs (Decidable (_ ∧ _))

instance : Std.Symm SameMembership :=
  ⟨fun _ _ same => ⟨same.1.symm, same.2.symm⟩⟩

/-- A row of `merchant_account`; it has no unique column but its number. -/
structure MerchantAccount where
  merchantId : Option String
  merchantName : Option String

inductive TokenType where
  | standard
  | hsRedirect
  | superAdminView
  deriving DecidableEq

inductive GrantLevel where
  | profile
  | merchant
  | org
  deriving DecidableEq

/-- How far a session may move in the tree of merchants. -/
structure ScopeGrant where
  level : GrantLevel
  id : String
  deriving DecidableEq

def ScopeGrant.profile (profileId : String) : ScopeGrant :=
  ⟨.profile, profileId⟩

inductive Permission where
  | routingRead
  | routingWrite
  | unknown (raw : String)
  deriving DecidableEq

def knownPermissions : List Permission :=
  [.routingRead, .routingWrite]

/-- What a token says; `sub` is the user. -/
structure JwtClaims where
  userId : String
  email : String
  merchantId : String
  role : String
  tokenType : TokenType
  jti : String
  exp : Nat
  iat : Nat
  grant : Option ScopeGrant
  perms : Option (List Permission)
  deriving DecidableEq

/-- The Redis keys of signups and revoked tokens. -/
structure AuthKeys where
  pendingSignups : List String
  emailVerifications : List (String × String)
  revoked : List String

/-- The tables, the tokens that have been minted, and the Redis keys. -/
structure AuthState where
  users : Table User SameUser
  userMerchants : Table UserMerchant SameMembership
  merchantAccounts : List MerchantAccount
  minted : List JwtClaims
  keys : AuthKeys

/-- Nobody has signed up yet. -/
def AuthState.initial (merchantAccounts : List MerchantAccount) : AuthState :=
  ⟨.empty, .empty, merchantAccounts, [], ⟨[], [], []⟩⟩

inductive UserAuthError where
  | unauthorized
  | storageError
  | emailAlreadyExists
  | weakPassword
  | passwordHashingFailed
  | merchantNotFound
  | emailSendFailed
  | tokenGenerationFailed
  | userNotFound
  | accountInactive
  | emailNotVerified
  | invalidPassword
  | invalidToken
  | unsupportedOperation
  | forbidden
  | alreadyMember
  deriving DecidableEq

abbrev Handler (α : Type) :=
  Effect AuthState UserAuthError α

/-! ## Surroundings of a request -/

structure AuthConfig where
  adminSecret : String
  signupRequiresAdminSecret : Bool
  emailVerificationEnabled : Bool
  superAdminEmails : List String
  jwtExpirySeconds : Nat

/-- A call of the database, of Redis or of the mail service that may fail, and the signing
of a token. -/
inductive Call where
  | findUsers
  | findMerchant
  | lockSignup
  | releaseLock
  | sendEmail
  | storeVerification
  | deleteVerification
  | insertUser
  | deleteUser
  | findMembership
  | insertMembership
  | fetchMerchants
  | insertMerchant
  | updateMerchantId
  | readDenylist
  | signToken
  deriving DecidableEq

/-- What a request meets with: the clock, the calls that fail, the random values it draws
and what is known of passwords and of the tree of merchants. -/
structure Surroundings where
  now : Nat
  fails : Call → Bool
  userId : String
  verificationToken : String
  merchantDigits : String
  jti : String
  passwordHash : Option String
  generatedPassword : String
  passwordMatches : String → String → Option Bool
  cachedMerchant : String → Bool
  orgOf : String → Option String
  covers : ScopeGrant → String → Bool

/-- A password has ten characters and four kinds of them. -/
def validatePasswordStrength (password : String) : Bool :=
  let chars := password.toList
  10 ≤ chars.length && chars.any Char.isUpper && chars.any Char.isLower &&
    chars.any Char.isDigit && chars.any fun char => !char.isAlphanum

section Handlers

variable (config : AuthConfig) (around : Surroundings)

/-! ## Statements -/

def findUsersByEmail (email : String) : Handler (List User) :=
  .query (around.fails .findUsers) .storageError fun state =>
    state.users.rows.filter fun user => user.email = email

def findMerchantAccounts (merchantId : String) : Handler (List MerchantAccount) :=
  .query (around.fails .findMerchant) .storageError fun state =>
    state.merchantAccounts.filter fun account => account.merchantId = some merchantId

def insertUser (user : User) : Handler Unit :=
  .change (around.fails .insertUser) .storageError fun state =>
    (state.users.insert user).map fun users => { state with users := users }

def insertMembership (membership : UserMerchant) : Handler Unit :=
  .change (around.fails .insertMembership) .storageError fun state =>
    (state.userMerchants.insert membership).map fun rows => { state with userMerchants := rows }

def insertMerchant (account : MerchantAccount) : Handler Unit :=
  .change (around.fails .insertMerchant) .storageError fun state =>
    some { state with merchantAccounts := state.merchantAccounts ++ [account] }

def User.movedTo (merchantId : String) (user : User) : User :=
  { user with merchantId := some merchantId }

theorem keeps_movedTo (userId merchantId : String) :
    Table.Keeps SameUser (fun user => decide (user.userId = userId)) (User.movedTo merchantId) :=
  fun _ _ _ => ⟨Iff.rfl, Iff.rfl⟩

variable (state : AuthState)

/-- Set the merchant of a user, when there is such a user. -/
def AuthState.moveUser (userId merchantId : String) : AuthState :=
  { state with
    users := state.users.update (fun user => decide (user.userId = userId))
      (User.movedTo merchantId) (keeps_movedTo userId merchantId) }

def updateMerchantId (userId merchantId : String) : Handler Unit :=
  .change (around.fails .updateMerchantId) .storageError fun state =>
    some (state.moveUser userId merchantId)

structure MerchantInfo where
  merchantId : String
  merchantName : String
  role : String

/-- A membership with the name of its merchant. -/
def AuthState.merchantInfo (membership : UserMerchant) : MerchantInfo where
  merchantId := membership.merchantId
  merchantName :=
    ((state.merchantAccounts.filter fun account =>
      account.merchantId = some membership.merchantId).getLast?.bind
        MerchantAccount.merchantName).getD membership.merchantId
  role := membership.role

def AuthState.merchantsOf (userId : String) : List MerchantInfo :=
  (state.userMerchants.rows.filter fun membership => membership.userId = userId).map
    state.merchantInfo

def fetchUserMerchants (userId : String) : Handler (List MerchantInfo) :=
  .query (around.fails .fetchMerchants) .storageError fun state => state.merchantsOf userId

/-! ## Tokens -/

def scopedClaims (userId email merchantId role : String) (tokenType : TokenType)
    (grant : Option ScopeGrant) (perms : Option (List Permission)) (expirySeconds : Nat) :
    JwtClaims where
  userId := userId
  email := email
  merchantId := merchantId
  role := role
  tokenType := tokenType
  jti := around.jti
  exp := around.now + expirySeconds
  iat := around.now
  grant := grant
  perms := perms

/-- The claims of a standard session. -/
def standardClaims (userId email merchantId role : String) : JwtClaims :=
  scopedClaims around userId email merchantId role .standard none (some knownPermissions)
    config.jwtExpirySeconds

def mint (claims : JwtClaims) : Handler JwtClaims := do
  .change (around.fails .signToken) .tokenGenerationFailed fun state =>
    some { state with minted := state.minted ++ [claims] }
  pure claims

/-- A token is accepted when it has been minted, is not over and is not on the denylist, as
far as the denylist can be read. -/
def AuthState.accepts (token : JwtClaims) : Bool :=
  state.minted.contains token && !decide (token.exp < around.now) &&
    (around.fails .readDenylist || !state.keys.revoked.contains token.jti)

def verifyJwtNotRevoked (bearer : Option JwtClaims) : Handler JwtClaims := do
  let token ← .orError bearer .invalidToken
  let accepted ← .query false .invalidToken fun state => state.accepts around token
  .require accepted .invalidToken
  pure token

def rosterAdmits (roster : List String) (claims : JwtClaims) : Bool :=
  (claims.tokenType = .standard || claims.tokenType = .superAdminView) &&
    !claims.email.isEmpty &&
      roster.any fun allowed => toAsciiLowercase allowed = toAsciiLowercase claims.email

structure AuthResponse where
  token : JwtClaims
  userId : String
  email : String
  merchantId : String
  role : String
  merchants : List MerchantInfo

/-! ## Signing up -/

structure SignupRequest where
  xAdminSecret : Option String
  email : String
  password : String
  merchantId : Option String

def SignupRequest.providedAdminSecret (request : SignupRequest) : String :=
  request.xAdminSecret.getD ""

/-- The merchant that the user is to be attached to. -/
def SignupRequest.requestedMerchantId (request : SignupRequest) : Option String :=
  (request.merchantId.map trim).filter fun merchantId => !merchantId.isEmpty

def requireMerchant : Option String → Handler Unit
  | none => pure ()
  | some merchantId => do
      let existing ← findMerchantAccounts around merchantId
      .require (!existing.isEmpty) .merchantNotFound

def signupUser (request : SignupRequest) (passwordHash : String) (emailVerified : Bool) :
    User where
  userId := around.userId
  email := request.email
  passwordHash := passwordHash
  merchantId := request.requestedMerchantId
  role := "admin"
  isActive := true
  emailVerified := emailVerified

/-- Insert the membership of a user who has named a merchant. -/
def attachUser (userId : String) : Option String → Handler Unit
  | none => pure ()
  | some merchantId => insertMembership around ⟨userId, merchantId, "admin"⟩

def AuthState.releaseLock (email : String) (state : AuthState) : AuthState :=
  if around.fails .releaseLock then state
  else { state with keys.pendingSignups := state.keys.pendingSignups.filter (· ≠ email) }

def AuthState.deleteVerification (state : AuthState) : AuthState :=
  if around.fails .deleteVerification then state
  else
    { state with
      keys.emailVerifications := state.keys.emailVerifications.filter fun entry =>
        entry.1 ≠ around.verificationToken }

def AuthState.deleteUser (userId : String) (state : AuthState) : AuthState :=
  if around.fails .deleteUser then state
  else { state with users := state.users.remove fun user => user.userId = userId }

inductive SignupResponse where
  | verificationPending
  | authenticated (response : AuthResponse)

/-- A signup whose email is still to be verified; what a failure leaves behind is deleted. -/
def signupUnverified (request : SignupRequest) (user : User) : Handler SignupResponse := do
  let pending ← .query (around.fails .lockSignup) .storageError fun state =>
    state.keys.pendingSignups.contains request.email
  .require (!pending) .emailAlreadyExists
  .modify fun state =>
    { state with keys.pendingSignups := request.email :: state.keys.pendingSignups }
  (Effect.require (!around.fails .sendEmail) .emailSendFailed).onError
    (AuthState.releaseLock around request.email)
  (Effect.change (around.fails .storeVerification) .storageError fun state =>
    some
      { state with
        keys.emailVerifications :=
          (around.verificationToken, user.userId) :: state.keys.emailVerifications }).onError
    (AuthState.releaseLock around request.email)
  (insertUser around user).onError fun state =>
    (state.deleteVerification around).releaseLock around request.email
  (attachUser around user.userId user.merchantId).onError fun state =>
    ((state.deleteUser around user.userId).deleteVerification around).releaseLock around
      request.email
  .modify (AuthState.releaseLock around request.email)
  pure .verificationPending

/-- A signup that starts a session at once. -/
def signupVerified (user : User) : Handler SignupResponse := do
  insertUser around user
  attachUser around user.userId user.merchantId
  let token ← mint around
    (standardClaims config around user.userId user.email (user.merchantId.getD "") "admin")
  let merchants ← fetchUserMerchants around user.userId
  pure (.authenticated
    ⟨token, user.userId, user.email, user.merchantId.getD "", "admin", merchants⟩)

def signup (request : SignupRequest) : Handler SignupResponse := do
  .require (!config.signupRequiresAdminSecret ||
    request.providedAdminSecret = config.adminSecret) .unauthorized
  let existing ← findUsersByEmail around request.email
  .require existing.isEmpty .emailAlreadyExists
  .require (validatePasswordStrength request.password) .weakPassword
  let passwordHash ← .orError around.passwordHash .passwordHashingFailed
  requireMerchant around request.requestedMerchantId
  if config.emailVerificationEnabled then
    signupUnverified around request (signupUser around request passwordHash false)
  else
    signupVerified config around (signupUser around request passwordHash true)

/-! ## Sessions -/

/-- The merchant that a session of the user is for: the user's own, else the first
membership's, else none. -/
def homeMerchantId (user : User) (merchants : List MerchantInfo) : String :=
  user.merchantId.getD ((merchants.head?.map MerchantInfo.merchantId).getD "")

/-- A standard session of a user, with the role of the user's row. -/
def startSession (user : User) : Handler AuthResponse := do
  let merchants ← fetchUserMerchants around user.userId
  let merchantId := homeMerchantId user merchants
  let token ← mint around (standardClaims config around user.userId user.email merchantId user.role)
  pure ⟨token, user.userId, user.email, merchantId, user.role, merchants⟩

structure LoginRequest where
  email : String
  password : String

def login (request : LoginRequest) : Handler AuthResponse := do
  let users ← findUsersByEmail around request.email
  let user ← .orError users.getLast? .userNotFound
  .require user.isActive .accountInactive
  .require (!config.emailVerificationEnabled || user.emailVerified) .emailNotVerified
  let matched ← .orError (around.passwordMatches request.password user.passwordHash) .storageError
  .require matched .invalidPassword
  startSession config around user

structure CreateMerchantResponse where
  token : JwtClaims
  merchantId : String
  merchantName : String
  merchants : List MerchantInfo

variable (bearer : Option JwtClaims)

def createMerchant (merchantName : String) :
    Handler CreateMerchantResponse := do
  let claims ← verifyJwtNotRevoked around bearer
  .require (claims.tokenType = .standard) .unsupportedOperation
  let merchantId := "merchant_" ++ around.merchantDigits
  insertMerchant around ⟨some merchantId, some merchantName⟩
  insertMembership around ⟨claims.userId, merchantId, "admin"⟩
  updateMerchantId around claims.userId merchantId
  let merchants ← fetchUserMerchants around claims.userId
  let token ← mint around
    (standardClaims config around claims.userId claims.email merchantId claims.role)
  pure ⟨token, merchantId, merchantName, merchants⟩

def switchWithinMemberships (claims : JwtClaims) (merchantId : String) :
    Handler AuthResponse := do
  let merchants ← fetchUserMerchants around claims.userId
  let target ← .orError (merchants.find? fun info => info.merchantId = merchantId)
    .merchantNotFound
  let token ← mint around
    (standardClaims config around claims.userId claims.email target.merchantId target.role)
  pure ⟨token, claims.userId, claims.email, target.merchantId, target.role, merchants⟩

def grantOf (claims : JwtClaims) : ScopeGrant :=
  claims.grant.getD (.profile claims.merchantId)

/-- The response's list of the merchants of the grant is left out. -/
def switchWithinGrant (claims : JwtClaims) (merchantId : String) : Handler AuthResponse := do
  .require (around.covers (grantOf claims) merchantId) .forbidden
  let token ← mint around
    (scopedClaims around claims.userId claims.email merchantId claims.role claims.tokenType
      (some (grantOf claims)) claims.perms (claims.exp - around.now))
  pure ⟨token, claims.userId, claims.email, merchantId, claims.role, []⟩

def switchMerchant (merchantId : String) : Handler AuthResponse := do
  let claims ← verifyJwtNotRevoked around bearer
  match claims.tokenType with
  | .standard => switchWithinMemberships config around claims merchantId
  | .hsRedirect | .superAdminView => switchWithinGrant around claims merchantId

/-! ## Inviting -/

structure InviteMemberRequest where
  email : String
  role : Option String

structure InviteMemberResponse where
  email : String
  isNewUser : Bool
  password : Option String
  role : String

def InviteMemberRequest.grantedRole (request : InviteMemberRequest) : String :=
  if request.role.getD "member" = "admin" then "admin" else "member"

def inviteExisting (user : User) (merchantId role : String) : Handler InviteMemberResponse := do
  let existing ← .query (around.fails .findMembership) .storageError fun state =>
    state.userMerchants.rows.filter fun row =>
      row.userId = user.userId ∧ row.merchantId = merchantId
  .require existing.isEmpty .alreadyMember
  insertMembership around ⟨user.userId, merchantId, role⟩
  pure ⟨user.email, false, none, role⟩

def inviteNew (email merchantId role : String) : Handler InviteMemberResponse := do
  let passwordHash ← .orError around.passwordHash .passwordHashingFailed
  insertUser around ⟨around.userId, email, passwordHash, none, role, true, true⟩
  (insertMembership around ⟨around.userId, merchantId, role⟩).onError
    (AuthState.deleteUser around around.userId)
  pure ⟨email, true, some around.generatedPassword, role⟩

/-- The mail to the member is left out: it only writes to the log when it fails. -/
def inviteMember (request : InviteMemberRequest) :
    Handler InviteMemberResponse := do
  let claims ← verifyJwtNotRevoked around bearer
  .require (claims.tokenType = .standard) .unsupportedOperation
  .require (claims.role = "admin") .forbidden
  let _ ← findMerchantAccounts around claims.merchantId
  let existing ← findUsersByEmail around request.email
  match existing.head? with
  | some user => inviteExisting around user claims.merchantId request.grantedRole
  | none => inviteNew around request.email claims.merchantId request.grantedRole

/-! ## Views of platform administrators -/

def viewGrant (merchantId : String) : ScopeGrant :=
  (around.orgOf merchantId).elim (.profile merchantId) fun org => ⟨.org, org⟩

def enterMerchant (merchantId : String) : Handler AuthResponse := do
  let claims ← verifyJwtNotRevoked around bearer
  .require (claims.tokenType = .standard) .unsupportedOperation
  .require (rosterAdmits config.superAdminEmails claims) .forbidden
  let known ← .query false .merchantNotFound fun state =>
    around.cachedMerchant merchantId || (!around.fails .findMerchant &&
      state.merchantAccounts.any fun account => account.merchantId = some merchantId)
  .require known .merchantNotFound
  let token ← mint around
    (scopedClaims around claims.userId claims.email merchantId "admin" .superAdminView
      (some (viewGrant around merchantId)) (some knownPermissions) config.jwtExpirySeconds)
  pure ⟨token, claims.userId, claims.email, merchantId, "admin", []⟩

def exitMerchant (bearer : Option JwtClaims) : Handler AuthResponse := do
  let claims ← verifyJwtNotRevoked around bearer
  .require (claims.tokenType = .superAdminView) .unsupportedOperation
  .require (rosterAdmits config.superAdminEmails claims) .forbidden
  let users ← .query (around.fails .findUsers) .storageError fun state =>
    state.users.rows.filter fun user => user.userId = claims.userId
  let user ← .orError users.getLast? .userNotFound
  startSession config around user

end Handlers

/-! ## Requests -/

inductive Request where
  | signup (request : SignupRequest)
  | login (request : LoginRequest)
  | createMerchant (bearer : Option JwtClaims) (merchantName : String)
  | switchMerchant (bearer : Option JwtClaims) (merchantId : String)
  | inviteMember (bearer : Option JwtClaims) (request : InviteMemberRequest)
  | enterMerchant (bearer : Option JwtClaims) (merchantId : String)
  | exitMerchant (bearer : Option JwtClaims)

/-- The state after a request. -/
def handle (config : AuthConfig) (around : Surroundings) (state : AuthState) :
    Request → AuthState
  | .signup request => (signup config around request).final state
  | .login request => (login config around request).final state
  | .createMerchant bearer merchantName =>
      (createMerchant config around bearer merchantName).final state
  | .switchMerchant bearer merchantId =>
      (switchMerchant config around bearer merchantId).final state
  | .inviteMember bearer request => (inviteMember around bearer request).final state
  | .enterMerchant bearer merchantId =>
      (enterMerchant config around bearer merchantId).final state
  | .exitMerchant bearer => (exitMerchant config around bearer).final state

end DecisionEngine.Auth
