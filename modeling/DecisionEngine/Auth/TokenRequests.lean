import DecisionEngine.Auth.Accounts
import DecisionEngine.Transition.Calls

/-!
# Requests that draw and redeem tokens

The handlers that sign a user up, verify an email, reset a password and hand a session over,
one call of the database, of Redis or of the mail service after the other.  A call may fail,
before or after it takes effect, and a key may expire at any time.

A reset takes its token with `GETDEL`; a handoff reads its code and goes on only if it is the
one that deletes the code; a signup that is to be verified holds a lock on the email; and the
email of a user is a unique column.
-/

namespace DecisionEngine.Auth.SingleUse

open Database Transition

/-! ## The two stores -/

/-- What a handoff code stands for. -/
structure HandoffCode where
  merchantId : String
  grant : ScopeGrant
  perms : Option (List Permission)
  email : Option String
  deriving DecidableEq

/-- A value in Redis: a text, a handoff code, or the mark of a lock. -/
inductive Stored where
  | text (value : String)
  | scoped (code : HandoffCode)
  | mark
  deriving DecidableEq

/-- The value read as a text. -/
def Stored.asText : Stored → Option String
  | .text value => some value
  | _ => none

/-- The value read as a handoff code; a text is the merchant of an old code. -/
def Stored.resolve : Stored → Option HandoffCode
  | .text merchantId => some ⟨merchantId, .profile merchantId, none, none⟩
  | .scoped code => some code
  | .mark => none

structure Stores where
  users : Table User SameUser
  userMerchants : Table UserMerchant SameMembership
  merchantAccounts : List MerchantAccount
  redis : String → Option Stored

variable (stores : Stores)

def Stores.put (key : String) (value : Stored) : Stores :=
  { stores with redis := Function.update stores.redis key (some value) }

def Stores.delete (key : String) : Stores :=
  { stores with redis := Function.update stores.redis key none }

/-- The tables alone. -/
def Stores.tables (stores : Stores) : AuthState :=
  ⟨stores.users, stores.userMerchants, stores.merchantAccounts, [], ⟨[], [], []⟩⟩

/-! ## Calls -/

/-- A call of a handler.  The keys that are set live for a number of seconds. -/
inductive StoreCall where
  | findUsersByEmail (email : String)
  | findMerchantAccounts (merchantId : String)
  | fetchUserMerchants (userId : String)
  | insertUser (user : User)
  | insertUserMerchant (membership : UserMerchant)
  | deleteUser (userId : String)
  | updatePassword (userId passwordHash : String)
  | setEmailVerified (userId : String)
  | setKeyIfNotExists (key : String) (value : Stored) (ttl : Nat)
  | setKeyWithTtl (key : String) (value : Stored) (ttl : Nat)
  | getKey (key : String)
  | getAndDeleteKey (key : String)
  | deleteKey (key : String)
  | sendEmail (email : String)
  | signToken (claims : JwtClaims)
  deriving DecidableEq

/-- What a call replies when it does not fail; an update gives the number of its rows. -/
abbrev StoreCall.Value : StoreCall → Type
  | .findUsersByEmail _ => List User
  | .findMerchantAccounts _ => List MerchantAccount
  | .fetchUserMerchants _ => List MerchantInfo
  | .updatePassword _ _ => Nat
  | .setEmailVerified _ => Nat
  | .setKeyIfNotExists _ _ _ => Bool
  | .getKey _ => Stored
  | .getAndDeleteKey _ => Option Stored
  | .deleteKey _ => Bool
  | _ => Unit

/-- A call with its reply. -/
abbrev StoreEntry :=
  Made fun call : StoreCall => Option call.Value

def User.withPassword (passwordHash : String) (user : User) : User :=
  { user with passwordHash := passwordHash }

def User.verified (user : User) : User :=
  { user with emailVerified := true }

theorem keeps_withPassword (userId passwordHash : String) :
    Table.Keeps SameUser (fun user => decide (user.userId = userId))
      (User.withPassword passwordHash) :=
  fun _ _ _ => ⟨Iff.rfl, Iff.rfl⟩

theorem keeps_verified (userId : String) :
    Table.Keeps SameUser (fun user => decide (user.userId = userId)) User.verified :=
  fun _ _ _ => ⟨Iff.rfl, Iff.rfl⟩

def Stores.rowsOf (userId : String) : Nat :=
  stores.users.rows.countP fun user => decide (user.userId = userId)

/-- A call that takes effect; no reply when the key is missing or the row is refused. -/
def answer : (call : StoreCall) → Stores → Option call.Value × Stores
  | .findUsersByEmail email, stores =>
      (some (stores.users.rows.filter fun user => user.email = email), stores)
  | .findMerchantAccounts merchantId, stores =>
      (some (stores.merchantAccounts.filter fun account => account.merchantId = some merchantId),
        stores)
  | .fetchUserMerchants userId, stores => (some (stores.tables.merchantsOf userId), stores)
  | .insertUser user, stores =>
      match stores.users.insert user with
      | none => (none, stores)
      | some users => (some (), { stores with users := users })
  | .insertUserMerchant membership, stores =>
      match stores.userMerchants.insert membership with
      | none => (none, stores)
      | some rows => (some (), { stores with userMerchants := rows })
  | .deleteUser userId, stores =>
      (some (), { stores with users := stores.users.remove fun user => user.userId = userId })
  | .updatePassword userId passwordHash, stores =>
      (some (stores.rowsOf userId),
        { stores with
          users := stores.users.update (fun user => decide (user.userId = userId))
            (User.withPassword passwordHash) (keeps_withPassword userId passwordHash) })
  | .setEmailVerified userId, stores =>
      (some (stores.rowsOf userId),
        { stores with
          users := stores.users.update (fun user => decide (user.userId = userId))
            User.verified (keeps_verified userId) })
  | .setKeyIfNotExists key value _, stores =>
      if (stores.redis key).isSome then (some false, stores)
      else (some true, stores.put key value)
  | .setKeyWithTtl key value _, stores => (some (), stores.put key value)
  | .getKey key, stores => (stores.redis key, stores)
  | .getAndDeleteKey key, stores => (some (stores.redis key), stores.delete key)
  | .deleteKey key, stores => (some (stores.redis key).isSome, stores.delete key)
  | .sendEmail _, stores => (some (), stores)
  | .signToken _, stores => (some (), stores)

/-- How a call fails. -/
inductive Failure where
  | beforeEffect
  | afterEffect
  deriving DecidableEq

/-- What a call meets with: the keys that have expired, and whether it fails. -/
structure Circumstances where
  expired : List String
  failure : Option Failure

def Stores.expire (keys : List String) : Stores :=
  { stores with redis := fun key => if key ∈ keys then none else stores.redis key }

/-- A call, as one atomic step. -/
def perform (circumstances : Circumstances) (call : StoreCall) (stores : Stores) :
    Option call.Value × Stores :=
  let stores := stores.expire circumstances.expired
  match circumstances.failure with
  | none => answer call stores
  | some .beforeEffect => (none, stores)
  | some .afterEffect => (none, (answer call stores).2)

/-- A call replies what it does, or it fails and may have taken effect. -/
theorem perform_cases {circumstances : Circumstances} {call : StoreCall} {stores next : Stores}
    {reply : Option call.Value} (performed : perform circumstances call stores = (reply, next)) :
    answer call (stores.expire circumstances.expired) = (reply, next) ∨
      reply = none ∧ (next = stores.expire circumstances.expired ∨
        next = (answer call (stores.expire circumstances.expired)).2) := by
  rw [perform] at performed
  cases isFailure : circumstances.failure with
  | none =>
      rw [isFailure] at performed
      exact .inl performed
  | some failure =>
      rw [isFailure] at performed
      cases failure with
      | beforeEffect =>
          rcases Prod.mk.inj performed with ⟨noReply, isNext⟩
          exact .inr ⟨noReply.symm, .inl isNext.symm⟩
      | afterEffect =>
          rcases Prod.mk.inj performed with ⟨noReply, isNext⟩
          exact .inr ⟨noReply.symm, .inr isNext.symm⟩

/-! ## Requests -/

def emailVerificationPrefix : String := "email_verification:"

def pendingSignupPrefix : String := "pending_signup:"

def passwordResetPrefix : String := "password_reset:"

def hsSsoCodePrefix : String := "hs_sso_code:"

def emailVerificationTtlSeconds : Nat := 86400

def pendingSignupTtlSeconds : Nat := 300

def passwordResetTtlSeconds : Nat := 3600

def hsSsoCodeTtlSeconds : Nat := 60

inductive TokenError where
  | user (error : UserAuthError)
  | invalidResetToken
  | invalidVerificationToken

inductive Response where
  | verificationPending
  | authenticated (response : AuthResponse)
  | message
  | merchantCode (code : String) (expiresIn : Nat)

structure TokenConfig extends AuthConfig where
  emailActive : Bool
  hsRedirectJwtExpirySeconds : Nat

structure ResetPasswordRequest where
  token : String
  newPassword : String

structure AdminMerchantTokenRequest where
  xAdminSecret : Option String
  merchantId : String
  grantLevel : Option GrantLevel
  grantId : Option String
  permissions : Option (List Permission)
  email : Option String

abbrev Handler (α : Type) :=
  Handling StoreCall StoreCall.Value TokenError α

open Handling (require orError)

/-- Go on with the reply to a call, or end with an error when it fails. -/
abbrev ask (call : StoreCall) (error : TokenError) : Handler call.Value :=
  Handling.ask call error

/-- Make a call and go on, also when it fails. -/
abbrev attempt (call : StoreCall) : Handler Unit :=
  Handling.attempt call

section Handlers

variable (config : TokenConfig) (around : Surroundings)

/-! ## Signing up -/

def requireMerchant : Option String → Handler Unit
  | none => pure ()
  | some merchantId => do
      let existing ← ask (.findMerchantAccounts merchantId) (.user .storageError)
      require (!existing.isEmpty) (.user .merchantNotFound)

/-- Insert the membership of a user who has named a merchant. -/
def attachUser (userId : String) : Option String → Handler Unit
  | none => pure ()
  | some merchantId =>
      ask (.insertUserMerchant ⟨userId, merchantId, "admin"⟩) (.user .storageError)

/-- A signup whose email is still to be verified; what a failure leaves behind is deleted. -/
def signupUnverified (request : SignupRequest) (user : User) : Handler Response := do
  let redisKey := emailVerificationPrefix ++ around.verificationToken
  let pendingKey := pendingSignupPrefix ++ request.email
  let acquired ← ask (.setKeyIfNotExists pendingKey .mark pendingSignupTtlSeconds)
    (.user .storageError)
  require acquired (.user .emailAlreadyExists)
  (ask (.sendEmail request.email) (.user .emailSendFailed)).onError
    (attempt (.deleteKey pendingKey))
  (ask (.setKeyWithTtl redisKey (.text user.userId) emailVerificationTtlSeconds)
    (.user .storageError)).onError (attempt (.deleteKey pendingKey))
  (ask (.insertUser user) (.user .storageError)).onError do
    attempt (.deleteKey redisKey)
    attempt (.deleteKey pendingKey)
  (attachUser user.userId user.merchantId).onError do
    attempt (.deleteUser user.userId)
    attempt (.deleteKey redisKey)
    attempt (.deleteKey pendingKey)
  attempt (.deleteKey pendingKey)
  pure .verificationPending

/-- A signup that starts a session at once. -/
def signupVerified (user : User) : Handler Response := do
  let merchantId := user.merchantId.getD ""
  let claims := standardClaims config.toAuthConfig around user.userId user.email merchantId "admin"
  ask (.insertUser user) (.user .storageError)
  attachUser user.userId user.merchantId
  ask (.signToken claims) (.user .tokenGenerationFailed)
  let merchants ← ask (.fetchUserMerchants user.userId) (.user .storageError)
  pure (.authenticated ⟨claims, user.userId, user.email, merchantId, "admin", merchants⟩)

def signup (request : SignupRequest) : Handler Response := do
  require (!config.signupRequiresAdminSecret || request.providedAdminSecret = config.adminSecret)
    (.user .unauthorized)
  let existing ← ask (.findUsersByEmail request.email) (.user .storageError)
  require existing.isEmpty (.user .emailAlreadyExists)
  require (validatePasswordStrength request.password) (.user .weakPassword)
  let passwordHash ← orError around.passwordHash (.user .passwordHashingFailed)
  requireMerchant request.requestedMerchantId
  if config.emailVerificationEnabled then
    signupUnverified around request (signupUser around request passwordHash false)
  else
    signupVerified config around (signupUser around request passwordHash true)

/-- The token is the one of the link in the mail. -/
def verifyEmail (token : String) : Handler Response := do
  let redisKey := emailVerificationPrefix ++ token
  let stored ← ask (.getKey redisKey) (.user .storageError)
  let userId ← orError stored.asText (.user .storageError)
  require (!userId.isEmpty) .invalidVerificationToken
  let rowsUpdated ← ask (.setEmailVerified userId) (.user .storageError)
  require (rowsUpdated ≠ 0) .invalidVerificationToken
  attempt (.deleteKey redisKey)
  pure .message

/-! ## Resetting a password -/

/-- The answer is the same whether or not the email is of an account. -/
def forgotPassword (token email : String) : Handler Response := do
  if config.emailActive then
    let users ← ask (.findUsersByEmail email) (.user .storageError)
    match users.getLast? with
    | none => pure .message
    | some user =>
        if user.isActive then
          let redisKey := passwordResetPrefix ++ token
          ask (.setKeyWithTtl redisKey (.text user.userId) passwordResetTtlSeconds)
            (.user .storageError)
          (ask (.sendEmail user.email) (.user .emailSendFailed)).onError
            (attempt (.deleteKey redisKey))
          pure .message
        else pure .message
  else pure .message

/-- The password is checked and hashed before the token is touched. -/
def resetPassword (passwordHash : Option String) (request : ResetPasswordRequest) :
    Handler Response := do
  require (validatePasswordStrength request.newPassword) (.user .weakPassword)
  let newHash ← orError passwordHash (.user .passwordHashingFailed)
  let held ← ask (.getAndDeleteKey (passwordResetPrefix ++ request.token)) (.user .storageError)
  let stored ← orError held .invalidResetToken
  let userId ← orError stored.asText (.user .storageError)
  require (!userId.isEmpty) .invalidResetToken
  let rowsUpdated ← ask (.updatePassword userId newHash) (.user .storageError)
  require (rowsUpdated ≠ 0) .invalidResetToken
  pure .message

/-! ## Handing a session over -/

def loadMerchant (merchantId : String) : Handler Unit :=
  if around.cachedMerchant merchantId then pure ()
  else do
    let accounts ← ask (.findMerchantAccounts merchantId) (.user .merchantNotFound)
    require (!accounts.isEmpty) (.user .merchantNotFound)

/-- A merchant or org grant needs an id of its own. -/
def AdminMerchantTokenRequest.grant (request : AdminMerchantTokenRequest) : Handler ScopeGrant :=
  match request.grantLevel.getD .profile with
  | .profile => pure (.profile request.merchantId)
  | level => do
      let id ← orError (request.grantId.filter fun id => !id.isEmpty) (.user .forbidden)
      pure ⟨level, id⟩

def adminMerchantToken (code : String) (request : AdminMerchantTokenRequest) :
    Handler Response := do
  require (request.xAdminSecret.getD "" = config.adminSecret) (.user .invalidToken)
  loadMerchant around request.merchantId
  let grant ← request.grant
  ask (.setKeyWithTtl (hsSsoCodePrefix ++ code)
    (.scoped ⟨request.merchantId, grant, request.permissions, request.email⟩)
    hsSsoCodeTtlSeconds) (.user .storageError)
  pure (.merchantCode code hsSsoCodeTtlSeconds)

/-- The response's list of the merchants of the grant is left out. -/
def exchangeMerchantToken (code : String) : Handler Response := do
  let codeKey := hsSsoCodePrefix ++ code
  let stored ← ask (.getKey codeKey) (.user .invalidToken)
  let entry ← orError stored.resolve (.user .invalidToken)
  let claimed ← ask (.deleteKey codeKey) (.user .storageError)
  require claimed (.user .invalidToken)
  let userId := "hs_" ++ entry.merchantId
  let email := entry.email.getD ""
  let claims := scopedClaims around userId email entry.merchantId "admin" .hsRedirect
    (some entry.grant) entry.perms config.hsRedirectJwtExpirySeconds
  ask (.signToken claims) (.user .tokenGenerationFailed)
  pure (.authenticated ⟨claims, userId, email, entry.merchantId, "admin", []⟩)

end Handlers

/-- A request, with the values that it draws and meets with. -/
inductive TokenRequest where
  | signup (around : Surroundings) (request : SignupRequest)
  | verifyEmail (token : String)
  | forgotPassword (token email : String)
  | resetPassword (passwordHash : Option String) (request : ResetPasswordRequest)
  | adminMerchantToken (around : Surroundings) (code : String)
      (request : AdminMerchantTokenRequest)
  | exchangeMerchantToken (around : Surroundings) (code : String)

def TokenRequest.handler (config : TokenConfig) : TokenRequest → Handler Response
  | .signup around request => SingleUse.signup config around request
  | .verifyEmail token => SingleUse.verifyEmail token
  | .forgotPassword token email => SingleUse.forgotPassword config token email
  | .resetPassword passwordHash request => SingleUse.resetPassword passwordHash request
  | .adminMerchantToken around code request =>
      SingleUse.adminMerchantToken config around code request
  | .exchangeMerchantToken around code => SingleUse.exchangeMerchantToken config around code

/-! ## The calls of a handler -/

/-- The id and the email of the user that a signup is to create. -/
def TokenRequest.account : TokenRequest → Option (String × String)
  | .signup around request => some (around.userId, request.email)
  | _ => none

/-- The key under which a reset token or a handoff code is stored. -/
def TokenRequest.tokenKey : TokenRequest → Option String
  | .forgotPassword token _ => some (passwordResetPrefix ++ token)
  | .adminMerchantToken _ code _ => some (hsSsoCodePrefix ++ code)
  | _ => none

/-- The email that a signup registers. -/
def TokenRequest.signupEmail (request : TokenRequest) : Option String :=
  request.account.map Prod.snd

/-- The token that a reset presents. -/
def TokenRequest.resetToken : TokenRequest → Option String
  | .resetPassword _ request => some request.token
  | _ => none

/-- The code that an exchange presents. -/
def TokenRequest.handoffCode : TokenRequest → Option String
  | .exchangeMerchantToken _ code => some code
  | _ => none

/-- The keys and the users that the calls of a request are about. -/
def TokenRequest.Allows (request : TokenRequest) : StoreCall → Prop
  | .insertUser user => request.account = some (user.userId, user.email)
  | .deleteUser userId => ∃ email, request.account = some (userId, email)
  | .setKeyIfNotExists key _ _ => ∃ email, key = pendingSignupPrefix ++ email
  | .setKeyWithTtl key _ _ =>
      request.tokenKey = some key ∨ ∃ token, key = emailVerificationPrefix ++ token
  | _ => True

section Makes

open Handling

variable {allowed : StoreCall → Prop}

theorem makes_requireMerchant {requested : Option String}
    (isAllowed : ∀ merchantId, allowed (.findMerchantAccounts merchantId)) :
    (requireMerchant requested).Makes allowed := by
  cases requested with
  | none => exact makes_pure
  | some merchantId => exact (makes_ask (isAllowed merchantId)).bind fun _ => makes_require

theorem makes_attachUser {userId : String} {requested : Option String}
    (isAllowed : ∀ membership, allowed (.insertUserMerchant membership)) :
    (attachUser userId requested).Makes allowed := by
  cases requested with
  | none => exact makes_pure
  | some merchantId => exact makes_ask (isAllowed _)

variable {config : TokenConfig} {around : Surroundings}

variable {request : SignupRequest}

theorem makes_signupUnverified {user : User} (sameId : user.userId = around.userId)
    (sameEmail : user.email = request.email) :
    (signupUnverified around request user).Makes (TokenRequest.signup around request).Allows := by
  have inserts : (TokenRequest.signup around request).Allows (.insertUser user) := by
    rw [TokenRequest.Allows, sameId, sameEmail]
    rfl
  have deletes : (TokenRequest.signup around request).Allows (.deleteUser user.userId) := by
    rw [sameId]
    exact ⟨request.email, rfl⟩
  have stores : (TokenRequest.signup around request).Allows (.setKeyWithTtl
      (emailVerificationPrefix ++ around.verificationToken) (.text user.userId)
      emailVerificationTtlSeconds) :=
    .inr ⟨around.verificationToken, rfl⟩
  have releases (key : String) :
      (attempt (.deleteKey key)).Makes (TokenRequest.signup around request).Allows :=
    makes_attempt trivial
  apply (makes_ask ⟨request.email, rfl⟩).bind
  intro acquired
  apply makes_require.bind
  intro _
  apply ((makes_ask trivial).onError (releases _)).bind
  intro _
  apply ((makes_ask stores).onError (releases _)).bind
  intro _
  apply ((makes_ask inserts).onError ((releases _).bind fun _ => releases _)).bind
  intro _
  apply ((makes_attachUser fun _ => trivial).onError ((makes_attempt deletes).bind fun _ =>
    (releases _).bind fun _ => releases _)).bind
  intro _
  exact (releases _).bind fun _ => makes_pure

theorem makes_signupVerified {user : User} (sameId : user.userId = around.userId)
    (sameEmail : user.email = request.email) :
    (signupVerified config around user).Makes (TokenRequest.signup around request).Allows := by
  have inserts : (TokenRequest.signup around request).Allows (.insertUser user) := by
    rw [TokenRequest.Allows, sameId, sameEmail]
    rfl
  apply (makes_ask inserts).bind
  intro _
  apply (makes_attachUser fun _ => trivial).bind
  intro _
  apply (makes_ask trivial).bind
  intro _
  exact (makes_ask trivial).bind fun _ => makes_pure

theorem makes_signup :
    (signup config around request).Makes (TokenRequest.signup around request).Allows := by
  apply makes_require.bind
  intro _
  apply (makes_ask trivial).bind
  intro existing
  apply makes_require.bind
  intro _
  apply makes_require.bind
  intro _
  apply makes_orError.bind
  intro passwordHash
  apply (makes_requireMerchant fun _ => trivial).bind
  intro _
  split
  · exact makes_signupUnverified rfl rfl
  · exact makes_signupVerified rfl rfl

theorem makes_verifyEmail {token : String} {allowed : StoreCall → Prop}
    (reads : ∀ key, allowed (.getKey key)) (deletes : ∀ key, allowed (.deleteKey key))
    (verifies : ∀ userId, allowed (.setEmailVerified userId)) :
    (verifyEmail token).Makes allowed := by
  apply (makes_ask (reads _)).bind
  intro stored
  apply makes_orError.bind
  intro userId
  apply makes_require.bind
  intro _
  apply (makes_ask (verifies _)).bind
  intro rowsUpdated
  exact makes_require.bind fun _ => (makes_attempt (deletes _)).bind fun _ => makes_pure

theorem makes_forgotPassword {token email : String} :
    (forgotPassword config token email).Makes (TokenRequest.forgotPassword token email).Allows := by
  rw [forgotPassword]
  split
  · apply (makes_ask trivial).bind
    intro users
    split
    · exact makes_pure
    · split
      · apply (makes_ask (.inl rfl)).bind
        intro _
        exact ((makes_ask trivial).onError (makes_attempt trivial)).bind fun _ => makes_pure
      · exact makes_pure
  · exact makes_pure

theorem makes_resetPassword {passwordHash : Option String} {request : ResetPasswordRequest}
    {allowed : StoreCall → Prop} (takes : ∀ key, allowed (.getAndDeleteKey key))
    (updates : ∀ userId hash, allowed (.updatePassword userId hash)) :
    (resetPassword passwordHash request).Makes allowed := by
  apply makes_require.bind
  intro _
  apply makes_orError.bind
  intro newHash
  apply (makes_ask (takes _)).bind
  intro held
  apply makes_orError.bind
  intro stored
  apply makes_orError.bind
  intro userId
  apply makes_require.bind
  intro _
  exact (makes_ask (updates _ _)).bind fun _ => makes_require.bind fun _ => makes_pure

theorem makes_loadMerchant {merchantId : String} {allowed : StoreCall → Prop}
    (reads : ∀ merchantId, allowed (.findMerchantAccounts merchantId)) :
    (loadMerchant around merchantId).Makes allowed := by
  rw [loadMerchant]
  split
  · exact makes_pure
  · exact (makes_ask (reads merchantId)).bind fun _ => makes_require

theorem makes_grant {request : AdminMerchantTokenRequest} {allowed : StoreCall → Prop} :
    request.grant.Makes allowed := by
  rw [AdminMerchantTokenRequest.grant]
  split
  · exact makes_pure
  · exact makes_orError.bind fun _ => makes_pure

theorem makes_adminMerchantToken {code : String} {request : AdminMerchantTokenRequest} :
    (adminMerchantToken config around code request).Makes
      (TokenRequest.adminMerchantToken around code request).Allows := by
  apply makes_require.bind
  intro _
  apply (makes_loadMerchant fun _ => trivial).bind
  intro _
  apply makes_grant.bind
  intro grant
  exact (makes_ask (.inl rfl)).bind fun _ => makes_pure

theorem makes_exchangeMerchantToken {code : String} {allowed : StoreCall → Prop}
    (reads : ∀ key, allowed (.getKey key)) (deletes : ∀ key, allowed (.deleteKey key))
    (signs : ∀ claims, allowed (.signToken claims)) :
    (exchangeMerchantToken config around code).Makes allowed := by
  apply (makes_ask (reads _)).bind
  intro stored
  apply makes_orError.bind
  intro entry
  apply (makes_ask (deletes _)).bind
  intro claimed
  apply makes_require.bind
  intro _
  exact (makes_ask (signs _)).bind fun _ => makes_pure

/-- The calls of a request are about its own token, email and user. -/
theorem makes_handler (request : TokenRequest) :
    (request.handler config).Makes request.Allows := by
  cases request with
  | signup around request => exact makes_signup
  | verifyEmail token =>
      exact makes_verifyEmail (fun _ => trivial) (fun _ => trivial) fun _ => trivial
  | forgotPassword token email => exact makes_forgotPassword
  | resetPassword passwordHash request =>
      exact makes_resetPassword (fun _ => trivial) fun _ _ => trivial
  | adminMerchantToken around code request => exact makes_adminMerchantToken
  | exchangeMerchantToken around code =>
      exact makes_exchangeMerchantToken (fun _ => trivial) (fun _ => trivial) fun _ => trivial

end Makes

/-! ## The calls of a request that succeeds -/

section Succeeds

open Handling

theorem succeeds_resetPassword {passwordHash : Option String} {request : ResetPasswordRequest} :
    (resetPassword passwordHash request).Succeeds fun history _ =>
      ∃ stored, (⟨.getAndDeleteKey (passwordResetPrefix ++ request.token), some (some stored)⟩ :
        StoreEntry) ∈ history := by
  rw [resetPassword, succeeds_bind, succeeds_require]
  intro _
  rw [succeeds_bind, succeeds_orError]
  intro newHash _
  rw [succeeds_bind, succeeds_ask]
  intro held
  rw [succeeds_bind, succeeds_orError]
  intro stored isStored
  apply succeeds_of_forall
  intro history _
  rw [isStored]
  exact ⟨stored, List.mem_cons_self⟩

variable {config : TokenConfig} {around : Surroundings}

theorem succeeds_exchangeMerchantToken {code : String} :
    (exchangeMerchantToken config around code).Succeeds fun history _ =>
      (⟨.deleteKey (hsSsoCodePrefix ++ code), some true⟩ : StoreEntry) ∈ history := by
  rw [exchangeMerchantToken, succeeds_bind, succeeds_ask]
  intro stored
  rw [succeeds_bind, succeeds_orError]
  intro entry _
  rw [succeeds_bind, succeeds_ask]
  intro claimed
  rw [succeeds_bind, succeeds_require]
  intro isClaimed
  apply succeeds_of_forall
  intro history _
  rw [isClaimed]
  exact List.mem_cons_of_mem _ List.mem_cons_self

/-- No user is deleted. -/
def DeletesNone (history : List StoreEntry) : Prop :=
  ∀ entry ∈ history, ∀ userId, entry.1 ≠ .deleteUser userId

@[simp]
theorem deletesNone_nil : DeletesNone [] :=
  nofun

@[simp]
theorem deletesNone_cons {entry : StoreEntry} {history : List StoreEntry} :
    DeletesNone (entry :: history) ↔
      (∀ userId, entry.1 ≠ .deleteUser userId) ∧ DeletesNone history :=
  List.forall_mem_cons

@[simp]
theorem deletesNone_append {earlier later : List StoreEntry} :
    DeletesNone (earlier ++ later) ↔ DeletesNone earlier ∧ DeletesNone later :=
  List.forall_mem_append

theorem succeeds_attachUser {userId : String} {requested : Option String} :
    (attachUser userId requested).Succeeds fun history _ => DeletesNone history := by
  cases requested with
  | none =>
      rw [attachUser, succeeds_pure]
      exact deletesNone_nil
  | some merchantId =>
      rw [attachUser, succeeds_ask]
      simp

theorem succeeds_requireMerchant {requested : Option String} :
    (requireMerchant requested).Succeeds fun history _ => DeletesNone history := by
  cases requested with
  | none =>
      rw [requireMerchant, succeeds_pure]
      exact deletesNone_nil
  | some merchantId =>
      rw [requireMerchant, succeeds_bind, succeeds_ask]
      intro existing
      rw [succeeds_require]
      simp

/-- A user is inserted, and none is deleted. -/
def Registers (user : User) (history : List StoreEntry) : Prop :=
  (⟨.insertUser user, some ()⟩ : StoreEntry) ∈ history ∧ DeletesNone history

theorem succeeds_signupUnverified {request : SignupRequest} {user : User} :
    (signupUnverified around request user).Succeeds fun history _ => Registers user history := by
  rw [signupUnverified, succeeds_bind, succeeds_ask]
  intro acquired
  rw [succeeds_bind, succeeds_require]
  intro _
  rw [succeeds_bind, succeeds_onError, succeeds_ask]
  intro _
  rw [succeeds_bind, succeeds_onError, succeeds_ask]
  intro _
  rw [succeeds_bind, succeeds_onError, succeeds_ask]
  intro _
  rw [succeeds_bind, succeeds_onError]
  apply succeeds_attachUser.mono
  intro attached _ noneDeleted
  rw [succeeds_bind, succeeds_attempt]
  intro released
  rw [succeeds_pure]
  constructor
  · simp
  · simp [noneDeleted]

theorem succeeds_signupVerified {user : User} :
    (signupVerified config around user).Succeeds fun history _ => Registers user history := by
  rw [signupVerified, succeeds_bind, succeeds_ask]
  intro _
  rw [succeeds_bind]
  apply succeeds_attachUser.mono
  intro attached _ noneDeleted
  rw [succeeds_bind, succeeds_ask]
  intro _
  rw [succeeds_bind, succeeds_ask]
  intro merchants
  rw [succeeds_pure]
  constructor
  · simp
  · simp [noneDeleted]

theorem succeeds_signup {request : SignupRequest} :
    (signup config around request).Succeeds fun history _ =>
      ∃ user : User, user.userId = around.userId ∧ user.email = request.email ∧
        Registers user history := by
  rw [signup, succeeds_bind, succeeds_require]
  intro _
  rw [succeeds_bind, succeeds_ask]
  intro existing
  rw [succeeds_bind, succeeds_require]
  intro _
  rw [succeeds_bind, succeeds_require]
  intro _
  rw [succeeds_bind, succeeds_orError]
  intro passwordHash _
  rw [succeeds_bind]
  apply succeeds_requireMerchant.mono
  intro required _ noneDeleted
  have isRegistered {user : User} {history : List StoreEntry} (registers : Registers user history) :
      Registers user ([⟨.findUsersByEmail request.email, some existing⟩] ++
        ([] ++ ([] ++ ([] ++ (required ++ history))))) := by
    rcases registers with ⟨inserted, othersKept⟩
    constructor
    · simp [inserted]
    · simp [noneDeleted, othersKept]
  split
  · apply succeeds_signupUnverified.mono
    intro history _ registers
    exact ⟨_, rfl, rfl, isRegistered registers⟩
  · apply succeeds_signupVerified.mono
    intro history _ registers
    exact ⟨_, rfl, rfl, isRegistered registers⟩

end Succeeds

end DecisionEngine.Auth.SingleUse
