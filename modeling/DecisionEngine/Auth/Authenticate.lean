import DecisionEngine.Auth.ApiKeys
import DecisionEngine.Auth.Jwt

/-!
# The merchant of a request

A request is authenticated by a session, by the shared admin secret or by an API key.  The
merchant of a key is the one of its row, or the one that the cache has for its hash.  Who a
request of a merchant is authenticated as depends on the keys of this merchant only.
-/

namespace DecisionEngine.Auth

open Database

/-! ## Access -/

inductive Method where
  | get
  | head
  | options
  | post
  | put
  | delete
  /-- Any other, by its name. -/
  | other (name : String)
  deriving DecidableEq

def readOnlyPostRoutes : List String :=
  ["/routing/list/:created_by", "/routing/list/active/:created_by", "/routing/evaluate",
    "/rule/get", "/merchant-account/:merchant-id/seed-costs/simulate"]

/-- The permission of a request by its method and the pattern of its route. -/
def requiredPermission (method : Method) (matchedPath : Option String) : Permission :=
  if method = .get ∨ method = .head ∨ method = .options then .routingRead
  else if method = .post ∧ matchedPath.any fun path => readOnlyPostRoutes.contains path then
    .routingRead
  else .routingWrite

inductive AuthKind where
  | jwt
  | apiKey
  deriving DecidableEq

structure AuthContext where
  merchantId : String
  authKind : AuthKind
  userId : Option String
  email : Option String
  role : Option String
  /-- A service credential is not limited. -/
  permissions : Option (List Permission)
  deriving DecidableEq

def AuthContext.fromJwt (claims : Jwt.JwtClaims) (requireExplicitPermissions : Bool) :
    AuthContext where
  merchantId := claims.merchantId
  authKind := .jwt
  userId := some claims.userId
  email := some claims.email
  role := some claims.role
  permissions := some (claims.permissions requireExplicitPermissions)

def AuthContext.fromApiKey (merchantId : String) : AuthContext where
  merchantId := merchantId
  authKind := .apiKey
  userId := none
  email := none
  role := none
  permissions := none

def AuthContext.allows (context : AuthContext) (permission : Permission) : Bool :=
  match context.permissions with
  | some held => held.contains permission
  | none => true

/-! ## Keys -/

/-- A row of `merchant_api_keys` with all its columns. -/
structure ApiKeyRow extends MerchantApiKey where
  keyPrefix : String
  description : Option String
  createdAt : Nat

def SameRow (first second : ApiKeyRow) : Prop :=
  SameKey first.toMerchantApiKey second.toMerchantApiKey

instance : DecidableRel SameRow :=
  fun _ _ => inferInstanceAs (Decidable (SameKey _ _))

instance : Std.Symm SameRow :=
  ⟨fun _ _ same => Std.Symm.symm (r := SameKey) _ _ same⟩

/-- A merchant in the cache, until its time is over. -/
structure CachedMerchant where
  merchantId : String
  expiresAt : Nat

structure ApiKeyStore where
  apiKeys : Table ApiKeyRow SameRow
  cache : String → Option CachedMerchant

def apiKeyCacheTtl : Nat := 300

namespace ApiKeyStore

/-- The merchant that the cache has for a key; an empty text is none. -/
def cachedMerchant (store : ApiKeyStore) (now : Nat) (keyHash : String) : Option String :=
  match store.cache (apiKeyCacheKey keyHash) with
  | some cached =>
      if now < cached.expiresAt ∧ cached.merchantId ≠ "" then some cached.merchantId else none
  | none => none

/-- The last row of the hash. -/
def keyRecord (store : ApiKeyStore) (keyHash : String) : Option ApiKeyRow :=
  (store.apiKeys.rows.filter fun key => key.keyHash = keyHash).getLast?

def setKeyWithTtl (store : ApiKeyStore) (now : Nat) (keyHash merchantId : String) :
    ApiKeyStore :=
  { store with
    cache := Function.update store.cache (apiKeyCacheKey keyHash)
      (some ⟨merchantId, now + apiKeyCacheTtl⟩) }

def deleteKey (store : ApiKeyStore) (keyHash : String) : ApiKeyStore :=
  { store with cache := Function.update store.cache (apiKeyCacheKey keyHash) none }

end ApiKeyStore

/-! ## The middleware -/

structure MiddlewareConfig where
  adminSecret : String
  apiKeyAuthEnabled : Bool
  requireExplicitPermissions : Bool
  /-- The digest of a key, in hexadecimal. -/
  hashApiKey : String → String

/-- The credentials of a request. -/
structure Credentials where
  /-- The claims of the token of the session; `some none` is a token that is not accepted. -/
  bearer : Option (Option Jwt.JwtClaims)
  adminSecret : Option String
  apiKey : Option String

/-- The time of a request, and which calls of its authentication succeed. -/
structure AuthCalls where
  now : Nat
  tenant : Bool
  cacheRead : Bool
  lookup : Bool
  cacheWrite : Bool

/-- A request goes on, with a merchant unless it came with the admin secret or without
authentication, or it is refused with a status and a text. -/
inductive AuthOutcome where
  | admitted (context : Option AuthContext)
  | refused (status : Nat) (message : String)
  deriving DecidableEq

/-- The merchant that a request is authenticated as. -/
def AuthOutcome.merchant : AuthOutcome → Option String
  | .admitted (some context) => some context.merchantId
  | _ => none

def authenticateKey (calls : AuthCalls) (keyHash : String) (store : ApiKeyStore) :
    AuthOutcome × ApiKeyStore :=
  if !calls.tenant then (.refused 500 "Tenant not found", store)
  else
    match (store.cachedMerchant calls.now keyHash).filter fun _ => calls.cacheRead with
    | some merchantId => (.admitted (some (.fromApiKey merchantId)), store)
    | none =>
        match (store.keyRecord keyHash).filter fun _ => calls.lookup with
        | some record =>
            if record.isActive then
              (.admitted (some (.fromApiKey record.merchantId)),
                if calls.cacheWrite then store.setKeyWithTtl calls.now keyHash record.merchantId
                else store)
            else (.refused 401 "API key is revoked", store)
        | none => (.refused 401 "Invalid API key", store)

def authenticate (config : MiddlewareConfig) (method : Method) (matchedPath : Option String)
    (credentials : Credentials) (calls : AuthCalls) (store : ApiKeyStore) :
    AuthOutcome × ApiKeyStore :=
  match credentials.bearer, credentials.adminSecret, credentials.apiKey with
  | some none, _, _ => (.refused 401 "Invalid or expired token", store)
  | some (some claims), _, _ =>
      let context := AuthContext.fromJwt claims config.requireExplicitPermissions
      let required := requiredPermission method matchedPath
      if context.allows required then (.admitted (some context), store)
      else (.refused 403 ("This session does not have " ++ Jwt.asStr required), store)
  | none, some provided, _ =>
      if config.adminSecret ≠ "" ∧ provided = config.adminSecret then (.admitted none, store)
      else (.refused 401 "Invalid admin secret", store)
  | none, none, apiKey =>
      if !config.apiKeyAuthEnabled then (.admitted none, store)
      else
        match apiKey with
        | none => (.refused 401 "Missing authentication credentials", store)
        | some key => authenticateKey calls (config.hashApiKey key) store

/-! ## The keys of one merchant -/

namespace ApiKeyStore

/-- The rows of a merchant. -/
def keysOf (store : ApiKeyStore) (merchantId : String) : List ApiKeyRow :=
  store.apiKeys.rows.filter fun key => key.merchantId = merchantId

/-- The entry of a hash, when it names the merchant. -/
def cachedFor (store : ApiKeyStore) (merchantId keyHash : String) : Option CachedMerchant :=
  (store.cache (apiKeyCacheKey keyHash)).filter fun cached => cached.merchantId = merchantId

/-- An entry names the merchant of the row of its hash. -/
def Coherent (store : ApiKeyStore) : Prop :=
  ∀ keyHash cached, store.cache (apiKeyCacheKey keyHash) = some cached →
    ∃ key ∈ store.apiKeys, key.keyHash = keyHash ∧ key.merchantId = cached.merchantId

end ApiKeyStore

/-- Two stores with the same keys and entries of a merchant; the second store has no key that
the first one has not. -/
structure SameFor (merchantId : String) (first second : ApiKeyStore) : Prop where
  rows : first.keysOf merchantId = second.keysOf merchantId
  cached : ∀ keyHash, first.cachedFor merchantId keyHash = second.cachedFor merchantId keyHash
  known : ∀ key ∈ second.apiKeys, ∃ other ∈ first.apiKeys,
    other.keyId = key.keyId ∧ other.keyHash = key.keyHash ∧ other.merchantId = key.merchantId
  coherentFirst : first.Coherent
  coherentSecond : second.Coherent

section Stores

variable {store first second : ApiKeyStore} {merchantId keyHash : String} {key : ApiKeyRow}
  {calls : AuthCalls}

theorem SameFor.refl (coherent : store.Coherent) (merchantId : String) :
    SameFor merchantId store store :=
  ⟨rfl, fun _ => rfl, fun key keyMem => ⟨key, keyMem, rfl, rfl, rfl⟩, coherent, coherent⟩

theorem mem_keysOf : key ∈ store.keysOf merchantId ↔
    key ∈ store.apiKeys ∧ key.merchantId = merchantId := by
  rw [ApiKeyStore.keysOf, List.mem_filter, decide_eq_true_eq]
  rfl

theorem eq_of_sameHash {other : ApiKeyRow} (keyMem : key ∈ store.apiKeys)
    (otherMem : other ∈ store.apiKeys) (sameHash : key.keyHash = other.keyHash) : key = other :=
  Table.eq_of_conflict keyMem otherMem (Or.inr sameHash)

theorem keyRecord_eq_some_iff :
    store.keyRecord keyHash = some key ↔ key ∈ store.apiKeys ∧ key.keyHash = keyHash := by
  constructor
  · intro found
    have keyMem := List.mem_of_getLast? found
    rw [List.mem_filter, decide_eq_true_eq] at keyMem
    exact keyMem
  · rintro ⟨keyMem, isHash⟩
    cases found : store.keyRecord keyHash with
    | none =>
        have noRows := List.getLast?_eq_none_iff.mp found
        have listed : key ∈ store.apiKeys.rows.filter fun key => key.keyHash = keyHash :=
          List.mem_filter.mpr ⟨keyMem, decide_eq_true isHash⟩
        rw [noRows] at listed
        cases listed
    | some other =>
        have otherMem := List.mem_of_getLast? found
        rw [List.mem_filter, decide_eq_true_eq] at otherMem
        rw [eq_of_sameHash keyMem otherMem.1 (isHash.trans otherMem.2.symm)]

/-- The entry of a key of the merchant names the merchant. -/
theorem cache_eq_cachedFor (coherent : store.Coherent) (keyMem : key ∈ store.apiKeys)
    (isHash : key.keyHash = keyHash) (isMerchant : key.merchantId = merchantId) :
    store.cache (apiKeyCacheKey keyHash) = store.cachedFor merchantId keyHash := by
  rw [ApiKeyStore.cachedFor]
  cases entry : store.cache (apiKeyCacheKey keyHash) with
  | none => rfl
  | some cached =>
      rcases coherent keyHash cached entry with ⟨other, otherMem, otherHash, otherMerchant⟩
      have same := eq_of_sameHash keyMem otherMem (isHash.trans otherHash.symm)
      rw [Option.filter_some, if_pos]
      rw [← otherMerchant, ← same, isMerchant, decide_eq_true rfl]

/-- The entry of a key of another merchant is none of the merchant. -/
theorem cachedFor_eq_none (coherent : store.Coherent) (keyMem : key ∈ store.apiKeys)
    (isHash : key.keyHash = keyHash) (notMerchant : key.merchantId ≠ merchantId) :
    store.cachedFor merchantId keyHash = none := by
  rw [ApiKeyStore.cachedFor, Option.filter_eq_none_iff]
  intro cached entry isMerchant
  rcases coherent keyHash cached entry with ⟨other, otherMem, otherHash, otherMerchant⟩
  have same := eq_of_sameHash keyMem otherMem (isHash.trans otherHash.symm)
  rw [same, otherMerchant] at notMerchant
  exact notMerchant (of_decide_eq_true isMerchant)

theorem apiKeyCacheKey_inj {other : String} :
    apiKeyCacheKey keyHash = apiKeyCacheKey other ↔ keyHash = other := by
  rw [apiKeyCacheKey, apiKeyCacheKey, String.append_right_inj]

theorem cache_setKeyWithTtl (now : Nat) (named other : String) :
    (store.setKeyWithTtl now keyHash named).cache (apiKeyCacheKey other) =
      if other = keyHash then some ⟨named, now + apiKeyCacheTtl⟩
      else store.cache (apiKeyCacheKey other) := by
  simp only [ApiKeyStore.setKeyWithTtl, Function.update_apply, apiKeyCacheKey_inj]

theorem cache_deleteKey (other : String) :
    (store.deleteKey keyHash).cache (apiKeyCacheKey other) =
      if other = keyHash then none else store.cache (apiKeyCacheKey other) := by
  simp only [ApiKeyStore.deleteKey, Function.update_apply, apiKeyCacheKey_inj]

theorem cachedFor_setKeyWithTtl (now : Nat)
    (named other : String) :
    (store.setKeyWithTtl now keyHash named).cachedFor merchantId other =
      if other = keyHash then
        (some ⟨named, now + apiKeyCacheTtl⟩ : Option CachedMerchant).filter
          fun cached => cached.merchantId = merchantId
      else store.cachedFor merchantId other := by
  rw [ApiKeyStore.cachedFor, cache_setKeyWithTtl]
  split <;> rfl

theorem coherent_setKeyWithTtl (coherent : store.Coherent) (now : Nat)
    (keyMem : key ∈ store.apiKeys) :
    (store.setKeyWithTtl now key.keyHash key.merchantId).Coherent := by
  intro other cached entry
  rw [cache_setKeyWithTtl] at entry
  split at entry
  · next sameHash =>
      cases entry
      exact ⟨key, keyMem, sameHash.symm, rfl⟩
  · exact coherent other cached entry

end Stores

/-! ## Authentication of one merchant -/

section Authentication

variable {config : MiddlewareConfig} {method : Method} {matchedPath : Option String}
  {credentials : Credentials} {calls : AuthCalls} {store first second : ApiKeyStore}
  {merchantId keyHash : String}

/-- What an authentication does to the store: nothing, or the merchant of a row is written to
the cache. -/
inductive AuthStep (calls : AuthCalls) (store : ApiKeyStore) : AuthOutcome × ApiKeyStore → Prop
  | reads (admission : AuthOutcome) : AuthStep calls store (admission, store)
  | fills {key : ApiKeyRow} (keyMem : key ∈ store.apiKeys) :
      AuthStep calls store (.admitted (some (.fromApiKey key.merchantId)),
        store.setKeyWithTtl calls.now key.keyHash key.merchantId)

theorem authStep_authenticateKey (calls : AuthCalls) (store : ApiKeyStore) :
    AuthStep calls store (authenticateKey calls keyHash store) := by
  rw [authenticateKey]
  split
  · exact .reads _
  · split
    · exact .reads _
    · split
      · next record found =>
          split
          · split
            · rcases keyRecord_eq_some_iff.mp (Option.filter_eq_some_iff.mp found).1 with
                ⟨keyMem, isHash⟩
              rw [← isHash]
              exact .fills keyMem
            · exact .reads _
          · exact .reads _
      · exact .reads _

theorem authStep_authenticate (config : MiddlewareConfig) (method : Method)
    (matchedPath : Option String) (credentials : Credentials) (calls : AuthCalls)
    (store : ApiKeyStore) :
    AuthStep calls store (authenticate config method matchedPath credentials calls store) := by
  rw [authenticate]
  split
  · exact .reads _
  · dsimp only
    split
    · exact .reads _
    · exact .reads _
  · split
    · exact .reads _
    · exact .reads _
  · split
    · exact .reads _
    · split
      · exact .reads _
      · exact authStep_authenticateKey calls store

/-- An authentication as another merchant changes nothing for the merchant. -/
theorem SameFor.authenticate_other (same : SameFor merchantId first second)
    (notMerchant : (authenticate config method matchedPath credentials calls first).1.merchant ≠
      some merchantId) :
    SameFor merchantId (authenticate config method matchedPath credentials calls first).2
      second := by
  have step := authStep_authenticate config method matchedPath credentials calls first
  generalize authenticate config method matchedPath credentials calls first = result
    at step notMerchant ⊢
  cases step with
  | reads admission => exact same
  | @fills key keyMem =>
      have differs : key.merchantId ≠ merchantId := fun isMerchant =>
        notMerchant (congrArg some isMerchant)
      refine ⟨same.rows, ?_, same.known,
        coherent_setKeyWithTtl same.coherentFirst calls.now keyMem, same.coherentSecond⟩
      intro other
      rw [cachedFor_setKeyWithTtl]
      split
      · next sameHash =>
          rw [← same.cached, sameHash,
            cachedFor_eq_none same.coherentFirst keyMem rfl differs, Option.filter_some, if_neg]
          simpa using differs
      · exact same.cached other

/-- At a key of the merchant the two stores read the same. -/
theorem SameFor.at_own_key (same : SameFor merchantId first second) {key : ApiKeyRow}
    (keyMem : key ∈ first.apiKeys) (isHash : key.keyHash = keyHash)
    (isMerchant : key.merchantId = merchantId) :
    key ∈ second.apiKeys ∧
      first.cache (apiKeyCacheKey keyHash) = second.cache (apiKeyCacheKey keyHash) ∧
      first.keyRecord keyHash = second.keyRecord keyHash := by
  have listed : key ∈ second.keysOf merchantId :=
    same.rows ▸ mem_keysOf.mpr ⟨keyMem, isMerchant⟩
  have secondMem := (mem_keysOf.mp listed).1
  refine ⟨secondMem, ?_, ?_⟩
  · rw [cache_eq_cachedFor same.coherentFirst keyMem isHash isMerchant, same.cached,
      cache_eq_cachedFor same.coherentSecond secondMem isHash isMerchant]
  · rw [keyRecord_eq_some_iff.mpr ⟨keyMem, isHash⟩, keyRecord_eq_some_iff.mpr ⟨secondMem, isHash⟩]

/-- A key that is authenticated as the merchant is a key of the merchant. -/
theorem exists_key_of_merchant (coherent : store.Coherent)
    (isMerchant : (authenticateKey calls keyHash store).1.merchant = some merchantId) :
    ∃ key ∈ store.apiKeys, key.keyHash = keyHash ∧ key.merchantId = merchantId := by
  rw [authenticateKey] at isMerchant
  split at isMerchant
  · cases isMerchant
  · split at isMerchant
    · next cachedMerchantId found =>
        cases isMerchant
        have isCached := (Option.filter_eq_some_iff.mp found).1
        rw [ApiKeyStore.cachedMerchant] at isCached
        split at isCached
        · next cached entry =>
            split at isCached
            · cases isCached
              exact coherent keyHash cached entry
            · cases isCached
        · cases isCached
    · split at isMerchant
      · next record found =>
          split at isMerchant
          · cases isMerchant
            rcases keyRecord_eq_some_iff.mp (Option.filter_eq_some_iff.mp found).1 with
              ⟨keyMem, isHash⟩
            exact ⟨record, keyMem, isHash, rfl⟩
          · cases isMerchant
      · cases isMerchant

theorem SameFor.setKeyWithTtl (same : SameFor merchantId first second) (now : Nat)
    {key : ApiKeyRow} (firstMem : key ∈ first.apiKeys) (secondMem : key ∈ second.apiKeys) :
    SameFor merchantId (first.setKeyWithTtl now key.keyHash key.merchantId)
      (second.setKeyWithTtl now key.keyHash key.merchantId) := by
  refine ⟨same.rows, ?_, same.known, coherent_setKeyWithTtl same.coherentFirst now firstMem,
    coherent_setKeyWithTtl same.coherentSecond now secondMem⟩
  intro other
  rw [cachedFor_setKeyWithTtl, cachedFor_setKeyWithTtl, same.cached]

/-- An authentication by a key of the merchant has the same result at both stores. -/
theorem SameFor.authenticateKey_own (same : SameFor merchantId first second) {key : ApiKeyRow}
    (keyMem : key ∈ first.apiKeys) (isHash : key.keyHash = keyHash)
    (isOwner : key.merchantId = merchantId) :
    (authenticateKey calls keyHash first).1 = (authenticateKey calls keyHash second).1 ∧
      SameFor merchantId (authenticateKey calls keyHash first).2
        (authenticateKey calls keyHash second).2 := by
  rcases same.at_own_key keyMem isHash isOwner with ⟨secondMem, sameCache, sameRecord⟩
  have sameCached : second.cachedMerchant calls.now keyHash =
      first.cachedMerchant calls.now keyHash := by
    rw [ApiKeyStore.cachedMerchant, ApiKeyStore.cachedMerchant, sameCache]
  rw [authenticateKey, authenticateKey, sameCached, ← sameRecord]
  split
  · exact ⟨rfl, same⟩
  · split
    · exact ⟨rfl, same⟩
    · split
      · next record found =>
          rcases keyRecord_eq_some_iff.mp (Option.filter_eq_some_iff.mp found).1 with
            ⟨recordMem, recordHash⟩
          have isKey := eq_of_sameHash recordMem keyMem (recordHash.trans isHash.symm)
          split
          · refine ⟨rfl, ?_⟩
            split
            · rw [isKey, ← isHash]
              exact same.setKeyWithTtl calls.now keyMem secondMem
            · exact same
          · exact ⟨rfl, same⟩
      · exact ⟨rfl, same⟩

/-- Credentials with which either store authenticates as the merchant have the same result at
both. -/
theorem SameFor.authenticate_eq (same : SameFor merchantId first second)
    (isMerchant :
      (authenticate config method matchedPath credentials calls first).1.merchant =
          some merchantId ∨
        (authenticate config method matchedPath credentials calls second).1.merchant =
          some merchantId) :
    (authenticate config method matchedPath credentials calls first).1 =
        (authenticate config method matchedPath credentials calls second).1 ∧
      SameFor merchantId (authenticate config method matchedPath credentials calls first).2
        (authenticate config method matchedPath credentials calls second).2 := by
  simp only [authenticate] at isMerchant ⊢
  rcases credentials with ⟨_ | _ | claims, _ | provided, apiKey⟩
  · dsimp only at isMerchant ⊢
    by_cases disabled : (!config.apiKeyAuthEnabled) = true
    · rw [if_pos disabled, if_pos disabled]
      exact ⟨rfl, same⟩
    · rw [if_neg disabled, if_neg disabled] at isMerchant ⊢
      cases apiKey with
      | none => exact ⟨rfl, same⟩
      | some key =>
          dsimp only at isMerchant ⊢
          rcases isMerchant with atFirst | atSecond
          · rcases exists_key_of_merchant same.coherentFirst atFirst with
              ⟨key, keyMem, isHash, isOwner⟩
            exact same.authenticateKey_own keyMem isHash isOwner
          · rcases exists_key_of_merchant same.coherentSecond atSecond with
              ⟨key, keyMem, isHash, isOwner⟩
            have listed : key ∈ first.keysOf merchantId :=
              same.rows ▸ mem_keysOf.mpr ⟨keyMem, isOwner⟩
            exact same.authenticateKey_own (mem_keysOf.mp listed).1 isHash isOwner
  · dsimp only
    split
    · exact ⟨rfl, same⟩
    · exact ⟨rfl, same⟩
  · exact ⟨rfl, same⟩
  · exact ⟨rfl, same⟩
  · dsimp only
    split
    · exact ⟨rfl, same⟩
    · exact ⟨rfl, same⟩
  · dsimp only
    split
    · exact ⟨rfl, same⟩
    · exact ⟨rfl, same⟩

/-- Both stores accept the same credentials as the merchant's. -/
theorem SameFor.merchant_iff (same : SameFor merchantId first second) (config : MiddlewareConfig)
    (method : Method) (matchedPath : Option String) (credentials : Credentials)
    (calls : AuthCalls) :
    (authenticate config method matchedPath credentials calls first).1.merchant =
        some merchantId ↔
      (authenticate config method matchedPath credentials calls second).1.merchant =
        some merchantId := by
  constructor
  · intro atFirst
    rw [← (same.authenticate_eq (Or.inl atFirst)).1]
    exact atFirst
  · intro atSecond
    rw [(same.authenticate_eq (Or.inr atSecond)).1]
    exact atSecond

/-- An authentication leaves the rows. -/
theorem apiKeys_authenticate (config : MiddlewareConfig) :
    (authenticate config method matchedPath credentials calls store).2.apiKeys =
      store.apiKeys := by
  have step := authStep_authenticate config method matchedPath credentials calls store
  generalize authenticate config method matchedPath credentials calls store = result at step ⊢
  cases step with
  | reads admission => rfl
  | fills keyMem => rfl

end Authentication

end DecisionEngine.Auth
