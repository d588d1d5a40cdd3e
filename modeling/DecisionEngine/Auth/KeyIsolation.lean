import DecisionEngine.Auth.Authenticate
import DecisionEngine.Transition.Separation

/-!
# Isolation of API keys

The requests that create, list and revoke keys take the merchant or the key from the body or
the path, whoever they are authenticated as.  The keys of a merchant are isolated from the
requests of others when every request names the merchant that it is authenticated as.
-/

namespace DecisionEngine.Auth

open Database Transition

/-! ## Requests and answers -/

inductive ApiKeyError where
  | creationFailed
  | revocationFailed
  | storageError
  deriving DecidableEq

structure CreateApiKeyRequest where
  merchantId : String
  description : Option String

structure CreateApiKeyResponse where
  keyId : String
  apiKey : String
  keyPrefix : String
  merchantId : String
  description : Option String
  createdAt : Nat

structure ApiKeyListItem where
  keyId : String
  keyPrefix : String
  merchantId : String
  description : Option String
  isActive : Bool
  createdAt : Nat

structure RevokeApiKeyResponse where
  keyId : String
  message : String

/-- The id and the key that are drawn for a new key. -/
structure DrawnKey where
  keyId : String
  rawKey : String

inductive ApiKeyOperation where
  | create (payload : CreateApiKeyRequest) (drawn : DrawnKey)
  | list (merchantId : String)
  | revoke (keyId : String)

def ApiKeyOperation.method : ApiKeyOperation → Method
  | .create _ _ => .post
  | .list _ => .get
  | .revoke _ => .delete

def ApiKeyOperation.matchedPath : ApiKeyOperation → String
  | .create _ _ => "/api-key/create"
  | .list _ => "/api-key/list/:merchant_id"
  | .revoke _ => "/api-key/:key_id"

/-- Which calls of a handler succeed. -/
structure HandlerCalls where
  connection : Bool
  statement : Bool
  collect : Bool
  evict : Bool

structure ApiKeyRequest where
  credentials : Credentials
  authCalls : AuthCalls
  operation : ApiKeyOperation
  calls : HandlerCalls

inductive ApiKeyAnswer where
  | refused (status : Nat) (message : String)
  | created (result : Except ApiKeyError CreateApiKeyResponse)
  | listed (result : Except ApiKeyError (List ApiKeyListItem))
  | revoked (result : Except ApiKeyError RevokeApiKeyResponse)

/-! ## Handlers -/

/-- The prefix of keys and the first eight letters after it; a key is in ASCII. -/
def extractKeyPrefix (key : String) : String :=
  let letters := key.toList
  let hexPart := if "DE_".toList.isPrefixOf letters then letters.drop 3 else letters
  "DE_" ++ String.ofList (hexPart.take 8)

def newKey (hashApiKey : String → String) (payload : CreateApiKeyRequest) (drawn : DrawnKey)
    (now : Nat) : ApiKeyRow where
  keyId := drawn.keyId
  merchantId := payload.merchantId
  keyHash := hashApiKey drawn.rawKey
  isActive := true
  keyPrefix := extractKeyPrefix drawn.rawKey
  description := payload.description
  createdAt := now

def createApiKey (hashApiKey : String → String) (calls : HandlerCalls) (now : Nat)
    (payload : CreateApiKeyRequest) (drawn : DrawnKey) (store : ApiKeyStore) :
    Except ApiKeyError CreateApiKeyResponse × ApiKeyStore :=
  match (store.apiKeys.insert (newKey hashApiKey payload drawn now)).filter
      fun _ => calls.statement with
  | none => (.error .creationFailed, store)
  | some apiKeys =>
      (.ok
        { keyId := drawn.keyId
          apiKey := drawn.rawKey
          keyPrefix := extractKeyPrefix drawn.rawKey
          merchantId := payload.merchantId
          description := payload.description
          createdAt := now },
        { store with apiKeys := apiKeys })

def ApiKeyRow.listItem (key : ApiKeyRow) : ApiKeyListItem where
  keyId := key.keyId
  keyPrefix := key.keyPrefix
  merchantId := key.merchantId
  description := key.description
  isActive := key.isActive
  createdAt := key.createdAt

def listApiKeys (calls : HandlerCalls) (merchantId : String) (store : ApiKeyStore) :
    Except ApiKeyError (List ApiKeyListItem) :=
  if calls.statement then .ok ((store.keysOf merchantId).map ApiKeyRow.listItem)
  else .error .storageError

def ApiKeyRow.revoked (key : ApiKeyRow) : ApiKeyRow :=
  { key with isActive := false }

theorem keeps_revokedRow (keyId : String) :
    Table.Keeps SameRow (fun key => decide (key.keyId = keyId)) ApiKeyRow.revoked :=
  fun _ _ _ => ⟨Iff.rfl, Iff.rfl⟩

/-- Delete the entries of hashes. -/
def ApiKeyStore.deleteKeys (store : ApiKeyStore) (hashes : List String) : ApiKeyStore :=
  hashes.foldl ApiKeyStore.deleteKey store

/-- The hashes of the rows of an id. -/
def ApiKeyStore.hashesOf (store : ApiKeyStore) (keyId : String) : List String :=
  (store.apiKeys.rows.filter fun key => key.keyId = keyId).map fun key => key.keyHash

/-- A revocation succeeds whether or not the entries of the key could be deleted. -/
def revokeApiKey (calls : HandlerCalls) (keyId : String) (store : ApiKeyStore) :
    Except ApiKeyError RevokeApiKeyResponse × ApiKeyStore :=
  if !calls.connection then (.error .storageError, store)
  else
    match (store.apiKeys.updateSome (fun key => decide (key.keyId = keyId)) ApiKeyRow.revoked
        (keeps_revokedRow keyId)).filter fun _ => calls.statement with
    | none => (.error .revocationFailed, store)
    | some apiKeys =>
        let written : ApiKeyStore := { store with apiKeys := apiKeys }
        (.ok ⟨keyId, "API key revoked successfully"⟩,
          if calls.collect && calls.evict then written.deleteKeys (written.hashesOf keyId)
          else written)

def ApiKeyOperation.handle (hashApiKey : String → String) (calls : HandlerCalls) (now : Nat)
    (store : ApiKeyStore) : ApiKeyOperation → ApiKeyAnswer × ApiKeyStore
  | .create payload drawn =>
      let result := createApiKey hashApiKey calls now payload drawn store
      (.created result.1, result.2)
  | .list merchantId => (.listed (listApiKeys calls merchantId store), store)
  | .revoke keyId =>
      let result := revokeApiKey calls keyId store
      (.revoked result.1, result.2)

/-! ## The service -/

/-- Who a request is authenticated as, and the store after it. -/
def ApiKeyRequest.admission (config : MiddlewareConfig) (store : ApiKeyStore)
    (request : ApiKeyRequest) : AuthOutcome × ApiKeyStore :=
  authenticate config request.operation.method (some request.operation.matchedPath)
    request.credentials request.authCalls store

def serveApiKeys (config : MiddlewareConfig) (store : ApiKeyStore) (request : ApiKeyRequest) :
    ApiKeyAnswer × ApiKeyStore :=
  match request.admission config store with
  | (.refused status message, next) => (.refused status message, next)
  | (.admitted _, next) =>
      request.operation.handle config.hashApiKey request.calls request.authCalls.now next

/-- The request is authenticated as the merchant. -/
def requestOf (config : MiddlewareConfig) (merchantId : String) (store : ApiKeyStore)
    (request : ApiKeyRequest) : Bool :=
  decide ((request.admission config store).1.merchant = some merchantId)

/-- The merchant that a request acts on: the one of the body or the path, or the one of the
key. -/
def ApiKeyOperation.ActsOn (store : ApiKeyStore) (merchantId : String) : ApiKeyOperation → Prop
  | .create payload _ => payload.merchantId = merchantId
  | .list named => named = merchantId
  | .revoke keyId => ∀ key ∈ store.apiKeys, key.keyId = keyId → key.merchantId = merchantId

/-- A key that is drawn is a new one. -/
def ApiKeyOperation.Fresh (hashApiKey : String → String) (store : ApiKeyStore) :
    ApiKeyOperation → Prop
  | .create _ drawn => ∀ key ∈ store.apiKeys,
      key.keyId ≠ drawn.keyId ∧ key.keyHash ≠ hashApiKey drawn.rawKey
  | _ => True

/-! ## Handlers at two stores -/

section Handlers

variable {store first second : ApiKeyStore} {merchantId keyId : String} {calls : HandlerCalls}
  {hashApiKey : String → String} {now : Nat} {payload : CreateApiKeyRequest} {drawn : DrawnKey}

variable {key : ApiKeyRow} {apiKeys : Table ApiKeyRow SameRow}

theorem keysOf_of_insert (inserted : store.apiKeys.insert key = some apiKeys) :
    ({ store with apiKeys := apiKeys } : ApiKeyStore).keysOf merchantId =
      store.keysOf merchantId ++ if key.merchantId = merchantId then [key] else [] := by
  rw [ApiKeyStore.keysOf, ApiKeyStore.keysOf, Table.rows_of_insert inserted, List.filter_append]
  by_cases isMerchant : key.merchantId = merchantId
  · simp [isMerchant]
  · simp [isMerchant]

theorem coherent_of_insert (coherent : store.Coherent)
    (inserted : store.apiKeys.insert key = some apiKeys) :
    ({ store with apiKeys := apiKeys } : ApiKeyStore).Coherent := by
  intro keyHash cached entry
  rcases coherent keyHash cached entry with ⟨other, otherMem, named⟩
  exact ⟨other, (Table.mem_insert inserted other).mpr (Or.inl otherMem), named⟩

/-- The creation of a key of another merchant changes nothing for the merchant. -/
theorem SameFor.create_other (same : SameFor merchantId first second)
    (notMerchant : payload.merchantId ≠ merchantId) :
    SameFor merchantId (createApiKey hashApiKey calls now payload drawn first).2 second := by
  rw [createApiKey]
  split
  · exact same
  · next apiKeys found =>
      have inserted := (Option.filter_eq_some_iff.mp found).1
      refine ⟨?_, same.cached, ?_, coherent_of_insert same.coherentFirst inserted,
        same.coherentSecond⟩
      · have otherKey : (newKey hashApiKey payload drawn now).merchantId ≠ merchantId :=
          notMerchant
        rw [keysOf_of_insert inserted, if_neg otherKey, List.append_nil, same.rows]
      · intro key keyMem
        rcases same.known key keyMem with ⟨other, otherMem, sameKey⟩
        exact ⟨other, (Table.mem_insert inserted other).mpr (Or.inl otherMem), sameKey⟩

/-- A new key is new at the second store as well. -/
theorem SameFor.free (same : SameFor merchantId first second)
    (fresh : (ApiKeyOperation.create payload drawn).Fresh hashApiKey first) (now : Nat) :
    ∀ key ∈ second.apiKeys, ¬SameRow key (newKey hashApiKey payload drawn now) := by
  rintro key keyMem (sameId | sameHash)
  · rcases same.known key keyMem with ⟨other, otherMem, otherId, -, -⟩
    exact (fresh other otherMem).1 (otherId.trans sameId)
  · rcases same.known key keyMem with ⟨other, otherMem, -, otherHash, -⟩
    exact (fresh other otherMem).2 (otherHash.trans sameHash)

/-- The creation of a key of the merchant has the same result at both stores. -/
theorem SameFor.create_own (same : SameFor merchantId first second)
    (fresh : (ApiKeyOperation.create payload drawn).Fresh hashApiKey first) :
    (createApiKey hashApiKey calls now payload drawn first).1 =
        (createApiKey hashApiKey calls now payload drawn second).1 ∧
      SameFor merchantId (createApiKey hashApiKey calls now payload drawn first).2
        (createApiKey hashApiKey calls now payload drawn second).2 := by
  have firstFree := (SameFor.refl same.coherentFirst merchantId).free fresh now
  rcases Table.exists_of_insert_free firstFree with ⟨firstKeys, firstInserted⟩
  rcases Table.exists_of_insert_free (same.free fresh now) with
    ⟨secondKeys, secondInserted⟩
  rw [createApiKey, createApiKey, firstInserted, secondInserted]
  cases calls.statement with
  | false => exact ⟨rfl, same⟩
  | true =>
      refine ⟨rfl, ?_⟩
      change SameFor merchantId { first with apiKeys := firstKeys }
        { second with apiKeys := secondKeys }
      refine ⟨?_, same.cached, ?_, coherent_of_insert same.coherentFirst firstInserted,
        coherent_of_insert same.coherentSecond secondInserted⟩
      · rw [keysOf_of_insert firstInserted, keysOf_of_insert secondInserted, same.rows]
      · intro key keyMem
        rcases (Table.mem_insert secondInserted key).mp keyMem with isOld | rfl
        · rcases same.known key isOld with ⟨other, otherMem, sameKey⟩
          exact ⟨other, (Table.mem_insert firstInserted other).mpr (Or.inl otherMem), sameKey⟩
        · exact ⟨_, (Table.mem_insert firstInserted _).mpr (Or.inr rfl), rfl, rfl, rfl⟩

/-! ### Revocations -/

/-- The store with the rows of an id deactivated. -/
def ApiKeyStore.revokeRows (store : ApiKeyStore) (keyId : String) : ApiKeyStore :=
  { store with
    apiKeys := store.apiKeys.update (fun key => decide (key.keyId = keyId)) ApiKeyRow.revoked
      (keeps_revokedRow keyId) }

theorem hashesOf_revokeRows :
    (store.revokeRows keyId).hashesOf keyId = store.hashesOf keyId := by
  rw [ApiKeyStore.hashesOf, ApiKeyStore.hashesOf, ApiKeyStore.revokeRows, Table.update,
    List.filter_map, List.map_map]
  have sameId : (fun key : ApiKeyRow => decide (key.keyId = keyId)) ∘
      (fun key => if decide (key.keyId = keyId) then key.revoked else key) =
        fun key => decide (key.keyId = keyId) := by
    funext key
    simp only [Function.comp_apply]
    split <;> rfl
  have sameHash : (fun key : ApiKeyRow => key.keyHash) ∘
      (fun key => if decide (key.keyId = keyId) then key.revoked else key) =
        fun key => key.keyHash := by
    funext key
    simp only [Function.comp_apply]
    split <;> rfl
  rw [sameId, sameHash]

theorem keysOf_revokeRows :
    (store.revokeRows keyId).keysOf merchantId =
      (store.keysOf merchantId).map
        fun key => if decide (key.keyId = keyId) then key.revoked else key := by
  rw [ApiKeyStore.keysOf, ApiKeyStore.keysOf, ApiKeyStore.revokeRows, Table.update,
    List.filter_map]
  congr 1
  apply List.filter_congr
  intro key _
  simp only [Function.comp_apply]
  split <;> rfl

theorem revokeApiKey_eq :
    revokeApiKey calls keyId store =
      if !calls.connection then (.error .storageError, store)
      else if (store.apiKeys.rows.any fun key => decide (key.keyId = keyId)) && calls.statement then
        (.ok ⟨keyId, "API key revoked successfully"⟩,
          if calls.collect && calls.evict then
            (store.revokeRows keyId).deleteKeys (store.hashesOf keyId)
          else store.revokeRows keyId)
      else (.error .revocationFailed, store) := by
  rw [revokeApiKey, Table.updateSome]
  split
  · rfl
  · cases store.apiKeys.rows.any fun key => decide (key.keyId = keyId) with
    | false => rfl
    | true =>
        cases calls.statement with
        | false => rfl
        | true =>
            rw [← hashesOf_revokeRows]
            rfl

theorem coherent_revokeRows (coherent : store.Coherent) (keyId : String) :
    (store.revokeRows keyId).Coherent := by
  intro keyHash cached entry
  rcases coherent keyHash cached entry with ⟨key, keyMem, isHash, isMerchant⟩
  refine ⟨_, (Table.mem_update (keeps_revokedRow keyId)).mpr ⟨key, keyMem, rfl⟩, ?_⟩
  split
  · exact ⟨isHash, isMerchant⟩
  · exact ⟨isHash, isMerchant⟩

theorem coherent_deleteKey (coherent : store.Coherent) (keyHash : String) :
    (store.deleteKey keyHash).Coherent := by
  intro other cached entry
  rw [cache_deleteKey] at entry
  split at entry
  · cases entry
  · exact coherent other cached entry

theorem cachedFor_deleteKey (keyHash other : String) :
    (store.deleteKey keyHash).cachedFor merchantId other =
      if other = keyHash then none else store.cachedFor merchantId other := by
  rw [ApiKeyStore.cachedFor, cache_deleteKey]
  split <;> rfl

section

variable (same : SameFor merchantId first second)

include same

theorem SameFor.deleteKey_own (keyHash : String) :
    SameFor merchantId (first.deleteKey keyHash) (second.deleteKey keyHash) := by
  refine ⟨same.rows, ?_, same.known, coherent_deleteKey same.coherentFirst keyHash,
    coherent_deleteKey same.coherentSecond keyHash⟩
  intro other
  rw [cachedFor_deleteKey, cachedFor_deleteKey, same.cached]

theorem SameFor.deleteKeys_own (hashes : List String) :
    SameFor merchantId (first.deleteKeys hashes) (second.deleteKeys hashes) := by
  induction hashes generalizing first second with
  | nil => exact same
  | cons keyHash rest ih => exact ih (same.deleteKey_own keyHash)

/-- The entry of a key of another merchant is not missed. -/
theorem SameFor.deleteKey_other (keyMem : key ∈ first.apiKeys)
    (notMerchant : key.merchantId ≠ merchantId) :
    SameFor merchantId (first.deleteKey key.keyHash) second := by
  refine ⟨same.rows, ?_, same.known, coherent_deleteKey same.coherentFirst key.keyHash,
    same.coherentSecond⟩
  intro other
  rw [cachedFor_deleteKey]
  split
  · next sameHash =>
      rw [← same.cached, sameHash,
        cachedFor_eq_none same.coherentFirst keyMem rfl notMerchant]
  · exact same.cached other

theorem SameFor.deleteKeys_other  {hashes : List String}
    (others : ∀ keyHash ∈ hashes, ∃ key ∈ first.apiKeys,
      key.keyHash = keyHash ∧ key.merchantId ≠ merchantId) :
    SameFor merchantId (first.deleteKeys hashes) second := by
  induction hashes generalizing first with
  | nil => exact same
  | cons keyHash rest ih =>
      rcases List.forall_mem_cons.mp others with ⟨⟨key, keyMem, rfl, notMerchant⟩, restOthers⟩
      exact ih (same.deleteKey_other keyMem notMerchant) restOthers

theorem SameFor.revokeRows_own (keyId : String) :
    SameFor merchantId (first.revokeRows keyId) (second.revokeRows keyId) := by
  refine ⟨?_, same.cached, ?_, coherent_revokeRows same.coherentFirst keyId,
    coherent_revokeRows same.coherentSecond keyId⟩
  · rw [keysOf_revokeRows, keysOf_revokeRows, same.rows]
  · intro key keyMem
    rcases (Table.mem_update (keeps_revokedRow keyId)).mp keyMem with ⟨old, oldMem, rfl⟩
    rcases same.known old oldMem with ⟨other, otherMem, sameKey⟩
    refine ⟨_, (Table.mem_update (keeps_revokedRow keyId)).mpr ⟨other, otherMem, rfl⟩, ?_⟩
    split <;> split <;> exact sameKey

theorem SameFor.revokeRows_other
    (others : ∀ key ∈ first.apiKeys, key.keyId = keyId → key.merchantId ≠ merchantId) :
    SameFor merchantId (first.revokeRows keyId) second := by
  refine ⟨?_, same.cached, ?_, coherent_revokeRows same.coherentFirst keyId,
    same.coherentSecond⟩
  · rw [keysOf_revokeRows, ← same.rows, ← List.map_id (first.keysOf merchantId), List.map_map]
    apply List.map_congr_left
    intro key listed
    rcases mem_keysOf.mp listed with ⟨keyMem, isMerchant⟩
    have otherId : ¬decide (key.keyId = keyId) = true := fun isId =>
      others key keyMem (of_decide_eq_true isId) isMerchant
    rw [Function.comp_apply, id_eq, if_neg otherId]
  · intro key keyMem
    rcases same.known key keyMem with ⟨other, otherMem, sameKey⟩
    refine ⟨_, (Table.mem_update (keeps_revokedRow keyId)).mpr ⟨other, otherMem, rfl⟩, ?_⟩
    split <;> exact sameKey

end

/-- The rows of an id that is the merchant's are among the rows of the merchant. -/
theorem filter_keyId_eq (own : (ApiKeyOperation.revoke keyId).ActsOn store merchantId) :
    (store.apiKeys.rows.filter fun key => key.keyId = keyId) =
      (store.keysOf merchantId).filter fun key => key.keyId = keyId := by
  rw [ApiKeyStore.keysOf, List.filter_filter]
  apply List.filter_congr
  intro key keyMem
  by_cases isId : key.keyId = keyId
  · simp [isId, own key keyMem isId]
  · simp [isId]

/-- A revocation of a key of another merchant changes nothing for the merchant. -/
theorem SameFor.revoke_other (same : SameFor merchantId first second)
    (others : ∀ key ∈ first.apiKeys, key.keyId = keyId → key.merchantId ≠ merchantId) :
    SameFor merchantId (revokeApiKey calls keyId first).2 second := by
  rw [revokeApiKey_eq]
  split
  · exact same
  · split
    · have revoked := same.revokeRows_other others
      split
      · apply revoked.deleteKeys_other
        intro keyHash listed
        rcases List.mem_map.mp listed with ⟨key, found, isHash⟩
        rw [List.mem_filter, decide_eq_true_eq] at found
        refine ⟨_, (Table.mem_update (keeps_revokedRow keyId)).mpr ⟨key, found.1, rfl⟩, ?_⟩
        split
        · exact ⟨isHash, others key found.1 found.2⟩
        · exact ⟨isHash, others key found.1 found.2⟩
      · exact revoked
    · exact same

/-- A revocation of a key of the merchant has the same result at both stores. -/
theorem SameFor.revoke_own (same : SameFor merchantId first second)
    (own : (ApiKeyOperation.revoke keyId).ActsOn first merchantId) :
    (revokeApiKey calls keyId first).1 = (revokeApiKey calls keyId second).1 ∧
      SameFor merchantId (revokeApiKey calls keyId first).2
        (revokeApiKey calls keyId second).2 := by
  have ownSecond : (ApiKeyOperation.revoke keyId).ActsOn second merchantId := by
    intro key keyMem isId
    rcases same.known key keyMem with ⟨other, otherMem, otherId, -, sameMerchant⟩
    exact sameMerchant ▸ own other otherMem (otherId.trans isId)
  have sameRows : (first.apiKeys.rows.filter fun key => key.keyId = keyId) =
      second.apiKeys.rows.filter fun key => key.keyId = keyId := by
    rw [filter_keyId_eq own, filter_keyId_eq ownSecond, same.rows]
  have sameAny : (first.apiKeys.rows.any fun key => decide (key.keyId = keyId)) =
      second.apiKeys.rows.any fun key => decide (key.keyId = keyId) := by
    rw [← List.isSome_find?, ← List.isSome_find?, ← List.head?_filter, ← List.head?_filter,
      sameRows]
  have sameHashes : first.hashesOf keyId = second.hashesOf keyId := by
    rw [ApiKeyStore.hashesOf, ApiKeyStore.hashesOf, sameRows]
  rw [revokeApiKey_eq, revokeApiKey_eq, sameAny, sameHashes]
  split
  · exact ⟨rfl, same⟩
  · split
    · refine ⟨rfl, ?_⟩
      split
      · exact (same.revokeRows_own keyId).deleteKeys_own _
      · exact same.revokeRows_own keyId
    · exact ⟨rfl, same⟩

variable {operation : ApiKeyOperation}

/-- A handler that acts on the merchant has the same result at both stores. -/
theorem SameFor.handle_own (same : SameFor merchantId first second)
    (acts : operation.ActsOn first merchantId) (fresh : operation.Fresh hashApiKey first) :
    (operation.handle hashApiKey calls now first).1 =
        (operation.handle hashApiKey calls now second).1 ∧
      SameFor merchantId (operation.handle hashApiKey calls now first).2
        (operation.handle hashApiKey calls now second).2 := by
  cases operation with
  | create payload drawn =>
      rcases same.create_own fresh with ⟨sameAnswer, agrees⟩
      exact ⟨congrArg ApiKeyAnswer.created sameAnswer, agrees⟩
  | list named =>
      cases acts
      refine ⟨congrArg ApiKeyAnswer.listed ?_, same⟩
      rw [listApiKeys, listApiKeys, same.rows]
  | revoke keyId =>
      rcases same.revoke_own acts with ⟨sameAnswer, agrees⟩
      exact ⟨congrArg ApiKeyAnswer.revoked sameAnswer, agrees⟩

/-- A handler that acts on another merchant changes nothing for the merchant. -/
theorem SameFor.handle_other (same : SameFor merchantId first second) {other : String}
    (acts : operation.ActsOn first other) (differ : other ≠ merchantId) :
    SameFor merchantId (operation.handle hashApiKey calls now first).2 second := by
  cases operation with
  | create payload drawn =>
      cases acts
      exact same.create_other differ
  | list named => exact same
  | revoke keyId =>
      apply same.revoke_other
      intro key keyMem isId isMerchant
      exact differ ((acts key keyMem isId).symm.trans isMerchant)

end Handlers

/-! ## Isolation -/

/-- A request that is authenticated acts on the merchant that it is authenticated as, and draws
a new key. -/
structure OwnRequest (config : MiddlewareConfig) (store : ApiKeyStore) (request : ApiKeyRequest) :
    Prop where
  authenticated : (request.admission config store).1 ≠ .admitted none
  own : ∀ merchantId, (request.admission config store).1.merchant = some merchantId →
    request.operation.ActsOn store merchantId
  fresh : request.operation.Fresh config.hashApiKey store

/-- Only keys of the merchant are created, returned or changed. -/
structure OnlyOwnKeys (merchantId : String) (before after : ApiKeyStore)
    (answer : ApiKeyAnswer) : Prop where
  others : ∀ other, other ≠ merchantId → after.keysOf other = before.keysOf other
  created : ∀ response, answer = .created (.ok response) → response.merchantId = merchantId
  listed : ∀ items, answer = .listed (.ok items) → ∀ item ∈ items, item.merchantId = merchantId
  revoked : ∀ response, answer = .revoked (.ok response) → ∀ key ∈ before.apiKeys,
    key.keyId = response.keyId → key.merchantId = merchantId

/-- In a run the merchant acts only on its own keys, and without the requests of the others it
gets the same answers and its credentials are accepted just the same. -/
structure Isolated (config : MiddlewareConfig) (store : ApiKeyStore)
    (requests : List ApiKeyRequest) (merchantId : String) : Prop where
  own : AllowedRequests (serveApiKeys config)
    (fun store request => requestOf config merchantId store request = true →
      OnlyOwnKeys merchantId store (serveApiKeys config store request).2
        (serveApiKeys config store request).1) store requests
  answers : seen (serveApiKeys config) (requestOf config merchantId) store requests =
    seen (serveApiKeys config) (requestOf config merchantId) store
      (alone (serveApiKeys config) (requestOf config merchantId) store requests)
  accepted : ∀ method matchedPath credentials calls,
    (authenticate config method matchedPath credentials calls
        (serveAll (serveApiKeys config) store requests)).1.merchant = some merchantId ↔
      (authenticate config method matchedPath credentials calls
        (serveAll (serveApiKeys config) store
          (alone (serveApiKeys config) (requestOf config merchantId) store requests))).1.merchant =
        some merchantId

section Isolation

variable {config : MiddlewareConfig} {store : ApiKeyStore} {merchantId : String}
  {request : ApiKeyRequest}

variable {other : ApiKeyStore} {operation : ApiKeyOperation}

theorem actsOn_congr (sameRows : other.apiKeys = store.apiKeys)
    (acts : operation.ActsOn store merchantId) :
    operation.ActsOn other merchantId := by
  cases operation with
  | create payload drawn => exact acts
  | list named => exact acts
  | revoke keyId =>
      intro key keyMem
      rw [sameRows] at keyMem
      exact acts key keyMem

theorem fresh_congr {hashApiKey : String → String} (sameRows : other.apiKeys = store.apiKeys)
    (fresh : operation.Fresh hashApiKey store) : operation.Fresh hashApiKey other := by
  cases operation with
  | create payload drawn =>
      intro key keyMem
      rw [sameRows] at keyMem
      exact fresh key keyMem
  | list named => trivial
  | revoke keyId => trivial

/-- A request ends at the middleware, or its handler acts on the merchant of the request. -/
inductive ServeCases (config : MiddlewareConfig) (store : ApiKeyStore) (request : ApiKeyRequest) :
    ApiKeyAnswer × ApiKeyStore → Prop
  | refused {status : Nat} {message : String}
      (isRefused : (request.admission config store).1 = .refused status message) :
      ServeCases config store request
        (.refused status message, (request.admission config store).2)
  | handled {context : AuthContext}
      (isAdmitted : (request.admission config store).1 = .admitted (some context))
      (acts : request.operation.ActsOn (request.admission config store).2 context.merchantId)
      (fresh : request.operation.Fresh config.hashApiKey (request.admission config store).2) :
      ServeCases config store request
        (request.operation.handle config.hashApiKey request.calls request.authCalls.now
          (request.admission config store).2)

theorem serveCases (ownRequest : OwnRequest config store request) :
    ServeCases config store request (serveApiKeys config store request) := by
  have sameRows : (request.admission config store).2.apiKeys = store.apiKeys :=
    apiKeys_authenticate ..
  have own := ownRequest.own
  have authenticated := ownRequest.authenticated
  rw [serveApiKeys]
  split
  · next status message next isRefused =>
      have refused : ServeCases config store request
          (.refused status message, (request.admission config store).2) :=
        .refused (congrArg Prod.fst isRefused)
      rw [isRefused] at refused
      exact refused
  · next context next isAdmitted =>
      cases context with
      | none => exact absurd (congrArg Prod.fst isAdmitted) authenticated
      | some context =>
          have acts := own context.merchantId (by rw [isAdmitted]; rfl)
          have handled : ServeCases config store request
              (request.operation.handle config.hashApiKey request.calls request.authCalls.now
                (request.admission config store).2) :=
            .handled (congrArg Prod.fst isAdmitted) (actsOn_congr sameRows acts)
              (fresh_congr sameRows ownRequest.fresh)
          rw [isAdmitted] at handled
          exact handled

theorem serveApiKeys_of_admitted {context : Option AuthContext}
    (isAdmitted : (request.admission config store).1 = .admitted context) :
    serveApiKeys config store request =
      request.operation.handle config.hashApiKey request.calls request.authCalls.now
        (request.admission config store).2 := by
  rw [serveApiKeys]
  split
  · next isRefused =>
      rw [isRefused] at isAdmitted
      cases isAdmitted
  · next found => rw [found]

/-- Requests that act on their own merchant separate the merchants. -/
theorem separated_serveApiKeys (config : MiddlewareConfig) (merchantId : String) :
    Separated (serveApiKeys config) (requestOf config merchantId) (OwnRequest config)
      (SameFor merchantId) := by
  constructor
  · intro first second request same ownRequest notMine
    have notMerchant : (request.admission config first).1.merchant ≠ some merchantId :=
      of_decide_eq_false notMine
    have authenticated : SameFor merchantId (request.admission config first).2 second :=
      same.authenticate_other notMerchant
    have served := serveCases ownRequest
    generalize serveApiKeys config first request = result at served ⊢
    cases served with
    | refused isRefused => exact authenticated
    | @handled context isAdmitted acts fresh =>
        apply authenticated.handle_other acts
        rintro rfl
        rw [isAdmitted] at notMerchant
        exact notMerchant rfl
  · intro first second request same ownRequest isMine
    have isMerchant : (request.admission config first).1.merchant = some merchantId :=
      of_decide_eq_true isMine
    rcases same.authenticate_eq (Or.inl isMerchant) with ⟨sameAdmission, agrees⟩
    have secondMerchant : (request.admission config second).1.merchant = some merchantId :=
      (congrArg AuthOutcome.merchant sameAdmission).symm.trans isMerchant
    refine ⟨decide_eq_true secondMerchant, ?_⟩
    have served := serveCases ownRequest
    generalize firstServed : serveApiKeys config first request = result at served ⊢
    cases served with
    | refused isRefused =>
        rw [isRefused] at isMerchant
        cases isMerchant
    | @handled context isAdmitted acts fresh =>
        rw [isAdmitted] at isMerchant
        cases isMerchant
        rw [serveApiKeys_of_admitted (sameAdmission.symm.trans isAdmitted)]
        exact agrees.handle_own acts fresh

theorem coherent_serveApiKeys (coherent : store.Coherent)
    (ownRequest : OwnRequest config store request) :
    (serveApiKeys config store request).2.Coherent := by
  have same := SameFor.refl coherent ""
  cases isMine : requestOf config "" store request with
  | false => exact ((separated_serveApiKeys config "").others same ownRequest isMine).coherentFirst
  | true =>
      exact ((separated_serveApiKeys config "").own same ownRequest isMine).2.2.coherentFirst

/-- An own request creates, returns and changes keys of its merchant only. -/
theorem onlyOwnKeys_of_ownRequest (coherent : store.Coherent)
    (ownRequest : OwnRequest config store request)
    (isMine : requestOf config merchantId store request = true) :
    OnlyOwnKeys merchantId store (serveApiKeys config store request).2
      (serveApiKeys config store request).1 := by
  have isMerchant : (request.admission config store).1.merchant = some merchantId :=
    of_decide_eq_true isMine
  have others : ∀ other, other ≠ merchantId →
      (serveApiKeys config store request).2.keysOf other = store.keysOf other := by
    intro other differs
    have notMine : requestOf config other store request = false := by
      rw [requestOf, isMerchant]
      exact decide_eq_false fun same => differs (Option.some.inj same).symm
    exact ((separated_serveApiKeys config other).others (SameFor.refl coherent other) ownRequest
      notMine).rows
  have sameRows : (request.admission config store).2.apiKeys = store.apiKeys :=
    apiKeys_authenticate ..
  have served := serveCases ownRequest
  generalize serveApiKeys config store request = result at served others ⊢
  cases served with
  | refused isRefused =>
      rw [isRefused] at isMerchant
      cases isMerchant
  | @handled context isAdmitted acts fresh =>
      rw [isAdmitted] at isMerchant
      cases isMerchant
      cases operation : request.operation with
      | create payload drawn =>
          rw [operation] at acts others
          refine ⟨others, ?_, nofun, nofun⟩
          intro response isCreated
          rw [ApiKeyOperation.handle, createApiKey] at isCreated
          split at isCreated
          · cases isCreated
          · cases isCreated
            exact acts
      | list named =>
          rw [operation] at acts others
          refine ⟨others, nofun, ?_, nofun⟩
          intro items isListed item itemMem
          rw [ApiKeyOperation.handle, listApiKeys] at isListed
          split at isListed
          · cases isListed
            rcases List.mem_map.mp itemMem with ⟨key, listed, rfl⟩
            exact (mem_keysOf.mp listed).2.trans acts
          · cases isListed
      | revoke keyId =>
          rw [operation] at acts others
          refine ⟨others, nofun, nofun, ?_⟩
          intro response isRevoked key keyMem isId
          rw [ApiKeyOperation.handle, revokeApiKey_eq] at isRevoked
          split at isRevoked
          · cases isRevoked
          · split at isRevoked
            · cases isRevoked
              exact acts key (sameRows ▸ keyMem) isId
            · cases isRevoked

/-- In every run of requests that act on their own merchant, every merchant is isolated. -/
theorem isolated_of_ownRequests (coherent : store.Coherent) {requests : List ApiKeyRequest}
    (ownRun : AllowedRequests (serveApiKeys config) (OwnRequest config) store requests)
    (merchantId : String) : Isolated config store requests merchantId := by
  rcases (separated_serveApiKeys config merchantId).run (SameFor.refl coherent merchantId)
    ownRun with ⟨sameSeen, agrees⟩
  refine ⟨?_, sameSeen, agrees.merchant_iff config⟩
  have keeps : ∀ store request, ApiKeyStore.Coherent store → OwnRequest config store request →
      (serveApiKeys config store request).2.Coherent :=
    fun _ _ coherent ownRequest => coherent_serveApiKeys coherent ownRequest
  exact allowedRequests_of_invariant keeps
    (fun _ _ coherent ownRequest => onlyOwnKeys_of_ownRequest coherent ownRequest) coherent ownRun

end Isolation

/-! ## A key for another merchant -/

/-- The digest of the key that is drawn below. -/
def drawnDigest : String :=
  "a92f5131e606feb325213c6eca5840d1c852cab58df97e9260f4ae1b574535dc"

def keyConfig : MiddlewareConfig where
  adminSecret := ""
  apiKeyAuthEnabled := true
  requireExplicitPermissions := false
  hashApiKey _ := drawnDigest

def noKeys : ApiKeyStore :=
  ⟨.empty, fun _ => none⟩

theorem coherent_noKeys : noKeys.Coherent := by
  intro keyHash cached entry
  cases entry

/-- A standard session of a merchant. -/
def sessionOf (merchantId : String) : Credentials where
  bearer := some (some
    { sub := "user"
      userId := "user"
      email := "user@example.com"
      merchantId := merchantId
      role := "admin"
      tokenType := Jwt.tokenTypeStandard
      jti := "jti"
      exp := 1
      iat := 0
      grant := none
      perms := none })
  adminSecret := none
  apiKey := none

def keyRequest (credentials : Credentials) (operation : ApiKeyOperation) : ApiKeyRequest where
  credentials := credentials
  authCalls := ⟨0, true, true, true, true⟩
  operation := operation
  calls := ⟨true, true, true, true⟩

def createFor (merchantId : String) : ApiKeyOperation :=
  .create ⟨merchantId, none⟩
    ⟨"key_1", "DE_0123456789abcdef0123456789abcdef0123456789abcdef0123456789abcdef"⟩

/-- The session of a merchant creates a key of another one, who then lists its keys. -/
def foreignKey : List ApiKeyRequest :=
  [keyRequest (sessionOf "mallory") (createFor "victim"),
    keyRequest (sessionOf "victim") (.list "victim")]

/-- How many keys an answer lists. -/
def ApiKeyAnswer.listedKeys : ApiKeyAnswer → Nat
  | .listed (.ok items) => items.length
  | _ => 0

theorem isolated_counterexample :
    ¬Isolated keyConfig noKeys foreignKey "mallory" ∧
      ¬Isolated keyConfig noKeys foreignKey "victim" := by
  constructor
  · intro isolated
    have created := (isolated.own.1 rfl).created _ rfl
    exact absurd created (by decide)
  · intro isolated
    have sameCounts := congrArg (fun answers => answers.map fun answer => answer.2.listedKeys)
      isolated.answers
    exact absurd sameCounts (by decide +kernel)

/-- A merchant creates a key and lists with it, and another merchant lists as well. -/
def ownKeys : List ApiKeyRequest :=
  [keyRequest (sessionOf "merchant_1") (createFor "merchant_1"),
    keyRequest (sessionOf "merchant_2") (.list "merchant_2")]

theorem isolated_ownKeys :
    Isolated keyConfig noKeys ownKeys "merchant_1" ∧
      Isolated keyConfig noKeys ownKeys "merchant_2" := by
  have ownRun : AllowedRequests (serveApiKeys keyConfig) (OwnRequest keyConfig) noKeys ownKeys := by
    refine ⟨⟨?_, ?_, ?_⟩, ⟨?_, ?_, ?_⟩, trivial⟩
    · decide +kernel
    · rintro _ ⟨⟩
      rfl
    · rintro key ⟨⟩
    · decide +kernel
    · rintro _ ⟨⟩
      rfl
    · trivial
  exact ⟨isolated_of_ownRequests coherent_noKeys ownRun _,
    isolated_of_ownRequests coherent_noKeys ownRun _⟩

end DecisionEngine.Auth
