import DecisionEngine.Database.Table
import DecisionEngine.Transition.Interleaving
import Mathlib.Algebra.GroupWithZero.Nat

/-!
# Authentication by API key and revocation

An authentication accepts what the cache has for the key.  Otherwise it reads the row of
the key and, when the key is active, writes the merchant to the cache and accepts.  A
revocation deactivates the row, reads the rows of its id and deletes their entries; it
succeeds whether or not the entries could be deleted.

A revoked key stays revoked when no merchant is written to the cache after a revocation
has deleted the entry, and no deletion fails that had an entry to delete.
-/

namespace DecisionEngine.Auth

open Database Transition

/-- A row of `merchant_api_keys`; the columns that neither request reads are left out. -/
structure MerchantApiKey where
  keyId : String
  merchantId : String
  keyHash : String
  isActive : Bool

/-- Both the id and the hash are unique. -/
def SameKey (first second : MerchantApiKey) : Prop :=
  first.keyId = second.keyId ∨ first.keyHash = second.keyHash

instance : DecidableRel SameKey :=
  fun _ _ => inferInstanceAs (Decidable (_ ∨ _))

instance : Std.Symm SameKey :=
  ⟨fun _ _ same => same.imp Eq.symm Eq.symm⟩

structure KeyState where
  apiKeys : Table MerchantApiKey SameKey
  cache : String → Option String

def apiKeyCacheKey (keyHash : String) : String :=
  "api_key:" ++ keyHash

def MerchantApiKey.revoked (key : MerchantApiKey) : MerchantApiKey :=
  { key with isActive := false }

theorem keeps_revoked (keyId : String) :
    Table.Keeps SameKey (fun key => decide (key.keyId = keyId)) MerchantApiKey.revoked :=
  fun _ _ _ => ⟨Iff.rfl, Iff.rfl⟩

namespace KeyState

/-- The merchant that the cache has for a key; an empty text is none. -/
def cachedMerchant (state : KeyState) (keyHash : String) : Option String :=
  (state.cache (apiKeyCacheKey keyHash)).filter fun cached => !cached.isEmpty

/-- The last row of the hash. -/
def keyRecord (state : KeyState) (keyHash : String) : Option MerchantApiKey :=
  (state.apiKeys.rows.filter fun key => key.keyHash = keyHash).getLast?

def setKey (state : KeyState) (keyHash merchantId : String) : KeyState :=
  { state with cache := Function.update state.cache (apiKeyCacheKey keyHash) (some merchantId) }

def deleteKey (state : KeyState) (keyHash : String) : KeyState :=
  { state with cache := Function.update state.cache (apiKeyCacheKey keyHash) none }

/-- Deactivate the rows of an id; `none` when there are none. -/
def revoke (state : KeyState) (keyId : String) : Option KeyState :=
  (state.apiKeys.updateSome (fun key => decide (key.keyId = keyId)) MerchantApiKey.revoked
    (keeps_revoked keyId)).map fun apiKeys =>
    { state with apiKeys := apiKeys }

/-- The hashes of the rows of an id. -/
def hashesOf (state : KeyState) (keyId : String) : List String :=
  (state.apiKeys.rows.filter fun key => key.keyId = keyId).map MerchantApiKey.keyHash

end KeyState

/-! ## Requests with one key -/

/-- What a request does next, or how it has ended. -/
inductive KeyRequestState where
  | authenticate
  | lookup
  | fill (merchantId : String)
  | accepted (merchantId : String)
  | rejected
  | revoke
  | collect
  | evict (hashes : List String)
  | revoked
  | failed
  | expire
  | expired

/-- The steps of a request, each of them atomic.  A call of the database or of the cache may
fail; that the cache could not be read, written or cleared ends no request. -/
def keyProcess (keyHash keyId : String) (succeeds : Bool) :
    Process KeyState KeyRequestState Unit
  | .authenticate, state =>
      match (state.cachedMerchant keyHash).filter fun _ => succeeds with
      | some merchantId => some ((), .accepted merchantId, state)
      | none => some ((), .lookup, state)
  | .lookup, state =>
      match (state.keyRecord keyHash).filter fun _ => succeeds with
      | some record =>
          if record.isActive then some ((), .fill record.merchantId, state)
          else some ((), .rejected, state)
      | none => some ((), .rejected, state)
  | .fill merchantId, state =>
      some ((), .accepted merchantId, if succeeds then state.setKey keyHash merchantId else state)
  | .revoke, state =>
      match (state.revoke keyId).filter fun _ => succeeds with
      | some next => some ((), .collect, next)
      | none => some ((), .failed, state)
  | .collect, state =>
      if succeeds then some ((), .evict (state.hashesOf keyId), state)
      else some ((), .revoked, state)
  | .evict [], state => some ((), .revoked, state)
  | .evict (hash :: hashes), state =>
      some ((), .evict hashes, if succeeds then state.deleteKey hash else state)
  | .expire, state => some ((), .expired, state.deleteKey keyHash)
  | .accepted _, _ | .rejected, _ | .revoked, _ | .failed, _ | .expired, _ => none

inductive KeyRequest where
  | authenticate
  | revoke
  | expire
  deriving DecidableEq

def KeyRequest.start : KeyRequest → KeyRequestState
  | .authenticate => .authenticate
  | .revoke => .revoke
  | .expire => .expire

/-- The requests before their first step. -/
def startKeyRequests {ι : Type} (state : KeyState) (requests : ι → KeyRequest) :
    Config KeyState ι KeyRequestState :=
  ⟨state, fun index => (requests index).start⟩

/-! ## Deletions -/

/-- The revocation will not delete the entry any more. -/
def PastDeletion (keyHash : String) : KeyRequestState → Prop
  | .evict hashes => keyHash ∉ hashes
  | .revoked => True
  | _ => False

/-- The revocation has deactivated the key. -/
def PastWrite : KeyRequestState → Prop
  | .collect | .evict _ | .revoked => True
  | _ => False

/-- A merchant is written to the cache only before a revocation has deleted the entry, and a
revocation gives the deletion up only where there is no entry. -/
def Timely {ι : Type} (keyHash : String) (config : Config KeyState ι KeyRequestState)
    (label : ChoiceLabel ι Bool Unit) : Prop :=
  match config.locals label.index, label.choice with
  | .fill _, true => ∀ other, ¬PastDeletion keyHash (config.locals other)
  | .collect, false => config.shared.cachedMerchant keyHash = none
  | .evict (hash :: _), false =>
      hash = keyHash → config.shared.cachedMerchant keyHash = none
  | _, _ => True

/-- The key is not active. -/
def Inactive (keyHash : String) (state : KeyState) : Prop :=
  ∀ key ∈ state.apiKeys, key.keyHash = keyHash → key.isActive = false

/-- The id is the one of the key. -/
def Names (keyHash keyId : String) (state : KeyState) : Prop :=
  ∃ key ∈ state.apiKeys, key.keyId = keyId ∧ key.keyHash = keyHash

/-- What the revocations have done so far. -/
structure Revoking {ι : Type} (keyHash keyId : String)
    (config : Config KeyState ι KeyRequestState) : Prop where
  names : Names keyHash keyId config.shared
  inactive : ∀ index, PastWrite (config.locals index) → Inactive keyHash config.shared
  deleted : ∀ index, PastDeletion keyHash (config.locals index) →
    config.shared.cachedMerchant keyHash = none

section Steps

variable {keyHash keyId : String} {state next : KeyState}

theorem apiKeyCacheKey_ne {first second : String} (differ : first ≠ second) :
    apiKeyCacheKey first ≠ apiKeyCacheKey second := by
  rw [apiKeyCacheKey, apiKeyCacheKey, Ne, String.append_right_inj]
  exact differ

/-- A deletion leaves no entry, or the entry of another key. -/
theorem cachedMerchant_deleteKey (deleted : String) :
    (state.deleteKey deleted).cachedMerchant keyHash =
      if deleted = keyHash then none else state.cachedMerchant keyHash := by
  split
  · next same => simp [same, KeyState.cachedMerchant, KeyState.deleteKey]
  · next differ =>
      have otherKey := apiKeyCacheKey_ne (Ne.symm differ)
      simp [KeyState.cachedMerchant, KeyState.deleteKey, otherKey]

theorem cachedMerchant_deleteKey_of_none (deleted : String)
    (noEntry : state.cachedMerchant keyHash = none) :
    (state.deleteKey deleted).cachedMerchant keyHash = none := by
  rw [cachedMerchant_deleteKey, noEntry, ite_self]

theorem mem_of_keyRecord {key : MerchantApiKey} (found : state.keyRecord keyHash = some key) :
    key ∈ state.apiKeys ∧ key.keyHash = keyHash := by
  have keyMem := List.mem_of_getLast? found
  rw [List.mem_filter] at keyMem
  exact ⟨keyMem.1, by simpa using keyMem.2⟩

/-- A revocation deactivates the key that its id names, and leaves the cache. -/
theorem revoke_cases (names : Names keyHash keyId state)
    (revoked : state.revoke keyId = some next) :
    Names keyHash keyId next ∧ Inactive keyHash next ∧ next.cache = state.cache := by
  rcases Option.map_eq_some_iff.mp revoked with ⟨apiKeys, updated, rfl⟩
  rcases names with ⟨own, ownMem, isId, isHash⟩
  rw [Table.eq_update_of_updateSome updated]
  refine ⟨⟨own.revoked, ?_, isId, isHash⟩, ?_, rfl⟩
  · apply (Table.mem_update (keeps_revoked keyId)).mpr
    refine ⟨own, ownMem, ?_⟩
    rw [if_pos (decide_eq_true isId)]
  · intro key keyMem sameHash
    rcases (Table.mem_update (keeps_revoked keyId)).mp keyMem with ⟨old, oldMem, rfl⟩
    have oldHash : old.keyHash = keyHash := by
      split at sameHash <;> exact sameHash
    have same := Table.eq_of_conflict oldMem ownMem (Or.inr (oldHash.trans isHash.symm))
    rw [same, if_pos (decide_eq_true isId)]
    rfl

theorem mem_hashesOf (names : Names keyHash keyId state) : keyHash ∈ state.hashesOf keyId := by
  rcases names with ⟨key, keyMem, isId, isHash⟩
  rw [KeyState.hashesOf, List.mem_map]
  exact ⟨key, List.mem_filter.mpr ⟨keyMem, decide_eq_true isId⟩, isHash⟩

/-- What a step does to the table, to the entry and to the request. -/
inductive KeyStep (keyHash keyId : String) (succeeds : Bool) :
    KeyRequestState → KeyState → KeyRequestState → KeyState → Prop
  | reads {request nextRequest : KeyRequestState} {state : KeyState}
      (notWritten : ¬PastWrite nextRequest) :
      KeyStep keyHash keyId succeeds request state nextRequest state
  | fills {merchantId : String} {state : KeyState} (isFilled : succeeds = true) :
      KeyStep keyHash keyId succeeds (.fill merchantId) state (.accepted merchantId)
        (state.setKey keyHash merchantId)
  | revokes {state next : KeyState} (isRevoked : state.revoke keyId = some next) :
      KeyStep keyHash keyId succeeds .revoke state .collect next
  | collects {state : KeyState} :
      KeyStep keyHash keyId succeeds .collect state (.evict (state.hashesOf keyId)) state
  | gathersNone {state : KeyState} (isFailed : succeeds = false) :
      KeyStep keyHash keyId succeeds .collect state .revoked state
  | deletes {hash : String} {hashes : List String} {state : KeyState} :
      KeyStep keyHash keyId succeeds (.evict (hash :: hashes)) state (.evict hashes)
        (state.deleteKey hash)
  | keeps {hash : String} {hashes : List String} {state : KeyState}
      (isFailed : succeeds = false) :
      KeyStep keyHash keyId succeeds (.evict (hash :: hashes)) state (.evict hashes) state
  | succeeds {state : KeyState} :
      KeyStep keyHash keyId succeeds (.evict []) state .revoked state
  | expires {state : KeyState} :
      KeyStep keyHash keyId succeeds .expire state .expired (state.deleteKey keyHash)

theorem keyStep_of_keyProcess {succeeds : Bool} {request nextRequest : KeyRequestState}
    {event : Unit}
    (steps : keyProcess keyHash keyId succeeds request state = some (event, nextRequest, next)) :
    KeyStep keyHash keyId succeeds request state nextRequest next := by
  cases request with
  | authenticate =>
      simp only [keyProcess] at steps
      split at steps <;> cases steps <;> exact .reads id
  | lookup =>
      simp only [keyProcess] at steps
      split at steps
      · split at steps <;> cases steps <;> exact .reads id
      · cases steps
        exact .reads id
  | fill merchantId =>
      cases succeeds <;> cases steps
      · exact .reads id
      · exact .fills rfl
  | revoke =>
      simp only [keyProcess] at steps
      split at steps
      · next found =>
          cases steps
          exact .revokes (Option.filter_eq_some_iff.mp found).1
      · cases steps
        exact .reads id
  | collect =>
      cases succeeds <;> cases steps
      · exact .gathersNone rfl
      · exact .collects
  | evict hashes =>
      cases hashes with
      | nil =>
          cases steps
          exact .succeeds
      | cons hash hashes =>
          cases succeeds <;> cases steps
          · exact .keeps rfl
          · exact .deletes
  | expire =>
      cases steps
      exact .expires
  | accepted merchantId => cases steps
  | rejected => cases steps
  | revoked => cases steps
  | failed => cases steps
  | expired => cases steps

theorem pastWrite_of_pastDeletion {request : KeyRequestState}
    (past : PastDeletion keyHash request) : PastWrite request := by
  cases request with
  | evict hashes => trivial
  | revoked => trivial
  | _ => exact past.elim

end Steps

/-! ## Runs -/

section Runs

variable {ι : Type} [DecidableEq ι] {keyHash keyId : String}

/-- The steps of a run that write and delete the entry in time. -/
abbrev TimelyRun (keyHash keyId : String) :
    Config KeyState ι KeyRequestState → List (ChoiceLabel ι Bool Unit) →
      Config KeyState ι KeyRequestState → Prop :=
  Run fun config label next =>
    ChoiceMoves (keyProcess keyHash keyId) config label next ∧ Timely keyHash config label

/-- A property of all requests holds after a step if it holds of the others and of the one
that has moved. -/
theorem Revoking.of_step {config : Config KeyState ι KeyRequestState} {index : ι}
    {nextRequest : KeyRequestState} {next : KeyState} (names : Names keyHash keyId next)
    (inactive : ∀ other, PastWrite (config.locals other) → Inactive keyHash next)
    (deleted : ∀ other, PastDeletion keyHash (config.locals other) →
      next.cachedMerchant keyHash = none)
    (ownInactive : PastWrite nextRequest → Inactive keyHash next)
    (ownDeleted : PastDeletion keyHash nextRequest → next.cachedMerchant keyHash = none) :
    Revoking keyHash keyId ⟨next, Function.update config.locals index nextRequest⟩ :=
  ⟨names,
    forall_update (fun request => PastWrite request → Inactive keyHash next) ownInactive inactive,
    forall_update (fun request => PastDeletion keyHash request →
      next.cachedMerchant keyHash = none) ownDeleted deleted⟩

theorem Revoking.step {config next : Config KeyState ι KeyRequestState}
    {label : ChoiceLabel ι Bool Unit} (revoking : Revoking keyHash keyId config)
    (timely : Timely keyHash config label)
    (moves : ChoiceMoves (keyProcess keyHash keyId) config label next) :
    Revoking keyHash keyId next := by
  rcases moves with ⟨steps⟩
  rename_i index choice event nextRequest nextState
  have own := revoking.inactive index
  have ownDeleted := revoking.deleted index
  have step := keyStep_of_keyProcess steps
  simp only [Timely] at timely
  generalize config.locals index = request at step own ownDeleted timely
  cases step with
  | reads notWritten =>
      exact .of_step revoking.names revoking.inactive revoking.deleted
        (fun written => absurd written notWritten)
        fun past => absurd (pastWrite_of_pastDeletion past) notWritten
  | fills isFilled =>
      rw [isFilled] at timely
      exact .of_step revoking.names revoking.inactive
        (fun other past => absurd past (timely other)) nofun nofun
  | revokes isRevoked =>
      rcases revoke_cases revoking.names isRevoked with ⟨names, inactive, sameCache⟩
      have sameEntry : nextState.cachedMerchant keyHash =
          config.shared.cachedMerchant keyHash := by
        rw [KeyState.cachedMerchant, sameCache]
        rfl
      refine .of_step names (fun _ _ => inactive) ?_ (fun _ => inactive) nofun
      intro other past
      rw [sameEntry]
      exact revoking.deleted other past
  | collects =>
      exact .of_step revoking.names revoking.inactive revoking.deleted (fun _ => own trivial)
        fun past => absurd (mem_hashesOf revoking.names) past
  | gathersNone isFailed =>
      rw [isFailed] at timely
      exact .of_step revoking.names revoking.inactive revoking.deleted (fun _ => own trivial)
        fun _ => timely
  | @deletes hash hashes =>
      refine .of_step revoking.names revoking.inactive ?_ (fun _ => own trivial) ?_
      · intro other past
        exact cachedMerchant_deleteKey_of_none hash (revoking.deleted other past)
      · intro past
        rw [cachedMerchant_deleteKey]
        split
        · rfl
        · next differ =>
            apply ownDeleted
            rw [PastDeletion, List.mem_cons]
            exact fun found => found.elim (fun same => differ same.symm) past
  | @keeps hash hashes _ isFailed =>
      rw [isFailed] at timely
      refine .of_step revoking.names revoking.inactive revoking.deleted (fun _ => own trivial) ?_
      intro past
      by_cases same : hash = keyHash
      · exact timely same
      · apply ownDeleted
        rw [PastDeletion, List.mem_cons]
        exact fun found => found.elim (fun isHash => same isHash.symm) past
  | succeeds =>
      exact .of_step revoking.names revoking.inactive revoking.deleted (fun _ => own trivial)
        fun _ => ownDeleted List.not_mem_nil
  | expires =>
      exact .of_step revoking.names revoking.inactive
        (fun other past => cachedMerchant_deleteKey_of_none keyHash (revoking.deleted other past))
        nofun nofun

omit [DecidableEq ι] in
theorem revoking_start {state : KeyState} (names : Names keyHash keyId state)
    (requests : ι → KeyRequest) : Revoking keyHash keyId (startKeyRequests state requests) := by
  have notWritten : ∀ index, ¬PastWrite (requests index).start := by
    intro index
    cases requests index <;> exact id
  constructor
  · exact names
  · intro index written
    exact absurd written (notWritten index)
  · intro index past
    exact absurd (pastWrite_of_pastDeletion past) (notWritten index)

theorem revoking_of_timelyRun {start final : Config KeyState ι KeyRequestState}
    {trace : List (ChoiceLabel ι Bool Unit)} (revoking : Revoking keyHash keyId start)
    (run : TimelyRun keyHash keyId start trace final) : Revoking keyHash keyId final := by
  apply run.invariant_of_allowed (fun _ config => Revoking keyHash keyId config) revoking
  intro trace config label next revoking timely moves
  exact revoking.step timely moves

/-- The authentication has not found the merchant. -/
def Unaccepted (request : KeyRequestState) : Prop :=
  request = .authenticate ∨ request = .lookup ∨ request = .rejected

omit [DecidableEq ι] in
/-- Without an entry an authentication goes to the table, which has the key as inactive. -/
theorem unaccepted_of_keyProcess {succeeds : Bool} {request nextRequest : KeyRequestState}
    {state next : KeyState} {event : Unit} (unaccepted : Unaccepted request)
    (noEntry : state.cachedMerchant keyHash = none) (inactive : Inactive keyHash state)
    (steps : keyProcess keyHash keyId succeeds request state = some (event, nextRequest, next)) :
    Unaccepted nextRequest := by
  rcases unaccepted with rfl | rfl | rfl
  · simp only [keyProcess, noEntry, Option.filter_none, Option.some.injEq, Prod.mk.injEq] at steps
    rcases steps with ⟨-, rfl, -⟩
    exact Or.inr (Or.inl rfl)
  · simp only [keyProcess] at steps
    split at steps
    · next record found =>
        have recordMem := mem_of_keyRecord (Option.filter_eq_some_iff.mp found).1
        rw [inactive record recordMem.1 recordMem.2] at steps
        cases steps
        exact Or.inr (Or.inr rfl)
    · cases steps
      exact Or.inr (Or.inr rfl)
  · cases steps

/-- A revocation that has succeeded, and an authentication that has started since, if it
has. -/
structure Refused (keyHash keyId : String) (revocation index : ι)
    (config : Config KeyState ι KeyRequestState) : Prop where
  revoking : Revoking keyHash keyId config
  revoked : config.locals revocation = .revoked
  unaccepted : Unaccepted (config.locals index)

theorem Refused.step {config next : Config KeyState ι KeyRequestState}
    {label : ChoiceLabel ι Bool Unit} {revocation index : ι}
    (refused : Refused keyHash keyId revocation index config)
    (timely : Timely keyHash config label)
    (moves : ChoiceMoves (keyProcess keyHash keyId) config label next) :
    Refused keyHash keyId revocation index next := by
  refine ⟨refused.revoking.step timely moves, ?_, ?_⟩
  · rcases moves with ⟨steps⟩
    rename_i moving choice event nextRequest nextState
    dsimp only
    rw [Function.update_of_ne]
    · exact refused.revoked
    · rintro rfl
      rw [refused.revoked] at steps
      cases steps
  · rcases moves with ⟨steps⟩
    rename_i moving choice event nextRequest nextState
    dsimp only
    by_cases same : index = moving
    · rw [same, Function.update_self]
      have past := refused.revoked
      have noEntry := refused.revoking.deleted revocation (by rw [past]; trivial)
      have inactive := refused.revoking.inactive revocation (by rw [past]; trivial)
      exact unaccepted_of_keyProcess (same ▸ refused.unaccepted) noEntry inactive steps
    · rw [Function.update_of_ne same]
      exact refused.unaccepted

/-- An authentication that starts after the revocation of its key has succeeded is not
accepted. -/
theorem revocation_final {state : KeyState} (names : Names keyHash keyId state)
    {requests : ι → KeyRequest} {before after : List (ChoiceLabel ι Bool Unit)}
    {middle final : Config KeyState ι KeyRequestState}
    (run : TimelyRun keyHash keyId (startKeyRequests state requests) before middle)
    {revocation index : ι} (revoked : middle.locals revocation = .revoked)
    (notStarted : middle.locals index = .authenticate)
    (rest : TimelyRun keyHash keyId middle after final) (merchantId : String) :
    final.locals index ≠ .accepted merchantId := by
  have refused : Refused keyHash keyId revocation index final := by
    apply rest.invariant_of_allowed fun _ config => Refused keyHash keyId revocation index config
    · exact ⟨revoking_of_timelyRun (revoking_start names requests) run, revoked,
        Or.inl notStarted⟩
    · intro trace config label next refused timely moves
      exact refused.step timely moves
  intro accepted
  rcases refused.unaccepted with isStart | isLookup | isRejected
  · rw [accepted] at isStart
    cases isStart
  · rw [accepted] at isLookup
    cases isLookup
  · rw [accepted] at isRejected
    cases isRejected

end Runs

/-- One active key that is not cached. -/
def activeKey : KeyState where
  apiKeys := ⟨[⟨"key_1", "merchant_1", "5e88", true⟩], List.pairwise_singleton _ _⟩
  cache _ := none

local instance threeKeyRequests : NeZero (3 : ℕ) :=
  ⟨by decide⟩

/-- Two authentications with the key and its revocation. -/
def twoAndRevocation (index : Fin 3) : KeyRequest :=
  if index = 1 then .revoke else .authenticate

/-- The first authentication fills the cache before the revocation deletes the entry. -/
def timelySchedule : List (Fin 3 × Bool) :=
  [(0, true), (0, true), (1, true), (0, true), (1, true), (1, true), (1, true)]

def revokedMiddle : Config KeyState (Fin 3) KeyRequestState :=
  runChoices (keyProcess "5e88" "key_1") (startKeyRequests activeKey twoAndRevocation)
    timelySchedule

def refusedFinal : Config KeyState (Fin 3) KeyRequestState :=
  runChoices (keyProcess "5e88" "key_1") revokedMiddle [(2, true), (2, true)]

theorem names_activeKey : Names "5e88" "key_1" activeKey :=
  ⟨_, List.mem_singleton_self _, rfl, rfl⟩

theorem revocation_final_timely :
    revokedMiddle.locals 0 = .accepted "merchant_1" ∧
      ∀ merchantId, refusedFinal.locals 2 ≠ .accepted merchantId := by
  have firstTimely : AllowedChoices (keyProcess "5e88" "key_1") (Timely "5e88")
      (startKeyRequests activeKey twoAndRevocation) timelySchedule := by
    refine ⟨trivial, trivial, trivial, ?_, trivial, trivial, trivial, trivial⟩
    intro other past
    have known : other = 0 ∨ other = 1 ∨ other = 2 := by omega
    rcases known with rfl | rfl | rfl <;> exact past
  have restTimely : AllowedChoices (keyProcess "5e88" "key_1") (Timely "5e88") revokedMiddle
      [(2, true), (2, true)] :=
    ⟨trivial, trivial, trivial⟩
  have revoked : revokedMiddle.locals 1 = .revoked := rfl
  have notStarted : revokedMiddle.locals 2 = .authenticate := rfl
  refine ⟨rfl, ?_⟩
  intro merchantId
  exact revocation_final names_activeKey (run_choicesTrace _ firstTimely) revoked notStarted
    (run_choicesTrace _ restTimely) merchantId

/-- The first authentication has read the active row and fills the cache after the
revocation has deleted the entry, and the second one is accepted. -/
theorem revocation_final_counterexample :
    ∃ before after middle final,
      Run (ChoiceMoves (keyProcess "5e88" "key_1")) (startKeyRequests activeKey twoAndRevocation)
        before middle ∧
      Names "5e88" "key_1" activeKey ∧
      middle.locals 1 = .revoked ∧ middle.locals 2 = .authenticate ∧
      Run (ChoiceMoves (keyProcess "5e88" "key_1")) middle after final ∧
      final.locals 2 = .accepted "merchant_1" := by
  refine ⟨_, _, _, _, run_choices (keyProcess "5e88" "key_1") _
    [(0, true), (0, true), (1, true), (1, true), (1, true), (1, true)], ?_, ?_, ?_,
    run_choices (keyProcess "5e88" "key_1") _ [(0, true), (2, true)], ?_⟩
  · exact names_activeKey
  · rfl
  · rfl
  · rfl

end DecisionEngine.Auth
