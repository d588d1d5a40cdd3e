import DecisionEngine.Auth.Accounts

/-!
# What a request changes

Every request is one of a few changes of the tables and of the minted tokens, whichever of
its calls fail.
-/

namespace DecisionEngine.Auth

open Database Transition DecisionEngine.Transition.Effect

/-- A session that a request of an administrator of a merchant is made with. -/
structure AdminSession (state : AuthState) (claims : JwtClaims) : Prop where
  minted : claims ∈ state.minted
  standard : claims.tokenType = .standard
  admin : claims.role = "admin"

/-- A signup is let in without the secret, or presents it. -/
def SignupRequest.Admitted (config : AuthConfig) (request : SignupRequest) : Prop :=
  config.signupRequiresAdminSecret = false ∨ request.providedAdminSecret = config.adminSecret

section Changes

variable (config : AuthConfig) (around : Surroundings) (state : AuthState)

/-- The changes that requests make.  The tokens are those that the request has minted: at
most one, none when it ends early. -/
inductive Change : Request → AuthState → Prop
  | kept (request : Request) (keys : AuthKeys) : Change request { state with keys := keys }
  | registered {request : SignupRequest} {passwordHash : String} {emailVerified : Bool}
      {users : Table User SameUser} {tokens : List JwtClaims} {keys : AuthKeys}
      (unnamed : request.requestedMerchantId = none)
      (inserted : state.users.insert (signupUser around request passwordHash emailVerified) =
        some users)
      (own : ∀ token ∈ tokens,
        token = standardClaims config around around.userId request.email "" "admin") :
      Change (.signup request)
        { state with users := users, minted := state.minted ++ tokens, keys := keys }
  | attached {request : SignupRequest} {passwordHash : String} {emailVerified : Bool}
      {merchantId : String} {users : Table User SameUser}
      {rows : Table UserMerchant SameMembership} {tokens : List JwtClaims} {keys : AuthKeys}
      (admitted : request.Admitted config)
      (named : request.requestedMerchantId = some merchantId)
      (inserted : state.users.insert (signupUser around request passwordHash emailVerified) =
        some users)
      (joined : state.userMerchants.insert ⟨around.userId, merchantId, "admin"⟩ = some rows)
      (own : ∀ token ∈ tokens,
        token = standardClaims config around around.userId request.email merchantId "admin") :
      Change (.signup request)
        { state with
          users := users, userMerchants := rows, minted := state.minted ++ tokens, keys := keys }
  | stranded {request : SignupRequest} {passwordHash : String} {emailVerified : Bool}
      {merchantId : String} {users : Table User SameUser} {keys : AuthKeys}
      (named : request.requestedMerchantId = some merchantId)
      (inserted : state.users.insert (signupUser around request passwordHash emailVerified) =
        some users)
      (refused : around.fails .insertMembership = true ∨
        state.userMerchants.insert ⟨around.userId, merchantId, "admin"⟩ = none)
      (uncleaned : config.emailVerificationEnabled = true → around.fails .deleteUser = true) :
      Change (.signup request) { state with users := users, keys := keys }
  | cleaned {request : Request} {user : User} {users : Table User SameUser} {keys : AuthKeys}
      (inserted : state.users.insert user = some users) :
      Change request
        { state with users := users.remove fun other => other.userId = user.userId, keys := keys }
  | started {request : Request} {user : User} (isUser : user ∈ state.users) :
      Change request
        { state with
          minted := state.minted ++ [standardClaims config around user.userId user.email
            (homeMerchantId user (state.merchantsOf user.userId)) user.role] }
  | switched {request : Request} {claims : JwtClaims} {membership : UserMerchant}
      (isMember : membership ∈ state.userMerchants) (own : membership.userId = claims.userId)
      (minted : claims ∈ state.minted) (standard : claims.tokenType = .standard) :
      Change request
        { state with
          minted := state.minted ++ [standardClaims config around claims.userId claims.email
            membership.merchantId membership.role] }
  | viewed {request : Request} {claims token : JwtClaims} (minted : claims ∈ state.minted)
      (own : token.userId = claims.userId) (notStandard : token.tokenType ≠ .standard)
      (known : token.tokenType = .superAdminView → claims.tokenType ≠ .hsRedirect) :
      Change request { state with minted := state.minted ++ [token] }
  | merchantInserted {bearer : Option JwtClaims} {merchantName : String} :
      Change (.createMerchant bearer merchantName)
        { state with
          merchantAccounts := state.merchantAccounts ++
            [⟨some ("merchant_" ++ around.merchantDigits), some merchantName⟩] }
  | merchantJoined {claims : JwtClaims} {merchantName : String}
      {rows : Table UserMerchant SameMembership}
      (minted : claims ∈ state.minted) (standard : claims.tokenType = .standard)
      (joined : state.userMerchants.insert
        ⟨claims.userId, "merchant_" ++ around.merchantDigits, "admin"⟩ = some rows) :
      Change (.createMerchant (some claims) merchantName)
        { state with
          merchantAccounts := state.merchantAccounts ++
            [⟨some ("merchant_" ++ around.merchantDigits), some merchantName⟩]
          userMerchants := rows }
  | merchantCreated {claims : JwtClaims} {merchantName : String}
      {rows : Table UserMerchant SameMembership} {tokens : List JwtClaims}
      (minted : claims ∈ state.minted) (standard : claims.tokenType = .standard)
      (joined : state.userMerchants.insert
        ⟨claims.userId, "merchant_" ++ around.merchantDigits, "admin"⟩ = some rows)
      (own : ∀ token ∈ tokens, token = standardClaims config around claims.userId claims.email
        ("merchant_" ++ around.merchantDigits) claims.role) :
      Change (.createMerchant (some claims) merchantName)
        { state.moveUser claims.userId ("merchant_" ++ around.merchantDigits) with
          merchantAccounts := state.merchantAccounts ++
            [⟨some ("merchant_" ++ around.merchantDigits), some merchantName⟩]
          userMerchants := rows
          minted := state.minted ++ tokens }
  | invited {claims : JwtClaims} {request : InviteMemberRequest} {user : User}
      {rows : Table UserMerchant SameMembership} (session : AdminSession state claims)
      (isUser : user ∈ state.users) (emailed : user.email = request.email)
      (joined : state.userMerchants.insert
        ⟨user.userId, claims.merchantId, request.grantedRole⟩ = some rows) :
      Change (.inviteMember (some claims) request) { state with userMerchants := rows }
  | welcomed {claims : JwtClaims} {request : InviteMemberRequest} {passwordHash : String}
      {users : Table User SameUser} {rows : Table UserMerchant SameMembership}
      (session : AdminSession state claims)
      (inserted : state.users.insert
        ⟨around.userId, request.email, passwordHash, none, request.grantedRole, true, true⟩ =
          some users)
      (joined : state.userMerchants.insert
        ⟨around.userId, claims.merchantId, request.grantedRole⟩ = some rows) :
      Change (.inviteMember (some claims) request)
        { state with users := users, userMerchants := rows }
  | homeless {claims : JwtClaims} {request : InviteMemberRequest} {passwordHash : String}
      {users : Table User SameUser}
      (inserted : state.users.insert
        ⟨around.userId, request.email, passwordHash, none, request.grantedRole, true, true⟩ =
          some users)
      (refused : around.fails .insertMembership = true ∨
        state.userMerchants.insert ⟨around.userId, claims.merchantId, request.grantedRole⟩ =
          none) :
      Change (.inviteMember (some claims) request) { state with users := users }

end Changes

section Statements

variable {α : Type} {config : AuthConfig} {around : Surroundings} {state : AuthState}
  {post : Except UserAuthError α → AuthState → Prop}

/-! ## Statements -/

theorem ensures_insertUser {user : User} {post : Except UserAuthError Unit → AuthState → Prop}
    (refused : post (.error .storageError) state)
    (inserts : ∀ users, state.users.insert user = some users →
      post (.ok ()) { state with users := users }) :
    Ensures (insertUser around user) state post := by
  rw [insertUser, ensures_change]
  refine ⟨fun _ => refused, ?_⟩
  intro next _ isNext
  rcases Option.map_eq_some_iff.mp isNext with ⟨users, inserted, rfl⟩
  exact inserts users inserted

theorem ensures_insertMembership {membership : UserMerchant}
    {post : Except UserAuthError Unit → AuthState → Prop}
    (refused : (around.fails .insertMembership = true ∨
      state.userMerchants.insert membership = none) → post (.error .storageError) state)
    (inserts : ∀ rows, state.userMerchants.insert membership = some rows →
      post (.ok ()) { state with userMerchants := rows }) :
    Ensures (insertMembership around membership) state post := by
  rw [insertMembership, ensures_change]
  constructor
  · rintro (fails | conflicts)
    · exact refused (.inl fails)
    · exact refused (.inr (Option.map_eq_none_iff.mp conflicts))
  · intro next _ isNext
    rcases Option.map_eq_some_iff.mp isNext with ⟨rows, joined, rfl⟩
    exact inserts rows joined

theorem ensures_mint_bind {claims : JwtClaims} {rest : JwtClaims → Handler α}
    (fails : post (.error .tokenGenerationFailed) state)
    (mints : Ensures (rest claims) { state with minted := state.minted ++ [claims] } post) :
    Ensures (mint around claims >>= rest) state post := by
  rw [mint, ensures_bind]
  apply ensures_change_bind
  · intro _
    exact fails
  · intro next _ isNext
    cases isNext
    exact mints

/-- A request goes on only with a token that has been minted. -/
theorem ensures_verify_bind {bearer : Option JwtClaims} {rest : JwtClaims → Handler α}
    (fails : post (.error .invalidToken) state)
    (verified : ∀ claims, bearer = some claims → claims ∈ state.minted →
      Ensures (rest claims) state post) :
    Ensures (verifyJwtNotRevoked around bearer >>= rest) state post := by
  rw [verifyJwtNotRevoked, ensures_bind]
  apply ensures_orError_bind
  · intro _
    exact fails
  intro claims isBearer
  apply ensures_query_bind
  · intro _
    exact fails
  intro _
  apply ensures_require_bind
  · intro _
    exact fails
  intro accepted
  apply verified claims isBearer
  rw [AuthState.accepts, Bool.and_eq_true, Bool.and_eq_true] at accepted
  exact List.contains_iff_mem.mp accepted.1.1

end Statements

/-! ## Requests -/

section Requests

variable {config : AuthConfig} {around : Surroundings} {state : AuthState}

variable {request : Request}

theorem change_startSession {user : User} (isUser : user ∈ state.users) :
    Ensures (startSession config around user) state fun _ next =>
      Change config around state request next := by
  have kept : Change config around state request state := .kept request state.keys
  rw [startSession]
  apply ensures_query_bind (fun _ => kept)
  intro _
  apply ensures_mint_bind kept
  exact .started isUser

theorem change_login (request : LoginRequest) :
    Ensures (login config around request) state fun _ next =>
      Change config around state (.login request) next := by
  have kept : Change config around state (.login request) state := .kept _ state.keys
  rw [login]
  apply ensures_query_bind (fun _ => kept)
  intro _
  apply ensures_orError_bind (fun _ => kept)
  intro user isLast
  apply ensures_require_bind (fun _ => kept)
  intro _
  apply ensures_require_bind (fun _ => kept)
  intro _
  apply ensures_orError_bind (fun _ => kept)
  intro _ _
  apply ensures_require_bind (fun _ => kept)
  intro _
  apply change_startSession
  exact (List.mem_filter.mp (List.mem_of_getLast? isLast)).1

variable (bearer : Option JwtClaims)

theorem change_exitMerchant :
    Ensures (exitMerchant config around bearer) state fun _ next =>
      Change config around state (.exitMerchant bearer) next := by
  have kept : Change config around state (.exitMerchant bearer) state := .kept _ state.keys
  rw [exitMerchant]
  apply ensures_verify_bind kept
  intro claims _ _
  apply ensures_require_bind (fun _ => kept)
  intro _
  apply ensures_require_bind (fun _ => kept)
  intro _
  apply ensures_query_bind (fun _ => kept)
  intro _
  apply ensures_orError_bind (fun _ => kept)
  intro user isLast
  apply change_startSession
  exact (List.mem_filter.mp (List.mem_of_getLast? isLast)).1

theorem change_enterMerchant (merchantId : String) :
    Ensures (enterMerchant config around bearer merchantId) state fun _ next =>
      Change config around state (.enterMerchant bearer merchantId) next := by
  have kept : Change config around state (.enterMerchant bearer merchantId) state :=
    .kept _ state.keys
  rw [enterMerchant]
  apply ensures_verify_bind kept
  intro claims _ minted
  apply ensures_require_bind (fun _ => kept)
  intro standard
  apply ensures_require_bind (fun _ => kept)
  intro _
  apply ensures_query_bind (fun _ => kept)
  intro _
  apply ensures_require_bind (fun _ => kept)
  intro _
  apply ensures_mint_bind kept
  rw [ensures_pure]
  have isStandard : claims.tokenType = .standard := of_decide_eq_true standard
  refine .viewed minted rfl ?_ ?_
  · exact nofun
  · intro _
    rw [isStandard]
    exact nofun

theorem change_switchMerchant (merchantId : String) :
    Ensures (switchMerchant config around bearer merchantId) state fun _ next =>
      Change config around state (.switchMerchant bearer merchantId) next := by
  have kept : Change config around state (.switchMerchant bearer merchantId) state :=
    .kept _ state.keys
  have inGrant {claims : JwtClaims} (minted : claims ∈ state.minted)
      (notStandard : claims.tokenType ≠ .standard) :
      Ensures (switchWithinGrant around claims merchantId) state fun _ next =>
        Change config around state (.switchMerchant bearer merchantId) next := by
    rw [switchWithinGrant]
    apply ensures_require_bind (fun _ => kept)
    intro _
    apply ensures_mint_bind kept
    rw [ensures_pure]
    refine .viewed minted rfl notStandard ?_
    intro isView
    rw [show claims.tokenType = .superAdminView from isView]
    exact nofun
  rw [switchMerchant]
  apply ensures_verify_bind kept
  intro claims _ minted
  cases isType : claims.tokenType with
  | standard =>
      dsimp only
      rw [switchWithinMemberships]
      apply ensures_query_bind (fun _ => kept)
      intro _
      apply ensures_orError_bind (fun _ => kept)
      intro target isTarget
      apply ensures_mint_bind kept
      rcases List.mem_map.mp (List.mem_of_find?_eq_some isTarget) with
        ⟨membership, isMember, rfl⟩
      rcases List.mem_filter.mp isMember with ⟨isRow, own⟩
      exact .switched isRow (of_decide_eq_true own) minted isType
  | hsRedirect => exact inGrant minted (by rw [isType]; nofun)
  | superAdminView => exact inGrant minted (by rw [isType]; nofun)

theorem change_inviteMember (request : InviteMemberRequest) :
    Ensures (inviteMember around bearer request) state fun _ next =>
      Change config around state (.inviteMember bearer request) next := by
  have kept : Change config around state (.inviteMember bearer request) state :=
    .kept _ state.keys
  rw [inviteMember]
  apply ensures_verify_bind kept
  intro claims isBearer minted
  cases isBearer
  apply ensures_require_bind (fun _ => kept)
  intro standard
  apply ensures_require_bind (fun _ => kept)
  intro admin
  have session : AdminSession state claims :=
    ⟨minted, of_decide_eq_true standard, of_decide_eq_true admin⟩
  apply ensures_query_bind (fun _ => kept)
  intro _
  apply ensures_query_bind (fun _ => kept)
  intro _
  split
  · rename_i user isFirst
    have found := List.mem_filter.mp (List.mem_of_head? isFirst)
    rw [inviteExisting]
    apply ensures_query_bind (fun _ => kept)
    intro _
    apply ensures_require_bind (fun _ => kept)
    intro _
    rw [ensures_bind]
    apply ensures_insertMembership
    · intro _
      exact kept
    · intro rows joined
      exact .invited session found.1 (of_decide_eq_true found.2) joined
  · rw [inviteNew]
    apply ensures_orError_bind (fun _ => kept)
    intro passwordHash _
    rw [ensures_bind]
    apply ensures_insertUser
    · exact kept
    intro users inserted
    dsimp only
    rw [ensures_bind, ensures_onError]
    apply ensures_insertMembership
    · intro refused
      dsimp only
      rw [AuthState.deleteUser]
      split
      · exact .homeless inserted refused
      · exact .cleaned inserted
    · intro rows joined
      exact .welcomed session inserted joined

theorem change_createMerchant (merchantName : String) :
    Ensures (createMerchant config around bearer merchantName) state fun _ next =>
      Change config around state (.createMerchant bearer merchantName) next := by
  have kept : Change config around state (.createMerchant bearer merchantName) state :=
    .kept _ state.keys
  rw [createMerchant]
  apply ensures_verify_bind kept
  intro claims isBearer minted
  cases isBearer
  apply ensures_require_bind (fun _ => kept)
  intro isStandard
  have standard : claims.tokenType = .standard := of_decide_eq_true isStandard
  apply ensures_change_bind (fun _ => kept)
  intro _ _ isNext
  cases isNext
  rw [ensures_bind]
  apply ensures_insertMembership
  · intro _
    exact .merchantInserted
  intro rows joined
  dsimp only
  apply ensures_change_bind
  · intro _
    exact .merchantJoined minted standard joined
  intro _ _ isNext
  cases isNext
  have unminted : Change config around state (.createMerchant (some claims) merchantName)
      { state.moveUser claims.userId ("merchant_" ++ around.merchantDigits) with
        merchantAccounts := state.merchantAccounts ++
          [⟨some ("merchant_" ++ around.merchantDigits), some merchantName⟩]
        userMerchants := rows } := by
    have created : Change config around state (.createMerchant (some claims) merchantName)
        { state.moveUser claims.userId ("merchant_" ++ around.merchantDigits) with
          merchantAccounts := state.merchantAccounts ++
            [⟨some ("merchant_" ++ around.merchantDigits), some merchantName⟩]
          userMerchants := rows
          minted := state.minted ++ [] } :=
      .merchantCreated minted standard joined nofun
    rwa [List.append_nil] at created
  apply ensures_query_bind (fun _ => unminted)
  intro _
  apply ensures_mint_bind unminted
  exact .merchantCreated minted standard joined fun token isToken => List.mem_singleton.mp isToken

/-! ## Signing up -/

theorem ensures_requireMerchant_bind {α : Type} {named : Option String} {rest : Unit → Handler α}
    {post : Except UserAuthError α → AuthState → Prop}
    (refused : ∀ error, post (.error error) state) (goes : Ensures (rest ()) state post) :
    Ensures (requireMerchant around named >>= rest) state post := by
  rw [ensures_bind]
  cases named with
  | none => exact goes
  | some merchantId =>
      rw [requireMerchant]
      apply ensures_query_bind
      · intro _
        exact refused _
      · intro _
        rw [ensures_require]
        exact ⟨fun _ => refused _, fun _ => goes⟩

/-- The end of a signup: the token, then the merchants of the response. -/
theorem change_answer {β : Type} {middle : AuthState} {request : Request} {claims : JwtClaims}
    {userId : String} {respond : JwtClaims → List MerchantInfo → β}
    (unminted : Change config around state request middle)
    (minted : Change config around state request
      { middle with minted := middle.minted ++ [claims] }) :
    Ensures (do
      let token ← mint around claims
      let merchants ← fetchUserMerchants around userId
      pure (respond token merchants)) middle
      fun _ next => Change config around state request next := by
  apply ensures_mint_bind unminted
  apply ensures_query_bind
  · intro _
    exact minted
  · intro _
    exact minted

theorem change_signupVerified {request : SignupRequest} {user : User} {passwordHash : String}
    (admitted : request.Admitted config) (direct : config.emailVerificationEnabled = false)
    (isUser : user = signupUser around request passwordHash true) :
    Ensures (signupVerified config around user) state fun _ next =>
      Change config around state (.signup request) next := by
  have kept : Change config around state (.signup request) state := .kept _ state.keys
  have isNamed : request.requestedMerchantId = user.merchantId := by rw [isUser]; rfl
  rw [signupVerified, ensures_bind]
  apply ensures_insertUser
  · exact kept
  intro users inserted
  dsimp only
  rw [isUser] at inserted
  rw [ensures_bind]
  cases named : user.merchantId with
  | none =>
      rw [attachUser, ensures_pure]
      have registered (tokens : List JwtClaims)
          (own : ∀ token ∈ tokens,
            token = standardClaims config around around.userId request.email "" "admin") :
          Change config around state (.signup request)
            { state with users := users, minted := state.minted ++ tokens } :=
        .registered (isNamed.trans named) inserted own
      apply change_answer
      · have unminted := registered [] nofun
        rwa [List.append_nil] at unminted
      · apply registered
        intro token isToken
        rw [List.mem_singleton.mp isToken, isUser]
        rfl
  | some merchantId =>
      have attached (tokens : List JwtClaims) {rows : Table UserMerchant SameMembership}
          (joined : state.userMerchants.insert ⟨around.userId, merchantId, "admin"⟩ = some rows)
          (own : ∀ token ∈ tokens,
            token = standardClaims config around around.userId request.email merchantId "admin") :
          Change config around state (.signup request)
            { state with
              users := users, userMerchants := rows, minted := state.minted ++ tokens } :=
        .attached admitted (isNamed.trans named) inserted joined own
      rw [attachUser]
      apply ensures_insertMembership
      · intro refused
        rw [isUser] at refused
        apply Change.stranded (isNamed.trans named) inserted refused
        intro enabled
        rw [direct] at enabled
        cases enabled
      · intro rows joined
        rw [isUser] at joined
        dsimp only
        apply change_answer
        · have unminted := attached [] joined nofun
          rwa [List.append_nil] at unminted
        · apply attached _ joined
          intro token isToken
          rw [List.mem_singleton.mp isToken, isUser]
          rfl

/-- The cleanup of a signup changes nothing but keys. -/
theorem releaseLock_keys (around : Surroundings) (email : String) (middle : AuthState) :
    ∃ keys, middle.releaseLock around email = { middle with keys := keys } := by
  rw [AuthState.releaseLock]
  split
  · exact ⟨middle.keys, rfl⟩
  · exact ⟨_, rfl⟩

theorem cleanup_keys (around : Surroundings) (email : String) (middle : AuthState) :
    ∃ keys, (middle.deleteVerification around).releaseLock around email =
      { middle with keys := keys } := by
  rcases releaseLock_keys around email (middle.deleteVerification around) with ⟨keys, same⟩
  rw [same, AuthState.deleteVerification]
  split
  · exact ⟨keys, rfl⟩
  · exact ⟨keys, rfl⟩

theorem Change.kept_of_keys {next : AuthState}
    (sameKeys : ∃ keys, next = { state with keys := keys }) :
    Change config around state request next := by
  rcases sameKeys with ⟨keys, rfl⟩
  exact .kept _ keys

theorem change_signupUnverified {request : SignupRequest} {user : User} {passwordHash : String}
    (admitted : request.Admitted config)
    (isUser : user = signupUser around request passwordHash false) :
    Ensures (signupUnverified around request user) state fun _ next =>
      Change config around state (.signup request) next := by
  have kept : Change config around state (.signup request) state := .kept _ state.keys
  have isNamed : request.requestedMerchantId = user.merchantId := by rw [isUser]; rfl
  have isId : user.userId = around.userId := by rw [isUser]; rfl
  rw [signupUnverified]
  apply ensures_query_bind (fun _ => kept)
  intro _
  apply ensures_require_bind (fun _ => kept)
  intro _
  apply ensures_modify_bind
  rw [ensures_bind, ensures_onError, ensures_require]
  constructor
  · intro _
    exact .kept_of_keys (releaseLock_keys around request.email _)
  intro _
  dsimp only
  rw [ensures_bind, ensures_onError, ensures_change]
  constructor
  · intro _
    exact .kept_of_keys (releaseLock_keys around request.email _)
  intro _ _ isNext
  cases isNext
  dsimp only
  rw [ensures_bind, ensures_onError]
  apply ensures_insertUser
  · exact .kept_of_keys (cleanup_keys around request.email _)
  intro users inserted
  dsimp only
  rw [isUser] at inserted
  rw [ensures_bind, ensures_onError]
  cases named : user.merchantId with
  | none =>
      rw [attachUser, ensures_pure]
      dsimp only
      apply ensures_modify_bind
      rw [ensures_pure]
      rcases releaseLock_keys around request.email _ with ⟨keys, same⟩
      have registered : Change config around state (.signup request)
          { state with users := users, minted := state.minted ++ [], keys := keys } :=
        .registered (isNamed.trans named) inserted nofun
      rw [List.append_nil] at registered
      rw [same]
      exact registered
  | some merchantId =>
      rw [attachUser]
      apply ensures_insertMembership
      · intro refused
        rw [isUser] at refused
        dsimp only
        rcases cleanup_keys around request.email _ with ⟨keys, same⟩
        rw [same, AuthState.deleteUser]
        split
        · rename_i fails
          exact .stranded (isNamed.trans named) inserted refused fun _ => fails
        · rw [isUser]
          exact .cleaned inserted
      · intro rows joined
        rw [isUser] at joined
        dsimp only
        apply ensures_modify_bind
        rw [ensures_pure]
        rcases releaseLock_keys around request.email _ with ⟨keys, same⟩
        have attached : Change config around state (.signup request)
            { state with
              users := users
              userMerchants := rows
              minted := state.minted ++ []
              keys := keys } :=
          .attached admitted (isNamed.trans named) inserted joined nofun
        rw [List.append_nil] at attached
        rw [same]
        exact attached

theorem change_signup (request : SignupRequest) :
    Ensures (signup config around request) state fun _ next =>
      Change config around state (.signup request) next := by
  have kept : Change config around state (.signup request) state := .kept _ state.keys
  rw [signup]
  apply ensures_require_bind (fun _ => kept)
  intro isAdmitted
  have admitted : request.Admitted config := by
    simpa [SignupRequest.Admitted] using isAdmitted
  apply ensures_query_bind (fun _ => kept)
  intro _
  apply ensures_require_bind (fun _ => kept)
  intro _
  apply ensures_require_bind (fun _ => kept)
  intro _
  apply ensures_orError_bind (fun _ => kept)
  intro passwordHash _
  apply ensures_requireMerchant_bind (fun _ => kept)
  split
  · exact change_signupUnverified admitted rfl
  · rename_i direct
    exact change_signupVerified admitted ((Bool.not_eq_true _).mp direct) rfl

/-- Every request is one of the changes. -/
theorem change_handle (config : AuthConfig) (around : Surroundings) (state : AuthState)
    (request : Request) :
    Change config around state request (handle config around state request) := by
  cases request with
  | signup request => exact (change_signup request).final
  | login request => exact (change_login request).final
  | createMerchant bearer merchantName => exact (change_createMerchant bearer merchantName).final
  | switchMerchant bearer merchantId => exact (change_switchMerchant bearer merchantId).final
  | inviteMember bearer request => exact (change_inviteMember bearer request).final
  | enterMerchant bearer merchantId => exact (change_enterMerchant bearer merchantId).final
  | exitMerchant bearer => exact (change_exitMerchant bearer).final

end Requests

end DecisionEngine.Auth
