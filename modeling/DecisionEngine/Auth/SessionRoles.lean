import DecisionEngine.Auth.AccountChanges
import DecisionEngine.Transition.Run

/-!
# The role of a session

A standard session is for a merchant with a role, and a membership gives its user a role at
its merchant.  A login and a return from a view take the role of the user's row instead, and
the session of a new merchant takes the role of the session before it.

A session has the role of a membership when the row of every user keeps the role of the
membership at the merchant that a login is for.
-/

namespace DecisionEngine.Auth

open Database Transition

/-! ## Histories -/

/-- What an administrator, a login and a password change cannot alter of a user. -/
structure Account where
  userId : String
  email : String
  merchantId : Option String
  role : String

def User.account (user : User) : Account :=
  ⟨user.userId, user.email, user.merchantId, user.role⟩

/-- What else happens: emails are verified, passwords change, tokens are revoked, keys
expire, merchant accounts come and go, sessions are handed over from elsewhere, and the
database returns its rows in another order. -/
structure Background (state next : AuthState) : Prop where
  users : (next.users.rows.map User.account).Perm (state.users.rows.map User.account)
  userMerchants : next.userMerchants.rows.Perm state.userMerchants.rows
  minted : ∃ tokens, next.minted = state.minted ++ tokens ∧
    ∀ token ∈ tokens, token.tokenType = .hsRedirect

/-- A request with its surroundings, or what happens between requests. -/
inductive Occurrence where
  | request (around : Surroundings) (request : Request)
  | background

inductive Occurs (config : AuthConfig) : AuthState → Occurrence → AuthState → Prop
  | request (around : Surroundings) (request : Request) (state : AuthState) :
      Occurs config state (.request around request) (handle config around state request)
  | background {state next : AuthState} (background : Background state next) :
      Occurs config state .background next

/-- Requests one after the other. -/
def handleAll (config : AuthConfig) (state : AuthState) (requests : List (Surroundings × Request)) :
    AuthState :=
  requests.foldl (fun state entry => handle config entry.1 state entry.2) state

/-- Allowed requests one after the other are a run. -/
theorem run_handleAll {config : AuthConfig} (allowed : AuthState → Occurrence → Prop)
    {state : AuthState} {requests : List (Surroundings × Request)}
    (allowedActions : AllowedActions (fun state entry => handle config entry.1 state entry.2)
      (fun state entry => allowed state (.request entry.1 entry.2)) state requests) :
    Run (fun state occurrence next =>
        Occurs config state occurrence next ∧ allowed state occurrence)
      state (requests.map fun entry => .request entry.1 entry.2)
      (handleAll config state requests) := by
  induction requests generalizing state with
  | nil => exact .refl
  | cons entry rest ih =>
      rcases allowedActions with ⟨first, others⟩
      exact (Run.single ⟨.request entry.1 entry.2 state, first⟩).append (ih others)

/-- Requests one after the other are a run. -/
theorem run_requests (config : AuthConfig) (state : AuthState)
    (requests : List (Surroundings × Request)) :
    Run (Occurs config) state (requests.map fun entry => .request entry.1 entry.2)
      (handleAll config state requests) := by
  have always : AllowedActions (fun state entry => handle config entry.1 state entry.2)
      (fun _ _ => True) state requests :=
    allowedActions_of_forall (fun _ _ => trivial) state requests
  exact (run_handleAll (fun _ _ => True) always).mono fun _ _ _ occurs => occurs.1

/-! ## Homes -/

variable (userMerchants : Table UserMerchant SameMembership)

/-- The claims are a membership, or for no merchant. -/
def Held (claims : JwtClaims) : Prop :=
  claims.merchantId = "" ∨ ⟨claims.userId, claims.merchantId, claims.role⟩ ∈ userMerchants

/-- The role of the user's row is the role of the membership at the user's merchant, and of
every membership while the user has none. -/
def HomeRole (account : Account) : Prop :=
  match account.merchantId with
  | some merchantId => ⟨account.userId, merchantId, account.role⟩ ∈ userMerchants
  | none => ∀ row ∈ userMerchants, row.userId = account.userId →
      row.merchantId = "" ∨ row.role = account.role

/-- A request keeps the role of every user's row with the membership at the user's merchant:
the membership of a signup is inserted or the user deleted again, a merchant is created by an
administrator, and a user without a merchant is invited with the role that the row has. -/
def KeepsRoles (config : AuthConfig) (state : AuthState) : Occurrence → Prop
  | .request around (.signup request) =>
      request.requestedMerchantId ≠ none → around.fails .insertMembership = true →
        config.emailVerificationEnabled = true ∧ around.fails .deleteUser = false
  | .request _ (.createMerchant (some claims) _) =>
      claims.tokenType = .standard → claims.role = "admin" ∧
        ∀ user ∈ state.users, user.userId = claims.userId → user.role = "admin"
  | .request _ (.inviteMember (some claims) request) =>
      claims.merchantId ≠ "" → ∀ user ∈ state.users, user.email = request.email →
        user.merchantId = none → user.role = request.grantedRole
  | _ => True

/-- Memberships and sessions are of users, every user's row keeps the role of its
membership, and standard sessions are memberships. -/
structure RolesKept (users : Table User SameUser)
    (userMerchants : Table UserMerchant SameMembership) (minted : List JwtClaims) : Prop where
  members : ∀ row ∈ userMerchants, ∃ user ∈ users, user.userId = row.userId
  sessions : ∀ claims ∈ minted, claims.tokenType ≠ .hsRedirect →
    ∃ user ∈ users, user.userId = claims.userId
  homes : ∀ user ∈ users, HomeRole userMerchants user.account
  held : ∀ claims ∈ minted, claims.tokenType = .standard → Held userMerchants claims

section Changes

variable {users nextUsers : Table User SameUser}
  {rows nextRows : Table UserMerchant SameMembership} {minted : List JwtClaims}
  {user : User} {membership : UserMerchant}

/-- A new user has an id that no other user has. -/
theorem userId_ne_of_insert {other : User} (inserted : users.insert user = some nextUsers)
    (otherMem : other ∈ users) : other.userId ≠ user.userId := by
  intro same
  unfold Table.insert at inserted
  split at inserted
  · rename_i free
    exact free other otherMem (.inl same)
  · cases inserted

theorem Held.insert {claims : JwtClaims} (held : Held rows claims)
    (joined : rows.insert membership = some nextRows) : Held nextRows claims :=
  held.imp_right fun isRow => (Table.mem_insert joined _).mpr (.inl isRow)

/-- A new membership keeps the role of a user at the user's merchant, unless the user has
none and another role. -/
theorem HomeRole.insert {account : Account} (home : HomeRole rows account)
    (joined : rows.insert membership = some nextRows)
    (agrees : account.merchantId = none → membership.userId = account.userId →
      membership.merchantId = "" ∨ membership.role = account.role) :
    HomeRole nextRows account := by
  rw [HomeRole] at home ⊢
  split
  · rename_i merchantId isHome
    rw [isHome] at home
    exact (Table.mem_insert joined _).mpr (.inl home)
  · rename_i isHome
    rw [isHome] at home
    intro row isRow own
    rcases (Table.mem_insert joined row).mp isRow with old | rfl
    · exact home row old own
    · exact agrees isHome own

namespace RolesKept

section

variable (kept : RolesKept users rows minted)

include kept

theorem not_member_of_insert (inserted : users.insert user = some nextUsers) {row : UserMerchant}
    (isRow : row ∈ rows) :
    row.userId ≠ user.userId := by
  rcases kept.members row isRow with ⟨owner, isUser, own⟩
  rw [← own]
  exact userId_ne_of_insert inserted isUser

/-- A new user without a merchant and without memberships. -/
theorem register 
    (inserted : users.insert user = some nextUsers) (homeless : user.merchantId = none) :
    RolesKept nextUsers rows minted := by
  have old (other : User) (isOld : other ∈ users) : other ∈ nextUsers :=
    (Table.mem_insert inserted other).mpr (.inl isOld)
  constructor
  · intro row isRow
    rcases kept.members row isRow with ⟨owner, isUser, own⟩
    exact ⟨owner, old owner isUser, own⟩
  · intro claims isMinted known
    rcases kept.sessions claims isMinted known with ⟨owner, isUser, own⟩
    exact ⟨owner, old owner isUser, own⟩
  · intro other isUser
    rcases (Table.mem_insert inserted other).mp isUser with isOld | rfl
    · exact kept.homes other isOld
    · rw [HomeRole, User.account]
      dsimp only
      rw [homeless]
      intro row isRow own
      exact absurd own (kept.not_member_of_insert inserted isRow)
  · exact kept.held

/-- A new membership of a user. -/
theorem join  (isUser : user ∈ users)
    (own : user.userId = membership.userId)
    (joined : rows.insert membership = some nextRows)
    (agrees : ∀ other ∈ users, other.userId = membership.userId → other.merchantId = none →
      membership.merchantId = "" ∨ membership.role = other.role) :
    RolesKept users nextRows minted := by
  constructor
  · intro row isRow
    rcases (Table.mem_insert joined row).mp isRow with old | rfl
    · exact kept.members row old
    · exact ⟨user, isUser, own⟩
  · exact kept.sessions
  · intro other isOther
    apply (kept.homes other isOther).insert joined
    intro homeless same
    exact agrees other isOther same.symm homeless
  · intro claims isMinted standard
    exact (kept.held claims isMinted standard).insert joined

/-- A new user with a first membership, which has the role of the user's row. -/
theorem welcome (inserted : users.insert user = some nextUsers)
    (joined : rows.insert membership = some nextRows) (own : membership.userId = user.userId)
    (role : membership.role = user.role)
    (home : ∀ merchantId, user.merchantId = some merchantId → membership.merchantId = merchantId) :
    RolesKept nextUsers nextRows minted := by
  have old (other : User) (isOld : other ∈ users) : other ∈ nextUsers :=
    (Table.mem_insert inserted other).mpr (.inl isOld)
  have isMember : membership ∈ nextRows := (Table.mem_insert joined membership).mpr (.inr rfl)
  constructor
  · intro row isRow
    rcases (Table.mem_insert joined row).mp isRow with isOld | rfl
    · rcases kept.members row isOld with ⟨owner, isUser, same⟩
      exact ⟨owner, old owner isUser, same⟩
    · exact ⟨user, (Table.mem_insert inserted user).mpr (.inr rfl), own.symm⟩
  · intro claims isMinted known
    rcases kept.sessions claims isMinted known with ⟨owner, isUser, same⟩
    exact ⟨owner, old owner isUser, same⟩
  · intro other isUser
    rcases (Table.mem_insert inserted other).mp isUser with isOld | rfl
    · apply (kept.homes other isOld).insert joined
      intro _ same
      exact absurd (same.symm.trans own) (userId_ne_of_insert inserted isOld)
    · rw [HomeRole, User.account]
      dsimp only
      split
      · rename_i merchantId isHome
        rw [← own, ← role, ← home merchantId isHome]
        exact isMember
      · intro row isRow same
        rcases (Table.mem_insert joined row).mp isRow with isOld | rfl
        · exact absurd same (kept.not_member_of_insert inserted isOld)
        · exact .inr role
  · intro claims isMinted standard
    exact (kept.held claims isMinted standard).insert joined

/-- New tokens of users; the standard ones are memberships. -/
theorem mint {tokens : List JwtClaims}
    (known : ∀ token ∈ tokens, token.tokenType ≠ .hsRedirect →
      ∃ user ∈ users, user.userId = token.userId)
    (held : ∀ token ∈ tokens, token.tokenType = .standard → Held rows token) :
    RolesKept users rows (minted ++ tokens) := by
  constructor
  · exact kept.members
  · intro claims isMinted
    rcases List.mem_append.mp isMinted with old | new
    · exact kept.sessions claims old
    · exact known claims new
  · exact kept.homes
  · intro claims isMinted
    rcases List.mem_append.mp isMinted with old | new
    · exact kept.held claims old
    · exact held claims new

/-- Tokens with the same claims, of a user and, if standard, of a membership. -/
theorem mint_same {tokens : List JwtClaims} {claims : JwtClaims}
    (same : ∀ token ∈ tokens, token = claims)
    (known : claims.tokenType ≠ .hsRedirect → ∃ user ∈ users, user.userId = claims.userId)
    (held : claims.tokenType = .standard → Held rows claims) :
    RolesKept users rows (minted ++ tokens) := by
  apply kept.mint
  · intro token isToken
    rw [same token isToken]
    exact known
  · intro token isToken
    rw [same token isToken]
    exact held

/-- The membership of an administrator at the merchant that the administrator creates. -/
theorem found {claims : JwtClaims} {merchantId : String}
    (admins : ∀ user ∈ users, user.userId = claims.userId → user.role = "admin")
    (isMinted : claims ∈ minted) (standard : claims.tokenType = .standard)
    (joined : rows.insert ⟨claims.userId, merchantId, "admin"⟩ = some nextRows) :
    RolesKept users nextRows minted := by
  have notRedirect : claims.tokenType ≠ .hsRedirect := by
    rw [standard]
    exact nofun
  rcases kept.sessions claims isMinted notRedirect with ⟨user, isUser, own⟩
  apply kept.join isUser own joined
  intro other isOther same _
  exact .inr (admins other isOther same).symm

/-- Users that stay are still those of the memberships and of the sessions. -/
theorem stay (stays : ∀ user ∈ users, ∃ next ∈ nextUsers, next.userId = user.userId) :
    (∀ row ∈ rows, ∃ user ∈ nextUsers, user.userId = row.userId) ∧
      ∀ claims ∈ minted, claims.tokenType ≠ .hsRedirect →
        ∃ user ∈ nextUsers, user.userId = claims.userId := by
  have found {userId : String} (isFound : ∃ user ∈ users, user.userId = userId) :
      ∃ user ∈ nextUsers, user.userId = userId := by
    rcases isFound with ⟨owner, isUser, rfl⟩
    exact stays owner isUser
  exact ⟨fun row isRow => found (kept.members row isRow),
    fun claims isMinted known => found (kept.sessions claims isMinted known)⟩

/-- The user moves to a merchant where the membership has the role of the user's row. -/
theorem move {userId merchantId : String}
    (member : ∀ user ∈ users, user.userId = userId → ⟨userId, merchantId, user.role⟩ ∈ rows) :
    RolesKept (users.update (fun user => decide (user.userId = userId))
      (User.movedTo merchantId) (keeps_movedTo userId merchantId)) rows minted := by
  have stays (user : User) (isUser : user ∈ users) :
      ∃ next ∈ users.update (fun user => decide (user.userId = userId))
        (User.movedTo merchantId) (keeps_movedTo userId merchantId), next.userId = user.userId := by
    refine ⟨_, (Table.mem_update _).mpr ⟨user, isUser, rfl⟩, ?_⟩
    split <;> rfl
  rcases kept.stay stays with ⟨members, sessions⟩
  refine ⟨members, sessions, ?_, kept.held⟩
  · intro other isOther
    rcases (Table.mem_update _).mp isOther with ⟨old, isOld, rfl⟩
    split
    · rename_i isMoved
      have own : old.userId = userId := of_decide_eq_true isMoved
      have isMember := member old isOld own
      rw [← own] at isMember
      exact isMember
    · exact kept.homes old isOld

/-- Only the accounts of the users and the memberships matter. -/
theorem of_same
    (accounts : ∀ account, (∃ user ∈ nextUsers, user.account = account) ↔
      ∃ user ∈ users, user.account = account)
    (memberships : ∀ row, row ∈ nextRows ↔ row ∈ rows) :
    RolesKept nextUsers nextRows minted := by
  have stays (user : User) (isUser : user ∈ users) :
      ∃ next ∈ nextUsers, next.userId = user.userId := by
    rcases (accounts user.account).mpr ⟨user, isUser, rfl⟩ with ⟨next, isNext, same⟩
    exact ⟨next, isNext, congrArg Account.userId same⟩
  rcases kept.stay stays with ⟨members, sessions⟩
  refine ⟨fun row isRow => members row ((memberships row).mp isRow), sessions, ?_, ?_⟩
  · intro user isUser
    rcases (accounts user.account).mp ⟨user, isUser, rfl⟩ with ⟨old, isOld, same⟩
    have home := kept.homes old isOld
    rw [same] at home
    simp only [HomeRole, memberships]
    exact home
  · intro claims isMinted standard
    exact (kept.held claims isMinted standard).imp_right (memberships _).mpr

/-- A new user that is removed again. -/
theorem dismiss (inserted : users.insert user = some nextUsers) :
    RolesKept (nextUsers.remove fun other => other.userId = user.userId) rows minted := by
  apply kept.of_same _ fun _ => Iff.rfl
  intro account
  constructor
  · rintro ⟨other, isOther, rfl⟩
    rcases Table.mem_remove.mp isOther with ⟨isOther, stays⟩
    rcases (Table.mem_insert inserted other).mp isOther with old | rfl
    · exact ⟨other, old, rfl⟩
    · exact absurd rfl (of_decide_eq_false stays)
  · rintro ⟨other, isOther, rfl⟩
    refine ⟨other, Table.mem_remove.mpr ⟨?_, ?_⟩, rfl⟩
    · exact (Table.mem_insert inserted other).mpr (.inl isOther)
    · exact decide_eq_false (userId_ne_of_insert inserted isOther)

end

end RolesKept

end Changes

/-! ## Steps -/

section Steps

variable {config : AuthConfig} {around : Surroundings} {state next : AuthState}

/-- A login is for a membership with the role of the user's row, or for no merchant. -/
theorem HomeRole.held {user : User} (home : HomeRole state.userMerchants user.account) :
    Held state.userMerchants (standardClaims config around user.userId user.email
      (homeMerchantId user (state.merchantsOf user.userId)) user.role) := by
  rw [HomeRole, User.account] at home
  dsimp only at home
  change homeMerchantId user (state.merchantsOf user.userId) = "" ∨
    ⟨user.userId, homeMerchantId user (state.merchantsOf user.userId), user.role⟩ ∈
      state.userMerchants
  cases isHome : user.merchantId with
  | some merchantId =>
      rw [isHome] at home
      rw [homeMerchantId, isHome]
      exact .inr home
  | none =>
      rw [isHome] at home
      rw [homeMerchantId, isHome, Option.getD_none]
      cases isFirst : (state.merchantsOf user.userId).head? with
      | none => exact .inl rfl
      | some info =>
          rcases List.mem_map.mp (List.mem_of_head? isFirst) with ⟨row, isMember, rfl⟩
          rcases List.mem_filter.mp isMember with ⟨isRow, isOwn⟩
          have own : row.userId = user.userId := of_decide_eq_true isOwn
          apply (home row isRow own).imp_right
          intro role
          rw [← own, ← role]
          exact isRow

theorem RolesKept.change {request : Request}
    (kept : RolesKept state.users state.userMerchants state.minted)
    (keeps : KeepsRoles config state (.request around request))
    (change : Change config around state request next) :
    RolesKept next.users next.userMerchants next.minted := by
  cases change with
  | kept => exact kept
  | @registered request _ _ _ tokens _ unnamed inserted own =>
      apply (kept.register inserted unnamed).mint_same own
      · intro _
        exact ⟨_, (Table.mem_insert inserted _).mpr (.inr rfl), rfl⟩
      · intro _
        exact .inl rfl
  | @attached request _ _ merchantId _ _ tokens _ _ named inserted joined own =>
      have welcomed := kept.welcome inserted joined rfl rfl fun _ isHome =>
        Option.some.inj (named.symm.trans isHome)
      apply welcomed.mint_same own
      · intro _
        exact ⟨_, (Table.mem_insert inserted _).mpr (.inr rfl), rfl⟩
      · intro _
        exact .inr ((Table.mem_insert joined _).mpr (.inr rfl))
  | @stranded request _ _ _ _ _ named inserted refused uncleaned =>
      have isNamed : request.requestedMerchantId ≠ none := by
        rw [named]
        exact nofun
      rcases refused with fails | conflicts
      · have cleans := keeps isNamed fails
        rw [uncleaned cleans.1] at cleans
        cases cleans.2
      · rcases Table.exists_conflict_of_insert conflicts with ⟨row, isRow, conflict⟩
        exact absurd conflict.1 (kept.not_member_of_insert inserted isRow)
  | cleaned inserted => exact kept.dismiss inserted
  | started isUser =>
      apply kept.mint_same fun _ => List.mem_singleton.mp
      · intro _
        exact ⟨_, isUser, rfl⟩
      · intro _
        exact (kept.homes _ isUser).held
  | @switched _ claims membership isMember own minted standard =>
      apply kept.mint_same fun _ => List.mem_singleton.mp
      · intro _
        apply kept.sessions _ minted
        rw [standard]
        exact nofun
      · intro _
        have isRow : ⟨claims.userId, membership.merchantId, membership.role⟩ ∈
            state.userMerchants := by
          rw [← own]
          exact isMember
        exact .inr isRow
  | @viewed _ claims token minted own notStandard known =>
      apply kept.mint_same fun _ => List.mem_singleton.mp
      · intro notRedirect
        rw [own]
        apply kept.sessions claims minted
        cases isType : token.tokenType with
        | standard => exact absurd isType notStandard
        | hsRedirect => exact absurd isType notRedirect
        | superAdminView => exact known isType
      · intro standard
        exact absurd standard notStandard
  | merchantInserted => exact kept
  | merchantJoined minted standard joined =>
      exact kept.found (keeps standard).2 minted standard joined
  | @merchantCreated claims _ _ tokens minted standard joined own =>
      rcases keeps standard with ⟨admin, admins⟩
      have isMember := (Table.mem_insert joined _).mpr (.inr rfl)
      have moved := (kept.found admins minted standard joined).move fun user isUser same => by
        rw [admins user isUser same]
        exact isMember
      apply moved.mint_same own
      · intro _
        apply moved.sessions claims minted
        rw [standard]
        exact nofun
      · intro _
        rw [admin]
        exact .inr isMember
  | @invited claims request user _ session isUser emailed joined =>
      apply kept.join isUser rfl joined
      intro other isOther same homeless
      have sameUser : other = user := Table.eq_of_conflict isOther isUser (.inl same)
      rw [sameUser] at homeless ⊢
      by_cases noMerchant : claims.merchantId = ""
      · exact .inl noMerchant
      · exact .inr (keeps noMerchant user isUser emailed homeless).symm
  | welcomed session inserted joined =>
      exact kept.welcome inserted joined rfl rfl nofun
  | homeless inserted refused => exact kept.register inserted rfl

theorem RolesKept.occurs {occurrence : Occurrence}
    (kept : RolesKept state.users state.userMerchants state.minted)
    (keeps : KeepsRoles config state occurrence) (occurs : Occurs config state occurrence next) :
    RolesKept next.users next.userMerchants next.minted := by
  cases occurs with
  | request around request => exact kept.change keeps (change_handle config around state request)
  | background background =>
      rcases background.minted with ⟨tokens, minted, redirects⟩
      have same : RolesKept next.users next.userMerchants state.minted := by
        apply kept.of_same
        · intro account
          have mem := background.users.mem_iff (a := account)
          rw [List.mem_map, List.mem_map] at mem
          exact mem
        · exact fun row => background.userMerchants.mem_iff
      rw [minted]
      apply same.mint
      · intro token isToken notRedirect
        exact absurd (redirects token isToken) notRedirect
      · intro token isToken standard
        rw [redirects token isToken] at standard
        cases standard

end Steps

/-! ## Runs -/

/-- The steps of a run whose requests keep the roles of the users' rows. -/
abbrev RoleKeepingRun (config : AuthConfig) :
    AuthState → List Occurrence → AuthState → Prop :=
  Run fun state occurrence next =>
    Occurs config state occurrence next ∧ KeepsRoles config state occurrence

/-- A standard session is a membership or for no merchant; who is a member of a merchant
without being its administrator has no administrator's session there. -/
theorem sessions_hold_memberships {config : AuthConfig} {merchantAccounts : List MerchantAccount}
    {trace : List Occurrence} {final : AuthState}
    (run : RoleKeepingRun config (.initial merchantAccounts) trace final) :
    (∀ claims ∈ final.minted, claims.tokenType = .standard →
      claims.merchantId = "" ∨
        ⟨claims.userId, claims.merchantId, claims.role⟩ ∈ final.userMerchants) ∧
    ∀ row ∈ final.userMerchants, row.merchantId ≠ "" → row.role ≠ "admin" →
      ∀ claims ∈ final.minted, claims.tokenType = .standard → claims.userId = row.userId →
        claims.merchantId = row.merchantId → claims.role ≠ "admin" := by
  have kept : RolesKept final.users final.userMerchants final.minted := by
    apply run.invariant_of_allowed fun _ state =>
      RolesKept state.users state.userMerchants state.minted
    · exact ⟨nofun, nofun, nofun, nofun⟩
    · intro _ state occurrence next kept keeps occurs
      exact kept.occurs keeps occurs
  refine ⟨kept.held, ?_⟩
  intro row isRow someMerchant notAdmin claims isMinted standard sameUser sameMerchant admin
  rcases kept.held claims isMinted standard with noMerchant | isMember
  · exact someMerchant (sameMerchant.symm.trans noMerchant)
  · have same := Table.eq_of_conflict isMember isRow ⟨sameUser, sameMerchant⟩
    apply notAdmin
    rw [← same]
    exact admin

private def openConfig : AuthConfig :=
  ⟨"secret", false, false, [], 86400⟩

private def surroundings (userId jti : String) : Surroundings where
  now := 0
  fails _ := false
  userId := userId
  verificationToken := "token"
  merchantDigits := "8a41c09f2b7e"
  jti := jti
  passwordHash := some "hash"
  generatedPassword := "Gen3rated!pw"
  passwordMatches _ _ := some true
  cachedMerchant _ := false
  orgOf _ := none
  covers _ _ := false

private def oneShop : AuthState :=
  .initial [⟨some "shop", some "Shop"⟩]

private def aliceSession : JwtClaims :=
  standardClaims openConfig (surroundings "user_1" "jti_1") "user_1" "alice@shop.com" "shop" "admin"

private def aliceSignsUp : Surroundings × Request :=
  (surroundings "user_1" "jti_1",
    .signup ⟨none, "alice@shop.com", "StrongPass#123", some "shop"⟩)

private def bobSignsUp : Surroundings × Request :=
  (surroundings "user_2" "jti_2", .signup ⟨none, "bob@shop.com", "StrongPass#123", none⟩)

private def bobIsInvited : Surroundings × Request :=
  (surroundings "user_3" "jti_3", .inviteMember (some aliceSession) ⟨"bob@shop.com", none⟩)

private def bobLogsIn : Surroundings × Request :=
  (surroundings "user_4" "jti_4", .login ⟨"bob@shop.com", "StrongPass#123"⟩)

/-- Bob is invited before he has an account. -/
theorem sessions_hold_memberships_invited :
    ⟨"user_3", "shop", "member"⟩ ∈
        (handleAll openConfig oneShop [aliceSignsUp, bobIsInvited, bobLogsIn]).userMerchants ∧
      ∀ claims ∈ (handleAll openConfig oneShop [aliceSignsUp, bobIsInvited, bobLogsIn]).minted,
        claims.tokenType = .standard → claims.userId = "user_3" → claims.merchantId = "shop" →
          claims.role ≠ "admin" := by
  have keeps : AllowedActions (fun state entry => handle openConfig entry.1 state entry.2)
      (fun state entry => KeepsRoles openConfig state (.request entry.1 entry.2)) oneShop
      [aliceSignsUp, bobIsInvited, bobLogsIn] := by
    refine ⟨nofun, ?_, trivial, trivial⟩
    intro _ user isUser emailed _
    have users : (handle openConfig aliceSignsUp.1 oneShop aliceSignsUp.2).users.rows =
        [⟨"user_1", "alice@shop.com", "hash", some "shop", "admin", true, true⟩] :=
      rfl
    rw [Table.mem_def, users, List.mem_singleton] at isUser
    rw [isUser] at emailed
    exact absurd emailed (by decide)
  have isRow : ⟨"user_3", "shop", "member"⟩ ∈
      (handleAll openConfig oneShop [aliceSignsUp, bobIsInvited, bobLogsIn]).userMerchants := by
    rw [Table.mem_def]
    decide
  have run := run_handleAll (KeepsRoles openConfig) keeps
  exact ⟨isRow, (sessions_hold_memberships run).2 _ isRow (by decide) (by decide)⟩

/-- Bob signs up, is invited as a member, and logs in as an administrator. -/
theorem sessions_hold_memberships_counterexample :
    ∃ trace final, Run (Occurs openConfig) oneShop trace final ∧
      ∃ claims ∈ final.minted, claims.tokenType = .standard ∧ claims.userId = "user_2" ∧
        claims.merchantId = "shop" ∧ claims.role = "admin" ∧
        ⟨"user_2", "shop", "member"⟩ ∈ final.userMerchants ∧
        ⟨"user_2", "shop", "admin"⟩ ∉ final.userMerchants := by
  have run := run_requests openConfig oneShop [aliceSignsUp, bobSignsUp, bobIsInvited, bobLogsIn]
  have minted : standardClaims openConfig (surroundings "user_4" "jti_4") "user_2" "bob@shop.com"
      "shop" "admin" ∈ (handleAll openConfig oneShop
        [aliceSignsUp, bobSignsUp, bobIsInvited, bobLogsIn]).minted := by
    decide
  refine ⟨_, _, run, _, minted, rfl, rfl, rfl, rfl, ?_, ?_⟩
  · rw [Table.mem_def]
    decide
  · rw [Table.mem_def]
    decide

end DecisionEngine.Auth
