import DecisionEngine.Auth.SessionRoles

/-!
# How users become members

A membership is inserted by an invitation, by the creation of a merchant and by a signup
that names a merchant.  A signup without the administrator's secret is let in only where the
configuration does not ask for the secret.
-/

namespace DecisionEngine.Auth

open Database Transition

/-- No signup presents the secret, and the number of a new merchant is of no merchant yet. -/
def WithoutSecret (config : AuthConfig) (state : AuthState) : Occurrence → Prop
  | .request _ (.signup request) => request.providedAdminSecret ≠ config.adminSecret
  | .request around (.createMerchant _ _) => ∀ account ∈ state.merchantAccounts,
      account.merchantId ≠ some ("merchant_" ++ around.merchantDigits)
  | _ => True

/-- A request that makes a user a member of a merchant. -/
inductive Admission (config : AuthConfig) (state next : AuthState) (row : UserMerchant) :
    Request → Prop
  | invited {claims : JwtClaims} {request : InviteMemberRequest}
      (session : AdminSession state claims) (ofMerchant : claims.merchantId = row.merchantId) :
      Admission config state next row (.inviteMember (some claims) request)
  | created {bearer : Option JwtClaims} {merchantName : String}
      (isNew : ∀ account ∈ state.merchantAccounts, account.merchantId ≠ some row.merchantId)
      (inserted : ∃ account ∈ next.merchantAccounts, account.merchantId = some row.merchantId) :
      Admission config state next row (.createMerchant bearer merchantName)
  | signedUp {request : SignupRequest} (notAsked : config.signupRequiresAdminSecret = false)
      (named : request.requestedMerchantId = some row.merchantId) :
      Admission config state next row (.signup request)

section Steps

variable {config : AuthConfig} {around : Surroundings} {state next : AuthState}
  {row : UserMerchant}

/-- A membership that a request has inserted is an admission. -/
theorem admission_of_change {request : Request}
    (without : WithoutSecret config state (.request around request))
    (change : Change config around state request next) (isRow : row ∈ next.userMerchants)
    (notRow : row ∉ state.userMerchants) : Admission config state next row request := by
  have isNew {membership : UserMerchant} {rows : Table UserMerchant SameMembership}
      (joined : state.userMerchants.insert membership = some rows) (isRow : row ∈ rows) :
      row = membership :=
    ((Table.mem_insert joined row).mp isRow).resolve_left notRow
  cases change with
  | kept => exact absurd isRow notRow
  | registered => exact absurd isRow notRow
  | attached admitted named inserted joined own =>
      cases isNew joined isRow
      exact .signedUp (admitted.resolve_right without) named
  | stranded => exact absurd isRow notRow
  | cleaned => exact absurd isRow notRow
  | started => exact absurd isRow notRow
  | switched => exact absurd isRow notRow
  | viewed => exact absurd isRow notRow
  | merchantInserted => exact absurd isRow notRow
  | merchantJoined minted standard joined =>
      cases isNew joined isRow
      exact .created without ⟨_, List.mem_append_right _ (List.mem_singleton_self _), rfl⟩
  | merchantCreated minted standard joined own =>
      cases isNew joined isRow
      exact .created without ⟨_, List.mem_append_right _ (List.mem_singleton_self _), rfl⟩
  | invited session isUser emailed joined =>
      cases isNew joined isRow
      exact .invited session rfl
  | welcomed session inserted joined =>
      cases isNew joined isRow
      exact .invited session rfl
  | homeless => exact absurd isRow notRow

/-- What happens between requests makes nobody a member. -/
theorem admission_of_occurs {occurrence : Occurrence}
    (without : WithoutSecret config state occurrence)
    (occurs : Occurs config state occurrence next) (isRow : row ∈ next.userMerchants)
    (notRow : row ∉ state.userMerchants) :
    ∃ around request, occurrence = .request around request ∧
      Admission config state next row request := by
  cases occurs with
  | request around request =>
      exact ⟨around, request, rfl,
        admission_of_change without (change_handle config around state request) isRow notRow⟩
  | background background =>
      exact absurd (background.userMerchants.mem_iff.mp isRow) notRow

end Steps

/-- The steps of a run whose signups do not present the secret. -/
abbrev RunWithoutSecret (config : AuthConfig) :
    AuthState → List Occurrence → AuthState → Prop :=
  Run fun state occurrence next =>
    Occurs config state occurrence next ∧ WithoutSecret config state occurrence

/-- Every membership goes back to a request of the run: an invitation with a session of an
administrator of the merchant, the creation of the merchant, or a signup that names the
merchant where the secret is not asked for. -/
theorem membership_admitted {config : AuthConfig} {merchantAccounts : List MerchantAccount}
    {trace : List Occurrence} {final : AuthState}
    (run : RunWithoutSecret config (.initial merchantAccounts) trace final) :
    ∀ row ∈ final.userMerchants, ∃ before around request after state next,
      trace = before ++ .request around request :: after ∧
      RunWithoutSecret config (.initial merchantAccounts) before state ∧
      next = handle config around state request ∧
      row ∉ state.userMerchants ∧ row ∈ next.userMerchants ∧
      Admission config state next row request := by
  induction run with
  | refl => exact nofun
  | @snoc trace state next occurrence run last ih =>
      intro row isRow
      by_cases isOld : row ∈ state.userMerchants
      · rcases ih row isOld with ⟨before, around, request, after, state, next, rfl, admission⟩
        refine ⟨before, around, request, after ++ [occurrence], state, next, ?_, admission⟩
        rw [List.append_assoc]
        rfl
      · rcases admission_of_occurs last.2 last.1 isRow isOld with
          ⟨around, request, rfl, admission⟩
        cases last.1
        exact ⟨trace, around, request, [], state, _, rfl, run, rfl, isOld, isRow, admission⟩

/-- A configuration under which a signup is not asked for the secret. -/
private def laxConfig : AuthConfig :=
  ⟨"secret", false, false, [], 86400⟩

private def calm (userId : String) : Surroundings where
  now := 0
  fails _ := false
  userId := userId
  verificationToken := "token"
  merchantDigits := "8a41c09f2b7e"
  jti := "jti"
  passwordHash := some "hash"
  generatedPassword := "Gen3rated!pw"
  passwordMatches _ _ := some true
  cachedMerchant _ := false
  orgOf _ := none
  covers _ _ := false

private def someShop : AuthState :=
  .initial [⟨some "shop", some "Shop"⟩]

private def carolSignsUp : Surroundings × Request :=
  (calm "user_5", .signup ⟨none, "carol@mail.com", "StrongPass#123", some "shop"⟩)

private def carolInvites : Surroundings × Request :=
  (calm "user_6", .inviteMember
    (some (standardClaims laxConfig (calm "user_5") "user_5" "carol@mail.com" "shop" "admin"))
    ⟨"dave@mail.com", some "member"⟩)

private theorem carol_without_secret :
    WithoutSecret laxConfig someShop (.request carolSignsUp.1 carolSignsUp.2) := by
  change "" ≠ "secret"
  decide

/-- The membership of the member whom Carol invites goes back to a request. -/
theorem membership_admitted_invited :
    ∃ before around request after state next,
      [carolSignsUp, carolInvites].map (fun entry => Occurrence.request entry.1 entry.2) =
        before ++ .request around request :: after ∧
      RunWithoutSecret laxConfig someShop before state ∧
      next = handle laxConfig around state request ∧
      ⟨"user_6", "shop", "member"⟩ ∉ state.userMerchants ∧
      ⟨"user_6", "shop", "member"⟩ ∈ next.userMerchants ∧
      Admission laxConfig state next ⟨"user_6", "shop", "member"⟩ request := by
  have without : AllowedActions (fun state entry => handle laxConfig entry.1 state entry.2)
      (fun state entry => WithoutSecret laxConfig state (.request entry.1 entry.2)) someShop
      [carolSignsUp, carolInvites] :=
    ⟨carol_without_secret, trivial, trivial⟩
  have isRow : ⟨"user_6", "shop", "member"⟩ ∈
      (handleAll laxConfig someShop [carolSignsUp, carolInvites]).userMerchants := by
    rw [Table.mem_def]
    decide
  have run := run_handleAll (WithoutSecret laxConfig) without
  exact membership_admitted run _ isRow

/-- Carol names a merchant that exists, without the secret and without an invitation, and
becomes its administrator. -/
theorem membership_admitted_counterexample :
    ∃ trace final, RunWithoutSecret laxConfig someShop trace final ∧
      (∀ occurrence ∈ trace, ∀ around bearer request,
        occurrence ≠ .request around (.inviteMember bearer request)) ∧
      ⟨some "shop", some "Shop"⟩ ∈ someShop.merchantAccounts ∧
      ⟨"user_5", "shop", "admin"⟩ ∉ someShop.userMerchants ∧
      ⟨"user_5", "shop", "admin"⟩ ∈ final.userMerchants := by
  have without : AllowedActions (fun state entry => handle laxConfig entry.1 state entry.2)
      (fun state entry => WithoutSecret laxConfig state (.request entry.1 entry.2)) someShop
      [carolSignsUp] :=
    ⟨carol_without_secret, trivial⟩
  have run := run_handleAll (WithoutSecret laxConfig) without
  refine ⟨_, _, run, ?_, List.mem_singleton_self _, Table.not_mem_empty _, ?_⟩
  · intro occurrence isOccurrence around bearer request isInvitation
    rw [List.mem_singleton.mp isOccurrence] at isInvitation
    cases isInvitation
  · rw [Table.mem_def]
    decide

end DecisionEngine.Auth
