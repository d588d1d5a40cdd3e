import DecisionEngine.Auth.TokenRequests
import Mathlib.Algebra.GroupWithZero.Nat

/-!
# Tokens and codes that are used once

Any number of requests interleave between their calls.  In every run, whichever calls fail and
whichever keys expire, a key of a token is removed at most as often as it has been set, and a
user that a signup has inserted stays until the signup deletes it.

So a reset token and a handoff code are redeemed at most once, and an email has at most one user.
-/

namespace DecisionEngine.Auth.SingleUse

open Database Transition

/-! ## A token is stored once -/

/-- A call that may create a key. -/
def issues (key : String) : StoreCall → Bool
  | .setKeyIfNotExists other _ _ => other = key
  | .setKeyWithTtl other _ _ => other = key
  | _ => false

/-- The key of a reset token or of a handoff code. -/
def IsTokenKey (key : String) : Prop :=
  (∃ token, key = passwordResetPrefix ++ token) ∨ ∃ code, key = hsSsoCodePrefix ++ code

variable {key : String}

theorem IsTokenKey.ne_pendingSignup (isToken : IsTokenKey key) (email : String) :
    pendingSignupPrefix ++ email ≠ key := by
  intro same
  have sameChars := congrArg String.toList same
  rcases isToken with ⟨token, rfl⟩ | ⟨code, rfl⟩
  · simp [pendingSignupPrefix, passwordResetPrefix] at sameChars
  · simp [pendingSignupPrefix, hsSsoCodePrefix] at sameChars

theorem IsTokenKey.ne_emailVerification (isToken : IsTokenKey key) (token : String) :
    emailVerificationPrefix ++ token ≠ key := by
  intro same
  have sameChars := congrArg String.toList same
  rcases isToken with ⟨token, rfl⟩ | ⟨code, rfl⟩
  · simp [emailVerificationPrefix, passwordResetPrefix] at sameChars
  · simp [emailVerificationPrefix, hsSsoCodePrefix] at sameChars

variable {call : StoreCall}

/-- The key of a token is only created by the request that has drawn the token. -/
theorem tokenKey_of_issues {request : TokenRequest} (isToken : IsTokenKey key)
    (allows : request.Allows call) (isIssue : issues key call = true) :
    request.tokenKey = some key := by
  cases call with
  | setKeyIfNotExists other _ _ =>
      have same : other = key := of_decide_eq_true isIssue
      rcases allows with ⟨email, rfl⟩
      exact absurd same (isToken.ne_pendingSignup email)
  | setKeyWithTtl other _ _ =>
      have same : other = key := of_decide_eq_true isIssue
      rcases allows with own | ⟨token, rfl⟩
      · rw [own, same]
      · exact absurd same (isToken.ne_emailVerification token)
  | _ => cases isIssue

section Issues

open Handling

variable {config : TokenConfig} {key : String}

theorem issuesOnce_forgotPassword {token email : String} :
    (forgotPassword config token email).MakesAtMost (issues key) 1 := by
  have none_of_pure {response : Response} :
      (pure response : Handler Response).MakesAtMost (issues key) 1 :=
    makes_pure.makesAtMost.mono (Nat.zero_le 1)
  rw [forgotPassword]
  split
  · apply Makes.bind_atMost
    · exact makes_ask Bool.false_ne_true
    · intro users
      split
      · exact none_of_pure
      · split
        · apply makesAtMost_ask.bind_makes
          intro _
          apply Makes.bind
          · apply Makes.onError
            · exact makes_ask Bool.false_ne_true
            · exact makes_attempt Bool.false_ne_true
          · exact fun _ => makes_pure
        · exact none_of_pure
  · exact none_of_pure

theorem issuesOnce_adminMerchantToken {around : Surroundings} {code : String}
    {request : AdminMerchantTokenRequest} :
    (adminMerchantToken config around code request).MakesAtMost (issues key) 1 := by
  rw [adminMerchantToken]
  apply Makes.bind_atMost makes_require
  intro _
  apply Makes.bind_atMost (makes_loadMerchant fun _ => Bool.false_ne_true)
  intro _
  apply Makes.bind_atMost makes_grant
  intro grant
  exact makesAtMost_ask.bind_makes fun _ => makes_pure

/-- A request creates the key of a token at most once. -/
theorem issuesOnce_handler (isToken : IsTokenKey key) (request : TokenRequest) :
    (request.handler config).MakesAtMost (issues key) 1 := by
  by_cases own : request.tokenKey = some key
  · cases request with
    | forgotPassword token email => exact issuesOnce_forgotPassword
    | adminMerchantToken around code request => exact issuesOnce_adminMerchantToken
    | _ => cases own
  · have issuesNone : (request.handler config).Makes fun call => ¬issues key call = true :=
      (makes_handler request).mono fun call allows isIssue =>
        own (tokenKey_of_issues isToken allows isIssue)
    exact issuesNone.makesAtMost.mono (Nat.zero_le 1)

end Issues

/-! ## A token is taken once -/

/-- The call has found a key and deleted it. -/
def removes (key : String) : (call : StoreCall) → Option call.Value → Bool
  | .getAndDeleteKey other, reply => reply.join.isSome && other = key
  | .deleteKey other, reply => reply.getD false && other = key
  | _, _ => false

/-- One if the key is there. -/
def Stores.holds (stores : Stores) (key : String) : ℕ :=
  if (stores.redis key).isSome then 1 else 0

variable {stores : Stores}

theorem holds_put {other : String} {value : Stored} :
    (stores.put other value).holds key = if other = key then 1 else stores.holds key := by
  by_cases same : other = key
  · subst same
    simp [Stores.holds, Stores.put]
  · simp [Stores.holds, Stores.put, same, Ne.symm same]

theorem holds_delete {other : String} :
    (stores.delete other).holds key = if other = key then 0 else stores.holds key := by
  by_cases same : other = key
  · subst same
    simp [Stores.holds, Stores.delete]
  · simp [Stores.holds, Stores.delete, same, Ne.symm same]

theorem holds_expire_le {keys : List String} :
    (stores.expire keys).holds key ≤ stores.holds key := by
  by_cases isExpired : key ∈ keys <;> simp [Stores.holds, Stores.expire, isExpired]

/-- A key is removed only when it was there, and is there only when it was or is set. -/
theorem removes_add_holds_le (key : String) (call : StoreCall) (stores : Stores) :
    (if removes key call (answer call stores).1 then 1 else 0) +
        (answer call stores).2.holds key ≤
      (if issues key call then 1 else 0) + stores.holds key := by
  cases call with
  | insertUser user =>
      rw [answer]
      split <;> exact Nat.le_refl _
  | insertUserMerchant membership =>
      rw [answer]
      split <;> exact Nat.le_refl _
  | setKeyIfNotExists other value ttl =>
      by_cases taken : (stores.redis other).isSome = true
      · simp [answer, removes, taken]
      · have free : (stores.redis other).isSome = false := Bool.eq_false_iff.mpr taken
        rw [answer, free]
        by_cases same : other = key <;> simp [removes, issues, holds_put, same]
  | setKeyWithTtl other value ttl =>
      by_cases same : other = key <;> simp [answer, removes, issues, holds_put, same]
  | getAndDeleteKey other =>
      simp only [answer, removes, issues, holds_delete, Option.join_some]
      by_cases same : other = key
      · subst same
        simp [Stores.holds]
      · simp [same]
  | deleteKey other =>
      simp only [answer, removes, issues, holds_delete, Option.getD_some]
      by_cases same : other = key
      · subst same
        simp [Stores.holds]
      · simp [same]
  | _ => exact Nat.le_refl _

/-- A call that fails has removed no key. -/
theorem removes_none (key : String) (call : StoreCall) : removes key call none = false := by
  cases call <;> rfl

theorem removes_add_holds_le_of_perform {key : String} {circumstances : Circumstances}
    {call : StoreCall} {stores next : Stores} {reply : Option call.Value}
    (performed : perform circumstances call stores = (reply, next)) :
    (if removes key call reply then 1 else 0) + next.holds key ≤
      (if issues key call then 1 else 0) + stores.holds key := by
  have answered := removes_add_holds_le key call (stores.expire circumstances.expired)
  have expired : (stores.expire circumstances.expired).holds key ≤ stores.holds key :=
    holds_expire_le
  rcases perform_cases performed with isAnswer | ⟨rfl, isNext⟩
  · rw [isAnswer] at answered
    exact answered.trans (Nat.add_le_add_left expired _)
  · rw [removes_none, if_neg Bool.false_ne_true, Nat.zero_add]
    rcases isNext with rfl | rfl
    · exact expired.trans (Nat.le_add_left _ _)
    · exact ((Nat.le_add_left _ _).trans answered).trans (Nat.add_le_add_left expired _)

/-- Any number of requests, each at some point of its handler, over the stores. -/
abbrev Requests (ι : Type) :=
  Config Stores ι (Routine StoreCall (fun call => Option call.Value) (Except TokenError Response))

abbrev StoreLabel (ι : Type) :=
  ChoiceLabel ι Circumstances StoreEntry

/-- One call of one of the requests. -/
abbrev CallStep {ι : Type} [DecidableEq ι] :
    Requests ι → StoreLabel ι → Requests ι → Prop :=
  ChoiceMoves (Routine.process perform)

section Runs

variable {ι : Type} [DecidableEq ι] {source final : Requests ι} {trace : List (StoreLabel ι)}

/-- A key is removed at most as often as it is set, and once more if it was there. -/
theorem countP_removes_le (run : Run CallStep source trace final) (key : String) :
    trace.countP (fun label => removes key label.event.1 label.event.2) +
        final.shared.holds key ≤
      trace.countP (fun label => issues key label.event.1) + source.shared.holds key := by
  induction run with
  | refl => exact Nat.le_refl _
  | @snoc trace middle target label run last ih =>
      have performed := @removes_add_holds_le_of_perform key _ _ _ _ _ (changes_of_moves last)
      rw [List.countP_append, List.countP_append, List.countP_singleton, List.countP_singleton]
      omega

end Runs

/-! ## A row stays until it is deleted -/

theorem exists_user_of_answer {row : User} (isRow : row ∈ stores.users)
    (notDeleted : call ≠ .deleteUser row.userId) :
    ∃ kept ∈ (answer call stores).2.users, kept.userId = row.userId ∧ kept.email = row.email := by
  cases call with
  | insertUser user =>
      rw [answer]
      cases inserted : stores.users.insert user with
      | none => exact ⟨row, isRow, rfl, rfl⟩
      | some users => exact ⟨row, (Table.mem_insert inserted row).mpr (.inl isRow), rfl, rfl⟩
  | insertUserMerchant membership =>
      rw [answer]
      split <;> exact ⟨row, isRow, rfl, rfl⟩
  | deleteUser userId =>
      have other : decide (row.userId = userId) = false :=
        decide_eq_false fun same => notDeleted (by rw [same])
      exact ⟨row, Table.mem_remove.mpr ⟨isRow, other⟩, rfl, rfl⟩
  | updatePassword userId passwordHash =>
      have isKept := (Table.mem_update (keeps_withPassword userId passwordHash)).mpr
        ⟨row, isRow, rfl⟩
      exact ⟨_, isKept, by split <;> rfl, by split <;> rfl⟩
  | setEmailVerified userId =>
      have isKept := (Table.mem_update (keeps_verified userId)).mpr ⟨row, isRow, rfl⟩
      exact ⟨_, isKept, by split <;> rfl, by split <;> rfl⟩
  | setKeyIfNotExists key value ttl =>
      rw [answer]
      split <;> exact ⟨row, isRow, rfl, rfl⟩
  | _ => exact ⟨row, isRow, rfl, rfl⟩

variable {circumstances : Circumstances}

theorem exists_user_of_perform {next : Stores} {reply : Option call.Value} {row : User}
    (isRow : row ∈ stores.users) (performed : perform circumstances call stores = (reply, next))
    (notDeleted : call ≠ .deleteUser row.userId) :
    ∃ kept ∈ next.users, kept.userId = row.userId ∧ kept.email = row.email := by
  have expired : row ∈ (stores.expire circumstances.expired).users := isRow
  rcases perform_cases performed with isAnswer | ⟨_, rfl | rfl⟩
  · have kept := exists_user_of_answer expired notDeleted
    rwa [isAnswer] at kept
  · exact ⟨row, isRow, rfl, rfl⟩
  · exact exists_user_of_answer expired notDeleted

theorem mem_of_inserted {user : User} {next : Stores}
    (performed : perform circumstances (.insertUser user) stores = (some (), next)) :
    user ∈ next.users := by
  rcases perform_cases performed with isAnswer | ⟨noReply, _⟩
  · rw [answer] at isAnswer
    split at isAnswer
    · cases (Prod.mk.inj isAnswer).1
    · rename_i users inserted
      rw [← (Prod.mk.inj isAnswer).2]
      exact (Table.mem_insert inserted user).mpr (.inr rfl)
  · cases noReply

section Runs

variable {ι : Type} [DecidableEq ι] {source final : Requests ι} {trace : List (StoreLabel ι)}

/-- A user that has been inserted, and whose id has not been deleted, is there. -/
theorem exists_user_of_run (run : Run CallStep source trace final) {user : User}
    (inserted : ∃ label ∈ trace, label.event = ⟨.insertUser user, some ()⟩)
    (notDeleted : ∀ label ∈ trace, label.event.1 ≠ .deleteUser user.userId) :
    ∃ row ∈ final.shared.users, row.userId = user.userId ∧ row.email = user.email := by
  induction run with
  | refl =>
      rcases inserted with ⟨_, isLabel, _⟩
      exact nomatch isLabel
  | @snoc trace middle target label run last ih =>
      have performed := changes_of_moves last
      have lastKept : label.event.1 ≠ .deleteUser user.userId :=
        notDeleted label (List.mem_append_right _ (List.mem_singleton_self _))
      by_cases isLast : label.event = ⟨.insertUser user, some ()⟩
      · rw [isLast] at performed
        exact ⟨user, mem_of_inserted performed, rfl, rfl⟩
      · rcases inserted with ⟨other, isOther, isInsertion⟩
        have before : other ∈ trace := by
          rcases List.mem_append.mp isOther with before | isLabel
          · exact before
          · rw [List.mem_singleton.mp isLabel] at isInsertion
            exact absurd isInsertion isLast
        rcases ih ⟨other, before, isInsertion⟩ fun label isLabel =>
          notDeleted label (List.mem_append_left _ isLabel) with ⟨row, isRow, sameId, sameEmail⟩
        rcases exists_user_of_perform isRow performed (by rwa [sameId]) with
          ⟨kept, isKept, keptId, keptEmail⟩
        exact ⟨kept, isKept, keptId.trans sameId, keptEmail.trans sameEmail⟩

end Runs

/-! ## Tokens are used once and accounts are unique -/

section SingleUse

variable {ι : Type} [DecidableEq ι]

/-- No two requests draw one token, one code or one user id, and a drawn token or code is not
yet in Redis. -/
structure Fresh (requests : ι → TokenRequest) (stores : Stores) : Prop where
  tokenKeys : ∀ first second key, (requests first).tokenKey = some key →
    (requests second).tokenKey = some key → first = second
  unused : ∀ index key, (requests index).tokenKey = some key → stores.redis key = none
  userIds : ∀ first second userId firstEmail secondEmail,
    (requests first).account = some (userId, firstEmail) →
      (requests second).account = some (userId, secondEmail) → first = second

/-- No request has made a call yet. -/
def begin (config : TokenConfig) (requests : ι → TokenRequest) (stores : Stores) : Requests ι :=
  ⟨stores, fun index => ((requests index).handler config).routine⟩

/-- A request has been answered, and not with an error. -/
def Succeeded (final : Requests ι) (index : ι) : Prop :=
  ∃ response, final.locals index = .done (.ok response)

variable {config : TokenConfig} {requests : ι → TokenRequest} {stores : Stores}
  {final : Requests ι} {trace : List (StoreLabel ι)}

/-- Every call of a run is one that its request may make. -/
theorem allows_of_run (run : Run CallStep (begin config requests stores) trace final) :
    ∀ label ∈ trace, (requests label.index).Allows label.event.1 := by
  intro label isLabel
  exact Routine.Makes.allowed (makes_handler (requests label.index))
    (follows_callsOf run label.index) label.event (mem_callsOf.mpr ⟨label, isLabel, rfl, rfl⟩)

section FromFresh

variable (fresh : Fresh requests stores)
  (run : Run CallStep (begin config requests stores) trace final)

include fresh run

/-- The key of a token is set at most once, and not at all if it was there. -/
theorem countP_issues_le {key : String} (isToken : IsTokenKey key) :
    trace.countP (fun label => issues key label.event.1) + stores.holds key ≤ 1 := by
  have own : ∀ label ∈ trace, issues key label.event.1 = true →
      (requests label.index).tokenKey = some key :=
    fun label isLabel => tokenKey_of_issues isToken (allows_of_run run label isLabel)
  by_cases isDrawn : ∃ index, (requests index).tokenKey = some key
  · rcases isDrawn with ⟨index, isDrawn⟩
    have only : ∀ label ∈ trace, issues key label.event.1 = true → label.index = index :=
      fun label isLabel isIssue => fresh.tokenKeys _ _ key (own label isLabel isIssue) isDrawn
    have counted : trace.countP (fun label => issues key label.event.1) =
        (callsOf index trace).countP fun entry => issues key entry.1 :=
      countP_eq_of_only (fun entry => issues key entry.1) only
    have once := Routine.MakesAtMost.countP_le (issuesOnce_handler isToken (requests index))
      (follows_callsOf run index)
    have isFree : stores.holds key = 0 := by
      rw [Stores.holds, fresh.unused index key isDrawn]
      rfl
    rw [counted, isFree]
    exact once
  · have none_issued : trace.countP (fun label => issues key label.event.1) = 0 :=
      List.countP_eq_zero.mpr fun label isLabel isIssue =>
        isDrawn ⟨label.index, own label isLabel isIssue⟩
    rw [none_issued, Nat.zero_add, Stores.holds]
    split <;> decide

/-- Only one request removes the key of a token. -/
theorem eq_of_removes {key : String} (isToken : IsTokenKey key) {first second : ι}
    {entry other : StoreEntry} (isEntry : entry ∈ callsOf first trace)
    (isRemoved : removes key entry.1 entry.2 = true) (isOther : other ∈ callsOf second trace)
    (otherRemoved : removes key other.1 other.2 = true) : first = second := by
  by_contra differ
  have twice : 2 ≤ trace.countP fun label => removes key label.event.1 label.event.2 :=
    two_le_countP (fun entry => removes key entry.1 entry.2) differ isEntry isRemoved isOther
      otherRemoved
  have removed := countP_removes_le run key
  have issued := countP_issues_le fresh run isToken
  have sameStores : (begin config requests stores).shared = stores := rfl
  rw [sameStores] at removed
  omega

/-- Of the requests that present one token at most one succeeds. -/
def RedeemedOnce (requests : ι → TokenRequest) (final : Requests ι)
    (presents : TokenRequest → Option String) : Prop :=
  ∀ first second token, presents (requests first) = some token →
    presents (requests second) = some token → Succeeded final first →
      Succeeded final second → first = second

/-- A request has inserted a user and has not deleted it again. -/
def Created (trace : List (StoreLabel ι)) (index : ι) : Prop :=
  ∃ user, Registers user (callsOf index trace)

/-- Tokens and codes are used once, and there is one user of an email: a further one is created
only after the signup that created the first has deleted it. -/
structure UsedOnce (requests : ι → TokenRequest) (trace : List (StoreLabel ι))
    (final : Requests ι) : Prop where
  resetTokens : RedeemedOnce requests final TokenRequest.resetToken
  handoffCodes : RedeemedOnce requests final TokenRequest.handoffCode
  oneRow : ∀ email, (final.shared.users.rows.filter fun user => user.email = email).length ≤ 1
  oneCreated : ∀ first second email, (requests first).signupEmail = some email →
    (requests second).signupEmail = some email → Created trace first →
      Created trace second → first = second
  created : ∀ index email, (requests index).signupEmail = some email →
    Succeeded final index → Created trace index

/-- A token is redeemed once when every request that presents it and succeeds removes its key. -/
theorem redeemedOnce_of_taken {presents : TokenRequest → Option String} {key : String → String}
    (isKey : ∀ token, IsTokenKey (key token))
    (taken : ∀ (request : TokenRequest) token calls response, presents request = some token →
      Routine.Follows (request.handler config).routine calls (.done (.ok response)) →
        ∃ entry ∈ calls, removes (key token) entry.1 entry.2 = true) :
    RedeemedOnce requests final presents := by
  have takes (index : ι) (token : String) (isToken : presents (requests index) = some token)
      (succeeded : Succeeded final index) :
      ∃ entry ∈ callsOf index trace, removes (key token) entry.1 entry.2 = true := by
    rcases succeeded with ⟨response, isDone⟩
    have follows := follows_callsOf run index
    rw [isDone] at follows
    exact taken _ token _ response isToken follows
  intro first second token isFirst isSecond firstSucceeded secondSucceeded
  rcases takes first token isFirst firstSucceeded with ⟨entry, isEntry, isRemoved⟩
  rcases takes second token isSecond secondSucceeded with ⟨other, isOther, otherRemoved⟩
  exact eq_of_removes fresh run (isKey token) isEntry isRemoved isOther otherRemoved

theorem resetTokens_redeemedOnce :
    RedeemedOnce requests final TokenRequest.resetToken := by
  apply redeemedOnce_of_taken fresh run fun token => .inl ⟨token, rfl⟩
  intro request token calls response presents follows
  cases request with
  | resetPassword passwordHash request =>
      cases presents
      rcases succeeds_resetPassword.of_done follows with ⟨stored, isTaken⟩
      exact ⟨_, isTaken, by simp [removes]⟩
  | _ => cases presents

theorem handoffCodes_redeemedOnce :
    RedeemedOnce requests final TokenRequest.handoffCode := by
  apply redeemedOnce_of_taken fresh run fun code => .inr ⟨code, rfl⟩
  intro request code calls response presents follows
  cases request with
  | exchangeMerchantToken around presented =>
      cases presents
      exact ⟨_, succeeds_exchangeMerchantToken.of_done follows, by simp [removes]⟩
  | _ => cases presents

/-- The user of a signup that has not deleted it is there. -/
theorem exists_row_of_created {index : ι} {email : String}
    (isSignup : (requests index).signupEmail = some email) (isCreated : Created trace index) :
    ∃ row ∈ final.shared.users, row.email = email ∧
      (requests index).account = some (row.userId, email) := by
  rcases isCreated with ⟨user, inserted, noneDeleted⟩
  have allows := allows_of_run run
  rcases mem_callsOf.mp inserted with ⟨label, isLabel, ofIndex, isInsertion⟩
  have isAccount : (requests index).account = some (user.userId, user.email) := by
    have allowed := allows label isLabel
    rwa [isInsertion, ofIndex] at allowed
  have sameEmail : user.email = email := by
    rw [TokenRequest.signupEmail, isAccount] at isSignup
    exact Option.some.inj isSignup
  have notDeleted : ∀ label ∈ trace, label.event.1 ≠ .deleteUser user.userId := by
    intro other isOther isDeletion
    have allowed := allows other isOther
    rw [isDeletion] at allowed
    rcases allowed with ⟨otherEmail, otherAccount⟩
    have sameIndex := fresh.userIds _ _ _ _ _ otherAccount isAccount
    exact noneDeleted other.event (mem_callsOf.mpr ⟨other, isOther, sameIndex, rfl⟩) _ isDeletion
  rcases exists_user_of_run run ⟨label, isLabel, isInsertion⟩ notDeleted with
    ⟨row, isRow, sameId, rowEmail⟩
  refine ⟨row, isRow, rowEmail.trans sameEmail, ?_⟩
  rw [isAccount, sameId, sameEmail]

end FromFresh

/-- In every interleaving of any requests, whichever calls fail and whichever keys expire. -/
theorem usedOnce (fresh : Fresh requests stores)
    (run : Run CallStep (begin config requests stores) trace final) :
    UsedOnce requests trace final where
  resetTokens := resetTokens_redeemedOnce fresh run
  handoffCodes := handoffCodes_redeemedOnce fresh run
  oneRow email := by
    apply final.shared.users.length_filter_le_one
    intro first second isFirst isSecond
    exact .inr ((of_decide_eq_true isFirst).trans (of_decide_eq_true isSecond).symm)
  oneCreated first second email isFirst isSecond firstCreated secondCreated := by
    rcases exists_row_of_created fresh run isFirst firstCreated with
      ⟨row, isRow, rowEmail, firstAccount⟩
    rcases exists_row_of_created fresh run isSecond secondCreated with
      ⟨other, isOther, otherEmail, secondAccount⟩
    have sameRow : row = other :=
      Table.eq_of_conflict isRow isOther (.inr (rowEmail.trans otherEmail.symm))
    rw [← sameRow] at secondAccount
    exact fresh.userIds _ _ _ _ _ firstAccount secondAccount
  created index email isSignup succeeded := by
    rcases succeeded with ⟨response, isDone⟩
    have follows := follows_callsOf run index
    rw [isDone] at follows
    change Routine.Follows ((requests index).handler config).routine _ _ at follows
    cases isRequest : requests index with
    | signup around request =>
        rw [isRequest] at follows
        rcases succeeds_signup.of_done follows with ⟨user, _, _, registers⟩
        exact ⟨user, registers⟩
    | _ =>
        rw [isRequest] at isSignup
        cases isSignup

end SingleUse

/-! ## Two resets with one token -/

local instance threeTokenRequests : NeZero (3 : ℕ) :=
  ⟨by decide⟩

/-- A user asks for a token, with which two resets come in. -/
def resetRequests : Fin 3 → TokenRequest
  | 0 => .forgotPassword "t" "ann"
  | _ => .resetPassword (some "new") ⟨"t", "StrongPass#123"⟩

def resetStores : Stores where
  users := ⟨[⟨"u", "ann", "old", none, "admin", true, true⟩], List.pairwise_singleton _ _⟩
  userMerchants := .empty
  merchantAccounts := []
  redis _ := none

def resetConfig : TokenConfig :=
  ⟨⟨"secret", false, true, [], 86400⟩, true, 900⟩

/-- The second reset comes between the two calls of the first. -/
def resetSchedule : List (Fin 3 × Circumstances) :=
  [0, 0, 0, 1, 2, 1].map fun index => (index, ⟨[], none⟩)

theorem eq_zero_of_tokenKey {key : String} :
    ∀ index, (resetRequests index).tokenKey = some key → index = 0
  | 0, _ => rfl
  | 1, isKey => nomatch isKey
  | 2, isKey => nomatch isKey

theorem account_resetRequests : ∀ index, (resetRequests index).account = none
  | 0 => rfl
  | 1 => rfl
  | 2 => rfl

theorem fresh_resetRequests : Fresh resetRequests resetStores where
  tokenKeys first second _ isFirst isSecond :=
    (eq_zero_of_tokenKey first isFirst).trans (eq_zero_of_tokenKey second isSecond).symm
  unused _ _ _ := rfl
  userIds first _ _ _ _ isFirst _ := by
    rw [account_resetRequests] at isFirst
    cases isFirst

/-- The first reset succeeds, and no other does. -/
theorem usedOnce_resets : ∃ trace final,
    Run CallStep (begin resetConfig resetRequests resetStores) trace final ∧
      Succeeded final 1 ∧ ∀ other, (resetRequests other).resetToken = some "t" →
        Succeeded final other → other = 1 := by
  have run := run_choices (Routine.process perform)
    (begin resetConfig resetRequests resetStores) resetSchedule
  have succeeded : Succeeded (runChoices (Routine.process perform)
      (begin resetConfig resetRequests resetStores) resetSchedule) 1 :=
    ⟨.message, rfl⟩
  refine ⟨_, _, run, succeeded, fun other presents otherSucceeded => ?_⟩
  exact (usedOnce fresh_resetRequests run).resetTokens other 1 "t" presents rfl otherSucceeded
    succeeded

end DecisionEngine.Auth.SingleUse
