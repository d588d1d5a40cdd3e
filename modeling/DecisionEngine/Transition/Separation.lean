import DecisionEngine.Transition.Run

/-!
# Runs without the requests of others

A service answers requests one after the other.  A party sees the answers to its own
requests; which requests are its own may depend on the state at which they come.  The others
make no difference to the party when a run without their requests gives it the same answers
and leaves it the same part of the state.
-/

namespace DecisionEngine.Transition

universe u v w

variable {σ : Type u} {α : Type v} {β : Type w}

/-- The state after the requests. -/
def serveAll (serve : σ → α → β × σ) (state : σ) (requests : List α) : σ :=
  requests.foldl (fun state request => (serve state request).2) state

/-- The own requests, each with its answer. -/
def seen (serve : σ → α → β × σ) (mine : σ → α → Bool) : σ → List α → List (α × β)
  | _, [] => []
  | state, request :: rest =>
      if mine state request then
        (request, (serve state request).1) :: seen serve mine (serve state request).2 rest
      else seen serve mine (serve state request).2 rest

/-- The requests that are left when those of the others are removed. -/
def alone (serve : σ → α → β × σ) (mine : σ → α → Bool) : σ → List α → List α
  | _, [] => []
  | state, request :: rest =>
      if mine state request then request :: alone serve mine (serve state request).2 rest
      else alone serve mine (serve state request).2 rest

/-- Between two states that agree for a party: the requests of the others keep the agreement,
and an own request is an own one at both states, has the same answer and leads to states that
agree. -/
structure Separated (serve : σ → α → β × σ) (mine : σ → α → Bool) (allowed : σ → α → Prop)
    (agree : σ → σ → Prop) : Prop where
  others : ∀ {first second request}, agree first second → allowed first request →
    mine first request = false → agree (serve first request).2 second
  own : ∀ {first second request}, agree first second → allowed first request →
    mine first request = true →
      mine second request = true ∧ (serve first request).1 = (serve second request).1 ∧
        agree (serve first request).2 (serve second request).2

/-- The allowed requests of a run. -/
abbrev AllowedRequests (serve : σ → α → β × σ) (allowed : σ → α → Prop) (state : σ)
    (requests : List α) : Prop :=
  AllowedActions (fun state request => (serve state request).2) allowed state requests

section Runs

variable {serve : σ → α → β × σ} {mine : σ → α → Bool} {allowed : σ → α → Prop}
  {agree : σ → σ → Prop} {first second : σ} {requests : List α}

theorem mem_of_mem_seen {state : σ} {event : α × β}
    (listed : event ∈ seen serve mine state requests) : event.1 ∈ requests := by
  induction requests generalizing state with
  | nil => cases listed
  | cons request rest ih =>
      rw [seen] at listed
      split at listed
      · rcases List.mem_cons.mp listed with rfl | isLater
        · exact List.mem_cons_self
        · exact List.mem_cons_of_mem _ (ih isLater)
      · exact List.mem_cons_of_mem _ (ih listed)

/-- Without the requests of the others a run gives the same answers and ends in agreement. -/
theorem Separated.run (separated : Separated serve mine allowed agree)
    (start : agree first second) (allowedRun : AllowedRequests serve allowed first requests) :
    seen serve mine first requests =
        seen serve mine second (alone serve mine first requests) ∧
      agree (serveAll serve first requests)
        (serveAll serve second (alone serve mine first requests)) := by
  induction requests generalizing first second with
  | nil => exact ⟨rfl, start⟩
  | cons request rest ih =>
      rcases allowedRun with ⟨isAllowed, restAllowed⟩
      cases isMine : mine first request with
      | false =>
          rw [seen, alone, isMine, if_neg Bool.false_ne_true, if_neg Bool.false_ne_true]
          exact ih (separated.others start isAllowed isMine) restAllowed
      | true =>
          rcases separated.own start isAllowed isMine with ⟨stillMine, sameAnswer, agrees⟩
          rcases ih agrees restAllowed with ⟨sameSeen, restAgrees⟩
          rw [seen, alone, isMine, if_pos rfl, if_pos rfl, seen, stillMine, if_pos rfl, sameAnswer,
            sameSeen]
          exact ⟨rfl, restAgrees⟩

/-- Where the owner of a request does not depend on the state, a filter removes the others. -/
theorem alone_of_fixed {mine : α → Bool} (state : σ) :
    alone serve (fun _ => mine) state requests = requests.filter mine := by
  induction requests generalizing state with
  | nil => rfl
  | cons request rest ih =>
      rw [alone, List.filter_cons, ih]

/-- What an invariant and the condition of a request give holds of every request of a run. -/
theorem allowedRequests_of_invariant {property : σ → Prop} {other : σ → α → Prop} {state : σ}
    (keeps : ∀ state request, property state → allowed state request →
      property (serve state request).2)
    (gives : ∀ state request, property state → allowed state request → other state request)
    (initially : property state) (allowedRun : AllowedRequests serve allowed state requests) :
    AllowedRequests serve other state requests := by
  induction requests generalizing state with
  | nil => trivial
  | cons request rest ih =>
      rcases allowedRun with ⟨isAllowed, restAllowed⟩
      exact ⟨gives state request initially isAllowed,
        ih (keeps state request initially isAllowed) restAllowed⟩

theorem allowedRequests_imp {other : σ → α → Prop} {state : σ}
    (gives : ∀ state request, allowed state request → other state request)
    (allowedRun : AllowedRequests serve allowed state requests) :
    AllowedRequests serve other state requests :=
  allowedRequests_of_invariant (fun _ _ (_ : True) _ => trivial)
    (fun state request _ => gives state request) trivial allowedRun

end Runs

end DecisionEngine.Transition
