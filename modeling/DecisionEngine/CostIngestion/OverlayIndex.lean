import DecisionEngine.CostIngestion.Serving
import DecisionEngine.Transition.Interleaving

/-!
# The indices of the overlays

The merchants with overrides, and those with invoice add-ons, are listed in two global
indices.  Every request of a merchant reads the list and later writes it back changed, so
that a request of another merchant in between is lost.

The indices list exactly the merchants with entries when every write is made over a list
with the merchants that were read.
-/

namespace DecisionEngine.CostIngestion

open Text Transition

/-- The two global indices. -/
inductive OverlayKind where
  | override
  | addon
  deriving DecidableEq

/-- The configurations that the overlays are stored in. -/
structure OverlayStore where
  /-- The global list of each kind. -/
  merchants : OverlayKind → List String
  /-- The connectors of a merchant that have an override. -/
  connectors : String → List String
  clusters : String → List (ClusterDims × ServingCost)
  /-- The connectors of a merchant that have an add-on. -/
  addonConnectors : String → List String
  /-- The fees by the name of their configuration. -/
  fees : String → Option ServingCost

def OverlayStore.empty : OverlayStore :=
  ⟨fun _ => [], fun _ => [], fun _ => [], fun _ => [], fun _ => none⟩

def overrideName (merchantId connector : String) : String :=
  join "::" ["cost_fee_override", merchantId, connector]

def addonName (merchantId connector : String) : String :=
  join "::" ["cost_invoice_addon", merchantId, connector]

/-- Add to a list, unless it is there. -/
def indexAdd (list : List String) (item : String) : List String :=
  if item ∈ list then list else list ++ [item]

def indexRemove (list : List String) (item : String) : List String :=
  list.filter fun other => other ≠ item

namespace OverlayStore

/-- The merchant has an entry of the kind. -/
def hasEntry (store : OverlayStore) (kind : OverlayKind) (merchantId : String) : Bool :=
  match kind with
  | .override => !(store.connectors merchantId).isEmpty || !(store.clusters merchantId).isEmpty
  | .addon => !(store.addonConnectors merchantId).isEmpty

/-- The merchants whose overlays the refresh of all merchants loads. -/
def refreshedMerchants (store : OverlayStore) : List String :=
  store.merchants .override ++
    (store.merchants .addon).filter fun merchantId => merchantId ∉ store.merchants .override

def setMerchants (store : OverlayStore) (kind : OverlayKind) (list : List String) :
    OverlayStore :=
  { store with merchants := Function.update store.merchants kind list }

@[simp]
theorem merchants_setMerchants_self (store : OverlayStore) (kind : OverlayKind)
    (list : List String) : (store.setMerchants kind list).merchants kind = list :=
  Function.update_self ..

theorem merchants_setMerchants_of_ne {store : OverlayStore} {kind other : OverlayKind}
    (different : other ≠ kind) (list : List String) :
    (store.setMerchants kind list).merchants other = store.merchants other :=
  Function.update_of_ne different ..

end OverlayStore

/-! ## Requests -/

inductive OverlayRequest where
  | put (connector : String) (fee : ServingCost)
  | delete (connector : String)
  | putCluster (dims : ClusterDims) (fee : ServingCost)
  | deleteCluster (dims : ClusterDims)
  | putAddon (connector : String) (addon : ServingCost)
  | deleteAddon (connector : String)

/-- The kind of overlay that a request is about. -/
def OverlayRequest.kind : OverlayRequest → OverlayKind
  | .put .. | .delete .. | .putCluster .. | .deleteCluster .. => .override
  | .putAddon .. | .deleteAddon .. => .addon

/-- What a request of a merchant does next. -/
inductive OverlayStage where
  | ready
  | add (kind : OverlayKind)
  | remove (kind : OverlayKind)
  | write (kind : OverlayKind) (read list : List String)

section Requests

variable [LetterCase]

/-- The part of a request that is about the merchant's own configurations, and what is left
to do.  Without a fee to delete the request fails. -/
def OverlayRequest.own (merchantId : String) (request : OverlayRequest) (store : OverlayStore) :
    OverlayStage × OverlayStore :=
  match request with
  | .put connector fee =>
      (.add .override,
        { store with
          fees := Function.update store.fees (overrideName merchantId connector) (some fee)
          connectors := Function.update store.connectors merchantId
            (indexAdd (store.connectors merchantId) connector) })
  | .delete connector =>
      if (store.fees (overrideName merchantId connector)).isNone then (.ready, store)
      else
        let next :=
          { store with
            fees := Function.update store.fees (overrideName merchantId connector) none
            connectors := Function.update store.connectors merchantId
              (indexRemove (store.connectors merchantId) connector) }
        (if next.hasEntry .override merchantId then .ready else .remove .override, next)
  | .putCluster dims fee =>
      (.add .override,
        { store with
          clusters := Function.update store.clusters merchantId
            ((store.clusters merchantId).filter (fun entry => entry.1 ≠ dims) ++ [(dims, fee)]) })
  | .deleteCluster dims =>
      let next :=
        { store with
          clusters := Function.update store.clusters merchantId
            ((store.clusters merchantId).filter fun entry => entry.1 ≠ dims) }
      (if next.hasEntry .override merchantId then .ready else .remove .override, next)
  | .putAddon connector addon =>
      let connector := LetterCase.toLowercase connector
      (.add .addon,
        { store with
          fees := Function.update store.fees (addonName merchantId connector) (some addon)
          addonConnectors := Function.update store.addonConnectors merchantId
            (indexAdd (store.addonConnectors merchantId) connector) })
  | .deleteAddon connector =>
      let connector := LetterCase.toLowercase connector
      if (store.fees (addonName merchantId connector)).isNone then (.ready, store)
      else
        let next :=
          { store with
            fees := Function.update store.fees (addonName merchantId connector) none
            addonConnectors := Function.update store.addonConnectors merchantId
              (indexRemove (store.addonConnectors merchantId) connector) }
        (if next.hasEntry .addon merchantId then .ready else .remove .addon, next)

/-- The requests of a merchant, one after the other. -/
structure MerchantRequests where
  merchantId : String
  stage : OverlayStage
  requests : List OverlayRequest

def overlayProcess : Process OverlayStore MerchantRequests Unit := fun own store =>
  match own.stage with
  | .ready =>
      match own.requests with
      | [] => none
      | request :: rest =>
          let done := request.own own.merchantId store
          some ((), { own with stage := done.1, requests := rest }, done.2)
  | .add kind =>
      let list := store.merchants kind
      if own.merchantId ∈ list then some ((), { own with stage := .ready }, store)
      else some ((), { own with stage := .write kind list (list ++ [own.merchantId]) }, store)
  | .remove kind =>
      let list := store.merchants kind
      some ((), { own with stage := .write kind list (indexRemove list own.merchantId) }, store)
  | .write kind _ list => some ((), { own with stage := .ready }, store.setMerchants kind list)

variable {ι : Type}

/-- The requests of the merchants before their first step. -/
def startOverlays (store : OverlayStore) (merchants : ι → String)
    (requests : ι → List OverlayRequest) : Config OverlayStore ι MerchantRequests :=
  ⟨store, fun index => ⟨merchants index, .ready, requests index⟩⟩

/-- A write is made over a list with the other merchants that were read. -/
def WritesCurrent (config : Config OverlayStore ι MerchantRequests) (index : ι) : Prop :=
  ∀ kind read list, (config.locals index).stage = .write kind read list →
    ∀ other, other ≠ (config.locals index).merchantId →
      (other ∈ config.shared.merchants kind ↔ other ∈ read)

/-- The index of the kind lists the merchant if it has an entry. -/
def Indexed (store : OverlayStore) (kind : OverlayKind) (merchantId : String) : Prop :=
  merchantId ∈ store.merchants kind ↔ store.hasEntry kind merchantId = true

/-- Both indices list exactly the merchants with entries. -/
def IndexComplete (store : OverlayStore) : Prop :=
  ∀ kind merchantId, Indexed store kind merchantId

/-- The indices list a merchant as far as its requests have come. -/
def StageHolds (store : OverlayStore) (merchantId : String) : OverlayStage → Prop
  | .ready => ∀ kind, Indexed store kind merchantId
  | .add kind =>
      store.hasEntry kind merchantId = true ∧
        ∀ other, other ≠ kind → Indexed store other merchantId
  | .remove kind =>
      store.hasEntry kind merchantId = false ∧
        ∀ other, other ≠ kind → Indexed store other merchantId
  | .write kind read list =>
      ((merchantId ∈ list ↔ store.hasEntry kind merchantId = true) ∧
        ∀ other, other ≠ merchantId → (other ∈ list ↔ other ∈ read)) ∧
        ∀ other, other ≠ kind → Indexed store other merchantId

/-- The two stores are the same for a merchant. -/
structure SameFor (merchantId : String) (store next : OverlayStore) : Prop where
  listed : ∀ kind, merchantId ∈ next.merchants kind ↔ merchantId ∈ store.merchants kind
  entries : ∀ kind, next.hasEntry kind merchantId = store.hasEntry kind merchantId

/-! ## Steps -/

variable {store next : OverlayStore} {merchantId : String} {kind : OverlayKind}

section

omit [LetterCase]

theorem indexAdd_ne_nil (list : List String) (item : String) : indexAdd list item ≠ [] := by
  rw [indexAdd]
  split
  · next listed => exact List.ne_nil_of_mem listed
  · exact List.append_ne_nil_of_right_ne_nil list (List.cons_ne_nil item [])

theorem SameFor.stageHolds (same : SameFor merchantId store next) {stage : OverlayStage}
    (holds : StageHolds store merchantId stage) : StageHolds next merchantId stage := by
  have indexed : ∀ kind, Indexed store kind merchantId → Indexed next kind merchantId := by
    intro kind before
    rw [Indexed, same.listed, same.entries]
    exact before
  cases stage with
  | ready => exact fun kind => indexed kind (holds kind)
  | add kind =>
      rw [StageHolds, same.entries]
      exact holds.imp_right fun others other different => indexed other (others other different)
  | remove kind =>
      rw [StageHolds, same.entries]
      exact holds.imp_right fun others other different => indexed other (others other different)
  | write kind read list =>
      rw [StageHolds, same.entries]
      exact holds.imp_right fun others other different => indexed other (others other different)

/-- What a request does to the merchant's own configurations: the indices and the other
merchants stay as they are, and so do the entries of the other kind. -/
structure OwnChange (kind : OverlayKind) (merchantId : String) (store next : OverlayStore) :
    Prop where
  merchants : next.merchants = store.merchants
  others : ∀ other, other ≠ merchantId → ∀ kind,
    next.hasEntry kind other = store.hasEntry kind other
  otherKind : ∀ other, other ≠ kind →
    next.hasEntry other merchantId = store.hasEntry other merchantId

theorem OwnChange.same (kind : OverlayKind) (merchantId : String) (store : OverlayStore) :
    OwnChange kind merchantId store store :=
  ⟨rfl, fun _ _ _ => rfl, fun _ _ => rfl⟩

theorem ownChange_override (merchants : next.merchants = store.merchants)
    (connectors : ∀ other, other ≠ merchantId → next.connectors other = store.connectors other)
    (clusters : ∀ other, other ≠ merchantId → next.clusters other = store.clusters other)
    (addons : next.addonConnectors = store.addonConnectors) :
    OwnChange .override merchantId store next := by
  refine ⟨merchants, fun other different kind => ?_, fun other different => ?_⟩
  · cases kind
    · rw [OverlayStore.hasEntry, OverlayStore.hasEntry, connectors other different,
        clusters other different]
    · rw [OverlayStore.hasEntry, OverlayStore.hasEntry, addons]
  · cases other
    · exact absurd rfl different
    · rw [OverlayStore.hasEntry, OverlayStore.hasEntry, addons]

theorem ownChange_addon (merchants : next.merchants = store.merchants)
    (connectors : next.connectors = store.connectors) (clusters : next.clusters = store.clusters)
    (addons : ∀ other, other ≠ merchantId →
      next.addonConnectors other = store.addonConnectors other) :
    OwnChange .addon merchantId store next := by
  refine ⟨merchants, fun other different kind => ?_, fun other different => ?_⟩
  · cases kind
    · rw [OverlayStore.hasEntry, OverlayStore.hasEntry, connectors, clusters]
    · rw [OverlayStore.hasEntry, OverlayStore.hasEntry, addons other different]
  · cases other
    · rw [OverlayStore.hasEntry, OverlayStore.hasEntry, connectors, clusters]
    · exact absurd rfl different

end

variable (request : OverlayRequest)

theorem ownChange_own (merchantId : String) (store : OverlayStore) :
    OwnChange request.kind merchantId store (request.own merchantId store).2 := by
  cases request with
  | put connector fee =>
      exact ownChange_override rfl (fun _ different => Function.update_of_ne different ..)
        (fun _ _ => rfl) rfl
  | delete connector =>
      rw [OverlayRequest.own]
      split
      · exact .same _ merchantId store
      · exact ownChange_override rfl (fun _ different => Function.update_of_ne different ..)
          (fun _ _ => rfl) rfl
  | putCluster dims fee =>
      exact ownChange_override rfl (fun _ _ => rfl)
        (fun _ different => Function.update_of_ne different ..) rfl
  | deleteCluster dims =>
      exact ownChange_override rfl (fun _ _ => rfl)
        (fun _ different => Function.update_of_ne different ..) rfl
  | putAddon connector addon =>
      exact ownChange_addon rfl rfl rfl fun _ different => Function.update_of_ne different ..
  | deleteAddon connector =>
      rw [OverlayRequest.own]
      split
      · exact .same _ merchantId store
      · exact ownChange_addon rfl rfl rfl fun _ different => Function.update_of_ne different ..

omit [LetterCase] in
theorem isEmpty_filter_imp {α : Type} {list : List α} {holds : α → Bool}
    (nonempty : (!(list.filter holds).isEmpty) = true) : (!list.isEmpty) = true := by
  rw [Bool.not_eq_true', List.isEmpty_eq_false_iff] at nonempty ⊢
  rintro rfl
  exact nonempty rfl

omit [LetterCase] in
/-- After a deletion the merchant is pruned from the index, or it has entries as before. -/
theorem stage_prune
    (shrinks : next.hasEntry kind merchantId = true → store.hasEntry kind merchantId = true) :
    ((if next.hasEntry kind merchantId then .ready else .remove kind : OverlayStage) =
        .remove kind ∧ next.hasEntry kind merchantId = false) ∨
      ((if next.hasEntry kind merchantId then .ready else .remove kind : OverlayStage) =
        .ready ∧ next.hasEntry kind merchantId = store.hasEntry kind merchantId) := by
  cases present : next.hasEntry kind merchantId with
  | true => exact Or.inr ⟨rfl, (shrinks present).symm⟩
  | false => exact Or.inl ⟨rfl, rfl⟩

/-- What is left to do after a request: the index is to list the merchant if it has an entry,
and is not read for an entry that was and is there. -/
theorem stage_own (merchantId : String) (store : OverlayStore) :
    ((request.own merchantId store).1 = .add request.kind ∧
        (request.own merchantId store).2.hasEntry request.kind merchantId = true) ∨
      ((request.own merchantId store).1 = .remove request.kind ∧
        (request.own merchantId store).2.hasEntry request.kind merchantId = false) ∨
      ((request.own merchantId store).1 = .ready ∧
        (request.own merchantId store).2.hasEntry request.kind merchantId =
          store.hasEntry request.kind merchantId) := by
  cases request with
  | put connector fee =>
      refine Or.inl ⟨rfl, ?_⟩
      simp [OverlayRequest.own, OverlayRequest.kind, OverlayStore.hasEntry, indexAdd_ne_nil]
  | delete connector =>
      rw [OverlayRequest.own]
      split
      · exact Or.inr (Or.inr ⟨rfl, rfl⟩)
      · right
        apply stage_prune
        simp only [OverlayStore.hasEntry, Function.update_self, Bool.or_eq_true]
        exact Or.imp_left isEmpty_filter_imp
  | putCluster dims fee =>
      refine Or.inl ⟨rfl, ?_⟩
      simp [OverlayRequest.own, OverlayRequest.kind, OverlayStore.hasEntry]
  | deleteCluster dims =>
      right
      apply stage_prune
      simp only [OverlayStore.hasEntry, Function.update_self, Bool.or_eq_true]
      exact Or.imp_right isEmpty_filter_imp
  | putAddon connector addon =>
      refine Or.inl ⟨rfl, ?_⟩
      simp [OverlayRequest.own, OverlayRequest.kind, OverlayStore.hasEntry, indexAdd_ne_nil]
  | deleteAddon connector =>
      rw [OverlayRequest.own]
      split
      · exact Or.inr (Or.inr ⟨rfl, rfl⟩)
      · right
        apply stage_prune
        simp only [OverlayStore.hasEntry, Function.update_self]
        exact isEmpty_filter_imp

/-- After its own part a request is to write the index, unless the index is right. -/
theorem stageHolds_own (indexed : ∀ kind, Indexed store kind merchantId) :
    StageHolds (request.own merchantId store).2 merchantId (request.own merchantId store).1 := by
  have change := ownChange_own request merchantId store
  have others : ∀ other, other ≠ request.kind →
      Indexed (request.own merchantId store).2 other merchantId := by
    intro other different
    rw [Indexed, change.merchants, change.otherKind other different]
    exact indexed other
  rcases stage_own request merchantId store with
    ⟨stage, present⟩ | ⟨stage, absent⟩ | ⟨stage, same⟩ <;> rw [stage]
  · exact ⟨present, others⟩
  · exact ⟨absent, others⟩
  · intro kind
    by_cases isKind : kind = request.kind
    · rw [isKind, Indexed, change.merchants, same]
      exact indexed request.kind
    · exact others kind isKind

omit [LetterCase] in
theorem mem_indexRemove {list : List String} {item other : String} :
    other ∈ indexRemove list item ↔ other ∈ list ∧ other ≠ item := by
  rw [indexRemove, List.mem_filter, decide_eq_true_eq]

/-- A step of a merchant keeps the index in line with its requests, and leaves the other
merchants alone if it writes over what it read. -/
theorem overlayProcess_step {own nextOwn : MerchantRequests}
    (steps : overlayProcess own store = some ((), nextOwn, next))
    (holds : StageHolds store own.merchantId own.stage)
    (current : ∀ kind read list, own.stage = .write kind read list →
      ∀ other, other ≠ own.merchantId → (other ∈ store.merchants kind ↔ other ∈ read)) :
    nextOwn.merchantId = own.merchantId ∧
      StageHolds next own.merchantId nextOwn.stage ∧
      ∀ other, other ≠ own.merchantId → SameFor other store next := by
  have unchanged : ∀ other, other ≠ own.merchantId → SameFor other store store :=
    fun _ _ => ⟨fun _ => Iff.rfl, fun _ => rfl⟩
  rcases own with ⟨merchantId, stage, requests⟩
  cases stage with
  | ready =>
      cases requests with
      | nil => cases steps
      | cons request rest =>
          cases steps
          have change := ownChange_own request merchantId store
          refine ⟨rfl, stageHolds_own request holds, fun other different => ?_⟩
          exact ⟨fun kind => by rw [change.merchants], change.others other different⟩
  | add kind =>
      rw [overlayProcess] at steps
      dsimp only at steps
      split at steps
      · next listed =>
          cases steps
          refine ⟨rfl, fun other => ?_, unchanged⟩
          by_cases isKind : other = kind
          · rw [isKind]
            exact iff_of_true listed holds.1
          · exact holds.2 other isKind
      · cases steps
        refine ⟨rfl, ⟨⟨?_, ?_⟩, holds.2⟩, unchanged⟩
        · exact iff_of_true (List.mem_append_right _ List.mem_cons_self) holds.1
        · intro other different
          rw [List.mem_append, List.mem_singleton, or_iff_left different]
  | remove kind =>
      cases steps
      refine ⟨rfl, ⟨⟨?_, ?_⟩, holds.2⟩, unchanged⟩
      · apply iff_of_false
        · exact fun listed => (mem_indexRemove.mp listed).2 rfl
        · rw [holds.1]
          exact Bool.false_ne_true
      · intro other different
        rw [mem_indexRemove, and_iff_left different]
  | write kind read list =>
      cases steps
      refine ⟨rfl, fun other => ?_, fun other different => ⟨fun otherKind => ?_, fun _ => rfl⟩⟩
      · by_cases isKind : other = kind
        · rw [isKind, Indexed, OverlayStore.merchants_setMerchants_self]
          exact holds.1.1
        · rw [Indexed, OverlayStore.merchants_setMerchants_of_ne isKind]
          exact holds.2 other isKind
      · by_cases isKind : otherKind = kind
        · rw [isKind, OverlayStore.merchants_setMerchants_self, holds.1.2 other different]
          exact (current kind read list rfl other different).symm
        · rw [OverlayStore.merchants_setMerchants_of_ne isKind]

/-! ## Runs -/

section Run

variable {ι : Type} [DecidableEq ι]

/-- The indices list every merchant as far as its requests have come. -/
structure Indexing (merchants : ι → String) (config : Config OverlayStore ι MerchantRequests) :
    Prop where
  own : ∀ index, (config.locals index).merchantId = merchants index
  holds : ∀ index, StageHolds config.shared (merchants index) (config.locals index).stage
  others : ∀ merchantId, (∀ index, merchants index ≠ merchantId) → ∀ kind,
    Indexed config.shared kind merchantId

theorem Indexing.move {merchants : ι → String} (distinct : Function.Injective merchants)
    {config next : Config OverlayStore ι MerchantRequests} {label : ι × Unit}
    (indexing : Indexing merchants config) (current : WritesCurrent config label.1)
    (moves : Moves overlayProcess config label next) : Indexing merchants next := by
  rcases moves with ⟨steps⟩
  rename_i index event nextOwn store
  have isOwn := indexing.own index
  have holds := indexing.holds index
  rw [← isOwn] at holds
  rcases overlayProcess_step steps holds (current · · · ·) with ⟨sameOwn, nextHolds, sameFor⟩
  rw [isOwn] at sameOwn nextHolds sameFor
  refine ⟨fun other => ?_, fun other => ?_, ?_⟩
  · dsimp only
    by_cases moved : other = index
    · rw [moved, Function.update_self]
      exact sameOwn
    · rw [Function.update_of_ne moved]
      exact indexing.own other
  · dsimp only
    by_cases moved : other = index
    · rw [moved, Function.update_self]
      exact nextHolds
    · rw [Function.update_of_ne moved]
      have different : merchants other ≠ merchants index := fun same => moved (distinct same)
      exact (sameFor _ different).stageHolds (indexing.holds other)
  · intro merchantId noneOf kind
    have same := sameFor merchantId (noneOf index).symm
    rw [Indexed, same.listed, same.entries]
    exact indexing.others merchantId noneOf kind

/-- In a run of requests of different merchants whose writes are made over the lists that
were read, once all are done the indices list exactly the merchants with entries, and the
refresh of all merchants loads every one of them. -/
theorem indexComplete_of_run {merchants : ι → String} (distinct : Function.Injective merchants)
    {requests : ι → List OverlayRequest} {start : OverlayStore} (complete : IndexComplete start)
    {trace : List (ι × Unit)} {config : Config OverlayStore ι MerchantRequests}
    (run : Run (fun config label next => Moves overlayProcess config label next ∧
      WritesCurrent config label.1) (startOverlays start merchants requests) trace config)
    (done : config.Done overlayProcess) :
    IndexComplete config.shared ∧
      ∀ merchantId kind, config.shared.hasEntry kind merchantId = true →
        merchantId ∈ config.shared.refreshedMerchants := by
  have indexing : Indexing merchants config := by
    apply run.invariant_of_allowed fun _ config => Indexing merchants config
    · exact ⟨fun _ => rfl, fun index kind => complete kind (merchants index),
        fun merchantId _ kind => complete kind merchantId⟩
    · intro trace middle label target indexing current moves
      exact indexing.move distinct current moves
  have isComplete : IndexComplete config.shared := by
    intro kind merchantId
    by_cases requested : ∃ index, merchants index = merchantId
    · rcases requested with ⟨index, rfl⟩
      have holds := indexing.holds index
      have isReady : (config.locals index).stage = .ready := by
        have stopped := done index
        rcases isLocal : config.locals index with ⟨own, stage, rest⟩
        rw [isLocal, overlayProcess] at stopped
        cases stage with
        | ready => rfl
        | add kind =>
            dsimp only at stopped
            split at stopped <;> cases stopped
        | remove kind => cases stopped
        | write kind read list => cases stopped
      rw [isReady] at holds
      exact holds kind
    · exact indexing.others merchantId (not_exists.mp requested) kind
  refine ⟨isComplete, fun merchantId kind present => ?_⟩
  have listed := (isComplete kind merchantId).mpr present
  rw [OverlayStore.refreshedMerchants, List.mem_append, List.mem_filter, decide_eq_true_eq]
  cases kind with
  | override => exact Or.inl listed
  | addon =>
      by_cases isOverride : merchantId ∈ config.shared.merchants .override
      · exact Or.inl isOverride
      · exact Or.inr ⟨listed, isOverride⟩

end Run

end Requests

/-! ## A lost merchant -/

section Lost

local instance asciiLetters : LetterCase := .ascii

def visaCluster : ClusterDims :=
  ⟨"adyen", "visa", "visacredit", "credit", "de", "eur", "consumer"⟩

/-- Two merchants, each of which overrides the fee of a cluster. -/
def twoOverrides : Config OverlayStore Bool MerchantRequests :=
  startOverlays .empty (fun second => if second then "m2" else "m1")
    fun _ => [.putCluster visaCluster ⟨100, 0⟩]

theorem distinctMerchants :
    Function.Injective fun second : Bool => if second then "m2" else "m1" := by
  intro first second
  cases first <;> cases second <;> decide

theorem indexComplete_empty : IndexComplete .empty := by
  intro kind merchantId
  cases kind <;> exact iff_of_false List.not_mem_nil Bool.false_ne_true

/-- One merchant after the other. -/
def oneAfterTheOther : List Bool :=
  [false, false, false, true, true, true]

theorem indexComplete_of_run_sequential :
    IndexComplete (runSchedule overlayProcess twoOverrides oneAfterTheOther).shared ∧
      ∀ merchantId kind,
        (runSchedule overlayProcess twoOverrides oneAfterTheOther).shared.hasEntry kind
          merchantId = true →
        merchantId ∈
          (runSchedule overlayProcess twoOverrides oneAfterTheOther).shared.refreshedMerchants := by
  have current : AllowedSchedule overlayProcess WritesCurrent twoOverrides oneAfterTheOther := by
    refine ⟨nofun, nofun, ?_, nofun, nofun, ?_, trivial⟩
    · rintro kind read list isWrite other -
      cases isWrite
      exact Iff.rfl
    · rintro kind read list isWrite other -
      cases isWrite
      exact Iff.rfl
  apply indexComplete_of_run distinctMerchants indexComplete_empty
    (run_scheduleTrace overlayProcess current)
  intro index
  cases index <;> rfl

/-- Both merchants read the empty list, and the one that writes last is listed alone. -/
theorem indexComplete_of_run_counterexample :
    ∃ trace config, Interleaving overlayProcess twoOverrides trace config ∧
      config.Done overlayProcess ∧ config.shared.hasEntry .override "m1" = true ∧
      config.shared.merchants .override = ["m2"] ∧
      "m1" ∉ config.shared.refreshedMerchants := by
  refine ⟨_, _, interleaving_scheduleTrace overlayProcess twoOverrides
    [false, true, false, true, false, true], ?_, by decide, by decide, by decide⟩
  intro index
  cases index <;> rfl

end Lost

end DecisionEngine.CostIngestion
