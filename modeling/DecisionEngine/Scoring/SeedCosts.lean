import DecisionEngine.Number.Decimal
import DecisionEngine.Number.Machine
import DecisionEngine.Search.FirstBest
import DecisionEngine.Text.Basic

/-!
# Seed costs

The fee of a gateway for a payment, from a table of tiers.  A tier is for the payments that
have the values it sets; the tier that sets the most dimensions is used, and of several such
ones the one that sets the more discriminating dimension.
-/

namespace DecisionEngine.Scoring

open Number Search Text

/-! ## Tables -/

structure SeedFeeModel (F : Type) where
  pctBps : F
  fixed : F
  interchangeBps : Option F
  schemeBps : Option F
  markupBps : Option F

structure SeedCostTier (F : Type) where
  cardNetwork : Option String
  paymentMethodType : Option String
  cardType : Option String
  transactionCurrency : Option String
  cardIssuingCountry : Option String
  pctBps : F
  fixed : F
  interchangeBps : Option F
  schemeBps : Option F
  markupBps : Option F
  deriving DecidableEq

structure SeedCostEntry (F : Type) where
  default : SeedFeeModel F
  tiers : List (SeedCostTier F)

/-- The attributes of a payment. -/
structure ClusterKey where
  transactionCurrency : Option String
  paymentMethodType : Option String
  cardType : Option String
  cardNetwork : Option String
  cardIssuingCountry : Option String

structure ResolvedFee (F : Type) where
  interchangeBps : F
  schemeBps : F
  markupBps : F
  fixed : F

section Resolution

variable {F : Type}

/-! ## Resolution -/

/-- An absent attribute is the empty text. -/
def field (value : Option String) : String :=
  value.getD ""

/-- Count a dimension that the tier sets; one with another value excludes the tier. -/
def scoreDimension (value given : Option String) (weight : Nat) (score : Nat × Nat) :
    Option (Nat × Nat) :=
  match value with
  | none => some score
  | some text =>
      if toAsciiLowercase text = toAsciiLowercase (field given) then
        some (score.1 + 1, score.2 + weight)
      else none

def tierScore (tier : SeedCostTier F) (cluster : ClusterKey) : Option Nat := do
  let score ← scoreDimension tier.cardIssuingCountry cluster.cardIssuingCountry 16 (0, 0)
  let score ← scoreDimension tier.transactionCurrency cluster.transactionCurrency 8 score
  let score ← scoreDimension tier.cardNetwork cluster.cardNetwork 4 score
  let score ← scoreDimension tier.paymentMethodType cluster.paymentMethodType 2 score
  let score ← scoreDimension tier.cardType cluster.cardType 1 score
  some (score.1 * 32 + score.2)

/-- The tiers that are not excluded, with their scores. -/
def scoredTiers (tiers : List (SeedCostTier F)) (cluster : ClusterKey) :
    List (Nat × SeedCostTier F) :=
  tiers.filterMap fun tier => (tierScore tier cluster).map fun score => (score, tier)

def bestTier (entry : SeedCostEntry F) (cluster : ClusterKey) : Option (SeedCostTier F) :=
  (lastBest Prod.fst (scoredTiers entry.tiers cluster)).map Prod.snd

section Fee

variable [MachineNumber F]

def feeComponents (pctBps : F) (interchangeBps schemeBps markupBps : Option F) : F × F × F :=
  match interchangeBps, schemeBps, markupBps with
  | none, none, none => (pctBps, ofRat 0, ofRat 0)
  | _, _, _ =>
      (interchangeBps.getD (ofRat 0), schemeBps.getD (ofRat 0), markupBps.getD (ofRat 0))

def feeFrom (pctBps : F) (interchangeBps schemeBps markupBps : Option F) (fixed : F) :
    ResolvedFee F :=
  let components := feeComponents pctBps interchangeBps schemeBps markupBps
  ⟨components.1, components.2.1, components.2.2, fixed⟩

def SeedCostTier.fee (tier : SeedCostTier F) : ResolvedFee F :=
  feeFrom tier.pctBps tier.interchangeBps tier.schemeBps tier.markupBps tier.fixed

def SeedFeeModel.fee (model : SeedFeeModel F) : ResolvedFee F :=
  feeFrom model.pctBps model.interchangeBps model.schemeBps model.markupBps model.fixed

def resolveFee (entry : SeedCostEntry F) (cluster : ClusterKey) : ResolvedFee F :=
  match bestTier entry cluster with
  | some tier => tier.fee
  | none => entry.default.fee

end Fee

/-! ## What a tier is for -/

/-- The dimensions of a tier. -/
inductive TierDimension where
  | cardIssuingCountry
  | transactionCurrency
  | cardNetwork
  | paymentMethodType
  | cardType
  deriving DecidableEq

/-- From the most to the least discriminating one. -/
def TierDimension.all : List TierDimension :=
  [.cardIssuingCountry, .transactionCurrency, .cardNetwork, .paymentMethodType, .cardType]

def SeedCostTier.value (tier : SeedCostTier F) : TierDimension → Option String
  | .cardIssuingCountry => tier.cardIssuingCountry
  | .transactionCurrency => tier.transactionCurrency
  | .cardNetwork => tier.cardNetwork
  | .paymentMethodType => tier.paymentMethodType
  | .cardType => tier.cardType

def ClusterKey.value (cluster : ClusterKey) : TierDimension → Option String
  | .cardIssuingCountry => cluster.cardIssuingCountry
  | .transactionCurrency => cluster.transactionCurrency
  | .cardNetwork => cluster.cardNetwork
  | .paymentMethodType => cluster.paymentMethodType
  | .cardType => cluster.cardType

/-- The values that a tier sets, without regard to case. -/
def SeedCostTier.keys (tier : SeedCostTier F) (dimension : TierDimension) : Option String :=
  (tier.value dimension).map toAsciiLowercase

/-- The payment has every value that the tier sets. -/
def SeedCostTier.Matches (tier : SeedCostTier F) (cluster : ClusterKey) : Prop :=
  ∀ dimension text, tier.value dimension = some text → ∃ given,
    cluster.value dimension = some given ∧ toAsciiLowercase text = toAsciiLowercase given

/-- How many dimensions a tier sets and which ones; compared in lexicographic order. -/
def SeedCostTier.precedence (tier : SeedCostTier F) : List Nat :=
  (TierDimension.all.countP fun dimension => (tier.value dimension).isSome) ::
    TierDimension.all.map fun dimension => (tier.value dimension).isSome.toNat

/-- The tier is not excluded when absent attributes are taken for empty texts. -/
def SeedCostTier.MatchesFields (tier : SeedCostTier F) (cluster : ClusterKey) : Prop :=
  ∀ dimension text, tier.value dimension = some text →
    toAsciiLowercase text = toAsciiLowercase (field (cluster.value dimension))

/-! ## Scores -/

variable {tier other : SeedCostTier F} {cluster : ClusterKey}

theorem scoreDimension_eq_some_iff {value given : Option String} {weight : Nat}
    {score next : Nat × Nat} :
    scoreDimension value given weight score = some next ↔
      (∀ text, value = some text → toAsciiLowercase text = toAsciiLowercase (field given)) ∧
        (score.1 + value.isSome.toNat, score.2 + value.isSome.toNat * weight) = next := by
  cases value with
  | none => simp [scoreDimension]
  | some text =>
      rw [scoreDimension]
      split
      · next same => simp [same]
      · next differs => simp [differs]

def SeedCostTier.flag (tier : SeedCostTier F) (dimension : TierDimension) : Nat :=
  (tier.value dimension).isSome.toNat

theorem SeedCostTier.flag_le_one (tier : SeedCostTier F) (dimension : TierDimension) :
    tier.flag dimension ≤ 1 :=
  Bool.toNat_le _

theorem ofDigits_precedence :
    Nat.ofDigits 2 tier.precedence.reverse =
      (tier.flag .cardIssuingCountry + tier.flag .transactionCurrency + tier.flag .cardNetwork +
          tier.flag .paymentMethodType + tier.flag .cardType) * 32 +
        (tier.flag .cardIssuingCountry * 16 + tier.flag .transactionCurrency * 8 +
          tier.flag .cardNetwork * 4 + tier.flag .paymentMethodType * 2 + tier.flag .cardType) := by
  have count : ∀ (rest : List TierDimension) (dimension : TierDimension),
      (dimension :: rest).countP (fun dimension => (tier.value dimension).isSome) =
        rest.countP (fun dimension => (tier.value dimension).isSome) + tier.flag dimension := by
    intro rest dimension
    rw [List.countP_cons, SeedCostTier.flag]
    cases (tier.value dimension).isSome <;> rfl
  rw [SeedCostTier.precedence, TierDimension.all]
  simp only [count, List.countP_nil, List.map_cons, List.map_nil, ofDigits_reverse_cons,
    List.reverse_nil, Nat.ofDigits_nil, List.length_cons, List.length_nil]
  simp only [← SeedCostTier.flag.eq_1]
  omega

variable {score : Nat}

/-- The score has the digits that the precedence consists of. -/
theorem tierScore_eq_some_iff :
    tierScore tier cluster = some score ↔
      tier.MatchesFields cluster ∧ score = Nat.ofDigits 2 tier.precedence.reverse := by
  simp only [tierScore, bind, Option.bind_eq_some_iff, scoreDimension_eq_some_iff]
  constructor
  · rintro ⟨_, ⟨country, rfl⟩, _, ⟨currency, rfl⟩, _, ⟨network, rfl⟩, _, ⟨methodType, rfl⟩, _,
      ⟨cardType, rfl⟩, total⟩
    refine ⟨?_, ?_⟩
    · intro dimension
      cases dimension with
      | cardIssuingCountry => exact country
      | transactionCurrency => exact currency
      | cardNetwork => exact network
      | paymentMethodType => exact methodType
      | cardType => exact cardType
    · rw [ofDigits_precedence, ← Option.some.inj total]
      simp only [SeedCostTier.flag, SeedCostTier.value]
      omega
  · rintro ⟨isMatch, rfl⟩
    refine ⟨_, ⟨isMatch .cardIssuingCountry, rfl⟩, _, ⟨isMatch .transactionCurrency, rfl⟩, _,
      ⟨isMatch .cardNetwork, rfl⟩, _, ⟨isMatch .paymentMethodType, rfl⟩, _,
      ⟨isMatch .cardType, rfl⟩, ?_⟩
    rw [ofDigits_precedence, Option.some.injEq]
    simp only [SeedCostTier.flag, SeedCostTier.value]
    omega

theorem tierScore_lt_iff {otherScore : Nat} (scored : tierScore tier cluster = some score)
    (otherScored : tierScore other cluster = some otherScore) :
    score < otherScore ↔ tier.precedence < other.precedence := by
  have digits : ∀ (tier : SeedCostTier F), ∀ digit ∈ tier.precedence.tail, digit < 2 := by
    intro tier digit listed
    rcases List.mem_map.mp listed with ⟨dimension, -, rfl⟩
    exact Bool.toNat_lt _
  rw [(tierScore_eq_some_iff.mp scored).2, (tierScore_eq_some_iff.mp otherScored).2]
  exact ofDigits_reverse_lt_iff (by omega) rfl (digits tier) (digits other)

/-- Of the tiers that a payment matches, those with the same score set the same values. -/
theorem keys_eq_of_tierScore (scored : tierScore tier cluster = some score)
    (otherScored : tierScore other cluster = some score) : tier.keys = other.keys := by
  rcases tierScore_eq_some_iff.mp scored with ⟨isMatch, digits⟩
  rcases tierScore_eq_some_iff.mp otherScored with ⟨otherMatch, otherDigits⟩
  rw [ofDigits_precedence] at digits otherDigits
  have sameFlags : ∀ dimension, tier.flag dimension = other.flag dimension := by
    have small := tier.flag_le_one
    have otherSmall := other.flag_le_one
    have country := small .cardIssuingCountry
    have currency := small .transactionCurrency
    have network := small .cardNetwork
    have methodType := small .paymentMethodType
    have cardType := small .cardType
    have otherCountry := otherSmall .cardIssuingCountry
    have otherCurrency := otherSmall .transactionCurrency
    have otherNetwork := otherSmall .cardNetwork
    have otherMethodType := otherSmall .paymentMethodType
    have otherCardType := otherSmall .cardType
    intro dimension
    cases dimension with
    | cardIssuingCountry => omega
    | transactionCurrency => omega
    | cardNetwork => omega
    | paymentMethodType => omega
    | cardType => omega
  funext dimension
  have injective : ∀ left right : Bool, left.toNat = right.toNat → left = right := by decide
  have same := injective _ _ (sameFlags dimension)
  rw [SeedCostTier.keys, SeedCostTier.keys]
  cases isSet : tier.value dimension with
  | none =>
      rw [isSet, Option.isSome_none, eq_comm, Option.isSome_eq_false_iff,
        Option.isNone_iff_eq_none] at same
      rw [same]
  | some text =>
      rw [isSet, Option.isSome_some, eq_comm, Option.isSome_iff_exists] at same
      rcases same with ⟨otherText, otherIsSet⟩
      rw [otherIsSet, Option.map_some, Option.map_some, isMatch dimension text isSet,
        otherMatch dimension otherText otherIsSet]

variable {tiers : List (SeedCostTier F)}

theorem mem_scoredTiers :
    (score, tier) ∈ scoredTiers tiers cluster ↔
      tier ∈ tiers ∧ tierScore tier cluster = some score := by
  simp only [scoredTiers, List.mem_filterMap, Option.map_eq_some_iff, Prod.mk.injEq]
  constructor
  · rintro ⟨listed, listedMem, score, scored, rfl, rfl⟩
    exact ⟨listedMem, scored⟩
  · rintro ⟨listed, scored⟩
    exact ⟨tier, listed, score, scored, rfl, rfl⟩

/-! ## The best tier -/

variable {entry : SeedCostEntry F}

theorem bestTier_eq_some {tier : SeedCostTier F} (found : bestTier entry cluster = some tier) :
    tier ∈ entry.tiers ∧ tier.MatchesFields cluster ∧
      ∀ other ∈ entry.tiers, other.MatchesFields cluster →
        ¬tier.precedence < other.precedence := by
  rw [bestTier, Option.map_eq_some_iff] at found
  rcases found with ⟨⟨score, _⟩, best, rfl⟩
  rcases mem_of_lastBest best with ⟨listed, atLeast⟩
  rcases mem_scoredTiers.mp listed with ⟨tierListed, scored⟩
  refine ⟨tierListed, (tierScore_eq_some_iff.mp scored).1, ?_⟩
  intro other otherListed otherMatch
  have otherScored := tierScore_eq_some_iff.mpr ⟨otherMatch, rfl⟩
  rw [← tierScore_lt_iff scored otherScored, not_lt]
  exact atLeast _ (mem_scoredTiers.mpr ⟨otherListed, otherScored⟩)

theorem bestTier_eq_none_iff :
    bestTier entry cluster = none ↔ ∀ tier ∈ entry.tiers, ¬tier.MatchesFields cluster := by
  rw [bestTier, Option.map_eq_none_iff, lastBest_eq_none_iff, List.eq_nil_iff_forall_not_mem]
  constructor
  · intro nothing tier listed isMatch
    exact nothing _ (mem_scoredTiers.mpr ⟨listed, tierScore_eq_some_iff.mpr ⟨isMatch, rfl⟩⟩)
  · rintro nothing ⟨score, tier⟩ scored
    rcases mem_scoredTiers.mp scored with ⟨listed, hasScore⟩
    exact nothing tier listed (tierScore_eq_some_iff.mp hasScore).1

/-- With different sets of values the order of the tiers does not matter. -/
theorem bestTier_perm (distinct : (entry.tiers.map SeedCostTier.keys).Nodup)
    (permuted : entry.tiers.Perm tiers) :
    bestTier { entry with tiers := tiers } cluster = bestTier entry cluster := by
  rw [bestTier, bestTier]
  congr 1
  symm
  apply lastBest_perm (permuted.filterMap _)
  rintro ⟨score, left⟩ leftMem ⟨rightScore, right⟩ rightMem (rfl : score = rightScore)
  rcases mem_scoredTiers.mp leftMem with ⟨leftListed, leftScored⟩
  rcases mem_scoredTiers.mp rightMem with ⟨rightListed, rightScored⟩
  have sameKeys := keys_eq_of_tierScore leftScored rightScored
  rw [List.inj_on_of_nodup_map distinct leftListed rightListed sameKeys]

/-! ## Resolution by precedence -/

theorem SeedCostTier.Matches.fields (isMatch : tier.Matches cluster) :
    tier.MatchesFields cluster := by
  intro dimension text isSet
  rcases isMatch dimension text isSet with ⟨given, present, same⟩
  rw [present]
  exact same

/-- To match is a matter of the values that are set. -/
theorem SeedCostTier.Matches.of_keys (isMatch : other.Matches cluster)
    (same : tier.keys = other.keys) : tier.Matches cluster := by
  intro dimension text isSet
  have key : other.keys dimension = some (toAsciiLowercase text) := by
    rw [← same, SeedCostTier.keys, isSet, Option.map_some]
  rcases Option.map_eq_some_iff.mp key with ⟨otherText, otherIsSet, sameText⟩
  rw [← sameText]
  exact isMatch dimension otherText otherIsSet

variable [MachineNumber F]

/-- The tier used matches the payment, and no tier that matches precedes it; the default is used
when there is none.  Tiers with different sets of values may be listed in any order. -/
structure ResolvesFee (entry : SeedCostEntry F) (cluster : ClusterKey) : Prop where
  best : ∀ tier, bestTier entry cluster = some tier →
    tier ∈ entry.tiers ∧ tier.Matches cluster ∧
      (∀ other ∈ entry.tiers, other.Matches cluster → ¬tier.precedence < other.precedence) ∧
      resolveFee entry cluster = tier.fee
  nothing : bestTier entry cluster = none ↔ ∀ tier ∈ entry.tiers, ¬tier.Matches cluster
  default : bestTier entry cluster = none → resolveFee entry cluster = entry.default.fee
  ordered : (entry.tiers.map SeedCostTier.keys).Nodup → ∀ tiers, entry.tiers.Perm tiers →
    resolveFee { entry with tiers := tiers } cluster = resolveFee entry cluster

/-- A tier that is for an absent attribute with the empty text is used, unless a tier that matches
precedes it. -/
theorem resolvesFee_iff :
    ResolvesFee entry cluster ↔
      ∀ tier ∈ entry.tiers, tier.MatchesFields cluster → ¬tier.Matches cluster →
        ∃ other ∈ entry.tiers, other.Matches cluster ∧ tier.precedence < other.precedence := by
  constructor
  · intro resolves tier listed isScored isNoMatch
    cases found : bestTier entry cluster with
    | none => exact absurd isScored (bestTier_eq_none_iff.mp found tier listed)
    | some chosen =>
        rcases resolves.best chosen found with ⟨chosenListed, isMatch, -, -⟩
        refine ⟨chosen, chosenListed, isMatch, ?_⟩
        have scored := tierScore_eq_some_iff.mpr ⟨isScored, rfl⟩
        have chosenScored := tierScore_eq_some_iff.mpr ⟨isMatch.fields, rfl⟩
        have notAfter := (bestTier_eq_some found).2.2 tier listed isScored
        rw [← tierScore_lt_iff chosenScored scored, not_lt] at notAfter
        rw [← tierScore_lt_iff scored chosenScored]
        apply lt_of_le_of_ne notAfter
        intro sameScore
        rw [← sameScore] at chosenScored
        exact isNoMatch (isMatch.of_keys (keys_eq_of_tierScore scored chosenScored))
  · intro preceded
    have isMatch : ∀ tier, bestTier entry cluster = some tier → tier.Matches cluster := by
      intro tier found
      rcases bestTier_eq_some found with ⟨listed, isScored, isBest⟩
      by_contra isNoMatch
      rcases preceded tier listed isScored isNoMatch with ⟨other, otherListed, otherMatch, less⟩
      exact isBest other otherListed otherMatch.fields less
    refine ⟨?_, ⟨?_, ?_⟩, ?_, ?_⟩
    · intro tier found
      rcases bestTier_eq_some found with ⟨listed, -, isBest⟩
      refine ⟨listed, isMatch tier found, ?_, by rw [resolveFee, found]⟩
      exact fun other otherListed otherMatch => isBest other otherListed otherMatch.fields
    · intro nothing tier listed tierMatch
      exact bestTier_eq_none_iff.mp nothing tier listed tierMatch.fields
    · intro nothing
      cases found : bestTier entry cluster with
      | none => rfl
      | some tier =>
          exact absurd (isMatch tier found) (nothing tier (bestTier_eq_some found).1)
    · intro nothing
      rw [resolveFee, nothing]
    · intro distinct tiers permuted
      rw [resolveFee, resolveFee, bestTier_perm distinct permuted]

end Resolution

/-! ## A tier for an empty text -/

/-- A table with one tier, for payments whose card network is the empty text. -/
def emptyNetworkEntry : SeedCostEntry ℚ where
  default := ⟨250, 1 / 10, none, none, none⟩
  tiers := [⟨some "", none, none, none, none, 100, 1 / 5, none, none, none⟩]

/-- The tier is used for a payment that has no card network. -/
theorem resolvesFee_counterexample :
    ¬ResolvesFee emptyNetworkEntry ⟨some "USD", none, none, none, none⟩ := by
  intro resolves
  rcases resolves.best ⟨some "", none, none, none, none, 100, 1 / 5, none, none, none⟩
    (by decide +kernel) with ⟨-, isMatch, -, -⟩
  rcases isMatch .cardNetwork "" rfl with ⟨given, present, -⟩
  cases present

end DecisionEngine.Scoring
