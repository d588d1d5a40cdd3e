import DecisionEngine.CostIngestion.SegmentServing
import Mathlib.Algebra.Group.Prod

/-!
# Serving of costs

The rows of the model tables are assembled into the models of a merchant, which a lookup
tries from the most specific one to the coarse blend of a region.  The category of a
transaction is predicted from what earlier transactions had.
-/

namespace DecisionEngine.CostIngestion

open Database Map Search Text

/-! ## Costs -/

/-- A rate in basis points and a fee for each transaction. -/
@[ext]
structure ServingCost where
  pctBps : ℚ
  fixed : ℚ
  deriving DecidableEq

namespace ServingCost

def effectiveCostBps (cost : ServingCost) (amount : ℚ) : ℚ :=
  if 0 < amount then cost.pctBps + cost.fixed / amount * 10000 else cost.pctBps

def withAddon (cost : ServingCost) (addon : Option ServingCost) : ServingCost :=
  match addon with
  | some addon => ⟨cost.pctBps + addon.pctBps, cost.fixed + addon.fixed⟩
  | none => cost

end ServingCost

structure ServingSegment where
  lo : ℚ
  hi : ℚ
  cost : ServingCost
  good : Bool
  deriving DecidableEq

/-- The tiers of a cluster, ascending, and the blend of those that are good. -/
structure SegmentedCost where
  segments : List ServingSegment
  blend : ServingCost
  weight : ℚ
  nonempty : segments ≠ []

def ServingSegment.covers (amount : ℚ) (segment : ServingSegment) : Bool :=
  segment.lo ≤ amount ∧ amount < segment.hi

/-- The tier that has the amount, or else the first or the last one. -/
def SegmentedCost.segmentAt (ladder : SegmentedCost) (amount : ℚ) : ServingSegment :=
  (ladder.segments.find? (ServingSegment.covers amount)).getD
    (if amount < (ladder.segments.head ladder.nonempty).lo then
      ladder.segments.head ladder.nonempty
    else ladder.segments.getLast ladder.nonempty)

def SegmentedCost.forAmount (ladder : SegmentedCost) (amount : ℚ) : ServingCost :=
  let segment := ladder.segmentAt amount
  if segment.good then segment.cost else ladder.blend

inductive MemberCost where
  | flat (cost : ServingCost)
  | tiered (ladder : SegmentedCost)

def MemberCost.forAmount (member : MemberCost) (amount : ℚ) : ServingCost :=
  match member with
  | .flat cost => cost
  | .tiered ladder => ladder.forAmount amount

/-- The card products under a key, each with its volume. -/
structure FineBlend where
  members : List (ℚ × MemberCost)
  totalWeight : ℚ

def FineBlend.forAmount (blend : FineBlend) (amount : ℚ) : ServingCost :=
  if blend.totalWeight ≤ 0 then ⟨0, 0⟩
  else
    ⟨sumOf (fun member : ℚ × MemberCost => (member.2.forAmount amount).pctBps * member.1)
        blend.members / blend.totalWeight,
      sumOf (fun member : ℚ × MemberCost => (member.2.forAmount amount).fixed * member.1)
        blend.members / blend.totalWeight⟩

/-- What a merchant is served with. -/
structure MerchantModels where
  coarse : HashMap String ServingCost
  fine : HashMap String ServingCost
  segmented : HashMap String SegmentedCost
  fineBlend : HashMap String FineBlend
  predictor : List (HashMap String String)
  overrides : HashMap String ServingCost
  clusterOverrides : HashMap String ServingCost
  addons : HashMap String ServingCost

def MerchantModels.isEmpty (models : MerchantModels) : Bool :=
  models.coarse.entries.isEmpty && models.fine.entries.isEmpty &&
    models.segmented.entries.isEmpty && models.fineBlend.entries.isEmpty &&
    (models.predictor.all fun level => level.entries.isEmpty) &&
    models.overrides.entries.isEmpty && models.clusterOverrides.entries.isEmpty &&
    models.addons.entries.isEmpty

/-! ## Keys -/

def normalizeNetwork (network : String) : String :=
  match network with
  | "mastercard" | "master" => "mc"
  | "american express" | "americanexpress" => "amex"
  | "diners club" | "dinersclub" => "diners"
  | other => other

/-- Blank the variant of a key, which is its third field. -/
def withoutVariant (displayKey : String) : Option String :=
  (splitOnce '|' displayKey).bind fun (connector, rest) =>
    (splitOnce '|' rest).bind fun (network, rest) =>
      (splitOnce '|' rest).map fun (_, rest) => join "|" [connector, network, "", rest]

section Keys

variable [LetterCase]

open LetterCase

def euIssuers : List String :=
  ["eu", "gb", "uk", "ie", "de", "fr", "es", "it", "nl", "be", "pt", "at", "fi", "se", "dk",
    "pl", "cz", "gr", "hu", "ro", "sk", "bg", "hr", "si", "ee", "lv", "lt", "lu", "mt", "cy"]

def issuerRegion (raw : String) : String :=
  let v := toLowercase (trim raw)
  if v = "us" ∨ v = "usa" then "us"
  else if v = "intl" then "intl"
  else if v ∈ euIssuers then "eu"
  else "intl"

def coarseKey (connector network funding currency region : String) : String :=
  join "|" [toLowercase connector, normalizeNetwork (toLowercase network), toLowercase funding,
    toLowercase currency, toLowercase region]

def fineKey (connector network variant funding issuer currency icCategory : String) : String :=
  join "|" [toLowercase connector, normalizeNetwork (toLowercase network), toLowercase variant,
    toLowercase funding, toLowercase issuer, toLowercase currency, toLowercase icCategory]

def fineKeyModel (displayKey cardProduct : String) : String :=
  join "|" [displayKey, toLowercase cardProduct]

/-- The key that the models of a cluster are stored under. -/
def ClusterKey.modelKey (connector : String) (cluster : ClusterKey) : String :=
  fineKeyModel (fineKey connector cluster.cardNetwork cluster.variant cluster.funding
    cluster.issuerCountry cluster.currency cluster.icCategory) cluster.cardProduct

/-- The variant as a report spells it. -/
def reconstructVariant (network program funding wallet : String) : String :=
  let net := normalizeNetwork (toLowercase network)
  let w := toLowercase wallet
  if contains w "apple" then net ++ "_applepay"
  else if contains w "google" then net ++ "_googlepay"
  else net ++ toLowercase program ++ toLowercase funding

/-- The keys of the levels of the predictor, the most specific one first. -/
def predictorLevelKeys (network variant funding issuer : String) (band : Int)
    (channel : String) : List String :=
  let net := normalizeNetwork (toLowercase network)
  let var := toLowercase variant
  let fund := toLowercase funding
  let iss := toLowercase issuer
  let ch := toLowercase channel
  let bd := toString band
  [join "|" ["0", net, var, iss, ch, bd],
    join "|" ["1", net, var, iss, ch],
    join "|" ["2", net, var, ch, bd],
    join "|" ["3", net, var, iss, bd],
    join "|" ["4", net, var, iss],
    join "|" ["5", net, fund, iss, ch, bd],
    join "|" ["6", net, fund, ch, bd],
    join "|" ["7", net, fund, bd],
    join "|" ["8", net, fund]]

def predictorLevels : ℕ := 9

end Keys

/-! ## Rows of the queries -/

/-- A row of the cost query: the rates of a cluster, weighted by volume. -/
structure CostRow where
  merchantId : String
  connector : String
  cluster : ClusterKey
  pctNum : Option ℚ
  fixedNum : Option ℚ
  w : ℚ

/-- A row of the predictor query. -/
structure PredictorRow where
  merchantId : String
  cardNetwork : String
  variant : String
  funding : String
  issuerCountry : String
  band : Int
  channel : String
  icCategory : String
  c : ℕ

/-- What the queries return, in some order. -/
structure ServingRows where
  cost : List CostRow
  predictor : List PredictorRow
  segments : List SegmentRow

/-! ## Sums -/

/-- Weighted rates, weighted fees and weights. -/
abbrev CostSums := ℚ × ℚ × ℚ

/-- The averages of the keys with a weight. -/
def finalize (order : IterationOrder String CostSums) (sums : HashMap String CostSums) :
    HashMap String ServingCost :=
  collect (((order.entries sums).filter fun entry => 0 < entry.2.2.2).map fun entry =>
    (entry.1, ⟨entry.2.1 / entry.2.2.2, entry.2.2.1 / entry.2.2.2⟩))

/-- The orders in which the assembly meets the entries of its maps. -/
structure AssemblyOrder where
  sums : IterationOrder String CostSums
  ladders : IterationOrder String (List ServingSegment)
  fine : IterationOrder String ServingCost
  segmented : IterationOrder String SegmentedCost
  members : IterationOrder String (List (ℚ × MemberCost))
  levels : IterationOrder String (HashMap String ℕ)
  /-- The order of the categories of each key. -/
  categories : String → IterationOrder String ℕ

def AssemblyOrder.stored : AssemblyOrder :=
  ⟨.stored, .stored, .stored, .stored, .stored, .stored, fun _ => .stored⟩

def CostRow.sums (row : CostRow) : CostSums :=
  (row.pctNum.getD 0, row.fixedNum.getD 0, row.w)

/-- The rows of a merchant that count. -/
def weightedRows (merchantId : String) (rows : List CostRow) : List CostRow :=
  rows.filter fun row => row.merchantId = merchantId ∧ 0 < row.w

section Assembly

variable [LetterCase]

def CostRow.coarseKey (row : CostRow) : String :=
  CostIngestion.coarseKey row.connector row.cluster.cardNetwork row.cluster.funding
    row.cluster.currency (issuerRegion row.cluster.issuerCountry)

def CostRow.modelKey (row : CostRow) : String :=
  row.cluster.modelKey row.connector

/-! ## Tiers -/

/-- A piece of a ladder with a rate, and its volume. -/
structure LadderPiece where
  key : String
  segment : ServingSegment
  gross : ℚ

/-- A piece that has no rate is dropped. -/
def SegmentRow.piece (row : SegmentRow) : Option LadderPiece :=
  match row.segment.pctBps, row.segment.fixed with
  | some pctBps, some fixed =>
      some
        { key := row.cluster.modelKey row.account.connector
          segment :=
            { lo := row.segment.lo
              hi := row.segment.hi
              cost := ⟨pctBps, fixed⟩
              good := row.segment.verdict = .good }
          gross := row.segment.vol }
  | _, _ => none

variable (merchantId : String)

def ladderPieces (rows : List SegmentRow) : List LadderPiece :=
  (rows.filter fun row => row.account.merchantId = merchantId).filterMap SegmentRow.piece

def LadderPiece.sums (piece : LadderPiece) : CostSums :=
  (piece.segment.cost.pctBps * piece.gross, piece.segment.cost.fixed * piece.gross, piece.gross)

/-- The pieces that the blend of their ladder is made of. -/
def blendPieces (pieces : List LadderPiece) : List LadderPiece :=
  pieces.filter fun piece => piece.segment.good ∧ 0 < piece.gross

def sortedLadder (segments : List ServingSegment) : List ServingSegment :=
  segments.insertionSort fun first second => first.lo ≤ second.lo

variable (order : AssemblyOrder)

/-- The ladders that have a blend. -/
def segmentsFromTsv (pieces : List LadderPiece) :
    HashMap String SegmentedCost :=
  let raw := accumulate LadderPiece.key LadderPiece.sums (blendPieces pieces)
  let blends := finalize order.sums raw
  let ladders := gather LadderPiece.key LadderPiece.segment pieces
  collect ((order.ladders.entries ladders).filterMap fun entry =>
    (blends.lookup entry.1).bind fun blend =>
      if nonempty : sortedLadder entry.2 ≠ [] then
        some (entry.1,
          { segments := sortedLadder entry.2
            blend
            weight := ((raw.lookup entry.1).map fun sums => sums.2.2).getD 0
            nonempty })
      else none)

/-! ## Blends of the card products -/

/-- A cost under a key without the card product. -/
structure Member where
  displayKey : String
  w : ℚ
  cost : MemberCost

/-- The keys that a member is blended under, with its variant and without. -/
def Member.pushes (member : Member) : List (String × ℚ × MemberCost) :=
  if member.w ≤ 0 then []
  else
    (withoutVariant member.displayKey).toList.map (fun key => (key, member.w, member.cost)) ++
      [(member.displayKey, member.w, member.cost)]

/-- The models of a merchant in both tables. -/
def blendMembers (weights : HashMap String CostSums) (fine : HashMap String ServingCost)
    (segmented : HashMap String SegmentedCost) :
    List Member :=
  ((order.fine.entries fine).filterMap fun entry =>
    (rsplitOnce '|' entry.1).map fun display =>
      ⟨display.1, ((weights.lookup entry.1).map fun sums => sums.2.2).getD 0, .flat entry.2⟩) ++
  ((order.segmented.entries segmented).filterMap fun entry =>
    (rsplitOnce '|' entry.1).map fun display => ⟨display.1, entry.2.weight, .tiered entry.2⟩)

def blendOf (members : List (ℚ × MemberCost)) : FineBlend :=
  ⟨members, sumOf Prod.fst members⟩

def fineBlends (members : List Member) : HashMap String FineBlend :=
  let grouped := gather Prod.fst Prod.snd (members.flatMap Member.pushes)
  collect ((order.members.entries grouped).map fun entry => (entry.1, blendOf entry.2))

/-! ## The predictor -/

/-- Observations that a level of the predictor needs. -/
def minSupport : ℕ := 20

def PredictorRow.levelKeys (row : PredictorRow) : List String :=
  predictorLevelKeys row.cardNetwork row.variant row.funding row.issuerCountry row.band
    row.channel

/-- The rows of a merchant that count. -/
def countedRows (rows : List PredictorRow) : List PredictorRow :=
  rows.filter fun row => row.merchantId = merchantId ∧ row.c ≠ 0

/-- Count the row's category under a key. -/
def addCategory (level : HashMap String (HashMap String ℕ)) (key : String)
    (row : PredictorRow) : HashMap String (HashMap String ℕ) :=
  level.insert key (addAt ((level.lookup key).getD ∅) row.icCategory row.c)

/-- The categories that the keys of a level were seen with. -/
def levelCounts (level : ℕ) (rows : List PredictorRow) : HashMap String (HashMap String ℕ) :=
  rows.foldl (fun counts row => addCategory counts (row.levelKeys.getD level "") row) ∅

/-- The last of the most frequent categories. -/
def modalCategory (order : IterationOrder String ℕ) (categories : HashMap String ℕ) :
    Option String :=
  if sumOf Prod.snd (order.entries categories) < minSupport then none
  else (lastBest Prod.snd (order.entries categories)).map Prod.fst

def predictorTable (counts : HashMap String (HashMap String ℕ)) :
    HashMap String String :=
  collect ((order.levels.entries counts).filterMap fun entry =>
    (modalCategory (order.categories entry.1) entry.2).map fun category => (entry.1, category))

def predictorTables (rows : List PredictorRow) :
    List (HashMap String String) :=
  if rows.isEmpty then []
  else
    (List.range predictorLevels).map fun level => predictorTable order (levelCounts level rows)

/-! ## The models of a merchant -/

/-- The dimensions of an override of a cluster. -/
structure ClusterDims where
  connector : String
  cardNetwork : String
  variant : String
  funding : String
  issuerCountry : String
  currency : String
  icCategory : String
  deriving DecidableEq

/-- What is stored for a merchant beside the fitted models. -/
structure Overlays where
  overrides : List (String × ServingCost)
  clusterOverrides : List (ClusterDims × ServingCost)
  addons : List (String × ServingCost)

def Overlays.none : Overlays :=
  ⟨[], [], []⟩

def byConnector (costs : List (String × ServingCost)) : HashMap String ServingCost :=
  collect (costs.map fun entry => (LetterCase.toLowercase entry.1, entry.2))

def byCluster (costs : List (ClusterDims × ServingCost)) : HashMap String ServingCost :=
  collect (costs.map fun (dims, cost) =>
    (fineKey dims.connector dims.cardNetwork dims.variant dims.funding dims.issuerCountry
      dims.currency dims.icCategory, cost))

/-- The models of a merchant from the rows of the queries and what is stored beside them. -/
def buildModel (merchantId : String) (rows : ServingRows) (overlays : Overlays) : MerchantModels :=
  let own := weightedRows merchantId rows.cost
  let fineSums := accumulate CostRow.modelKey CostRow.sums own
  let fine := finalize order.sums fineSums
  let segmented := segmentsFromTsv order (ladderPieces merchantId rows.segments)
  { coarse := finalize order.sums (accumulate CostRow.coarseKey CostRow.sums own)
    fine
    segmented
    fineBlend := fineBlends order (blendMembers order fineSums fine segmented)
    predictor := predictorTables order (countedRows merchantId rows.predictor)
    overrides := byConnector overlays.overrides
    clusterOverrides := byCluster overlays.clusterOverrides
    addons := byConnector overlays.addons }

end Assembly

/-! ## Lookups -/

/-- What a decision asks the price for. -/
structure LookupRequest where
  connector : String
  network : String
  funding : String
  program : String
  currency : String
  issuer : String
  region : String
  channel : String
  wallet : String
  bin : String
  amount : ℚ

/-- The rung of the ladder that gave a price. -/
inductive Rung where
  | clusterOverride
  | connectorOverride
  | segmented
  | fine
  | fineBlend
  | coarse
  deriving DecidableEq

/-- The cluster that a request is predicted to be of. -/
structure PredictedCluster where
  key : String
  variant : String
  icCategory : String
  deriving DecidableEq

structure InhouseMatch where
  effectiveBps : ℚ
  pctBps : ℚ
  fixed : ℚ
  brand : String
  currency : String
  variant : Option String
  issuer : Option String
  icCategory : Option String

section Lookup

variable [LetterCase]

open LetterCase

variable (models : MerchantModels)

def predictCategory (network variant funding issuer : String) (band : Int) (channel : String) :
    Option String :=
  ((predictorLevelKeys network variant funding issuer band channel).zip
    models.predictor).findSome? fun (key, table) => table.lookup key

/-- The dominant card product of the issuer of a card. -/
def resolveBinProduct (binProduct : BinProductMap) (bin : String) : String :=
  if bin = "" then "" else (binProduct (binKey bin)).getD ""

def predictCluster [Rounding] (models : MerchantModels) (request : LookupRequest) :
    Option PredictedCluster :=
  if request.issuer = "" then none
  else
    let variant := reconstructVariant request.network request.program request.funding
      request.wallet
    (predictCategory models request.network variant request.funding request.issuer
      (amountBand request.amount) request.channel).map fun category =>
        ⟨fineKey request.connector request.network variant request.funding request.issuer
          request.currency category, variant, category⟩

/-- The first rung of a cluster that has a price. -/
def clusterRungs (addon : Option ServingCost) (cardProduct : String) (amount : ℚ) (key : String) :
    Option (Rung × ServingCost) :=
  let modelKey := fineKeyModel key cardProduct
  match models.segmented.lookup modelKey with
  | some ladder => some (.segmented, (ladder.forAmount amount).withAddon addon)
  | none =>
      match models.fine.lookup modelKey with
      | some cost => some (.fine, cost.withAddon addon)
      | none =>
          ((models.fineBlend.lookup key).or
            ((withoutVariant key).bind fun blanked => models.fineBlend.lookup blanked)).map
              fun blend => (.fineBlend, (blend.forAmount amount).withAddon addon)

/-- The rung that prices a request, and whether it is one of the predicted cluster. -/
def chooseRung (cardProduct : String) (request : LookupRequest) (fine : Option PredictedCluster) :
    Option (Rung × ServingCost) :=
  let connector := toLowercase request.connector
  match fine.bind fun cluster => models.clusterOverrides.lookup cluster.key with
  | some cost => some (.clusterOverride, cost)
  | none =>
      match models.overrides.lookup connector with
      | some cost => some (.connectorOverride, cost)
      | none =>
          let addon := models.addons.lookup connector
          match fine.bind fun cluster =>
            clusterRungs models addon cardProduct request.amount cluster.key with
          | some rung => some rung
          | none =>
              (models.coarse.lookup (coarseKey request.connector request.network
                request.funding request.currency request.region)).map fun cost =>
                  (.coarse, cost.withAddon addon)

/-- The rungs that name the predicted cluster. -/
def Rung.isOfCluster : Rung → Bool
  | .clusterOverride | .segmented | .fine | .fineBlend => true
  | .connectorOverride | .coarse => false

def inhouseMatch (request : LookupRequest) (fine : Option PredictedCluster)
    (rung : Rung × ServingCost) : InhouseMatch :=
  let named := if rung.1.isOfCluster then fine else none
  { effectiveBps := rung.2.effectiveCostBps request.amount
    pctBps := rung.2.pctBps
    fixed := rung.2.fixed
    brand := normalizeNetwork (toLowercase request.network)
    currency := toUppercase request.currency
    variant := named.map PredictedCluster.variant
    issuer := named.map fun _ => toUppercase request.issuer
    icCategory := named.map PredictedCluster.icCategory }

/-- The price of a request, and the rung that it comes from. -/
def lookup [Rounding] (models : MerchantModels) (binProduct : BinProductMap)
    (request : LookupRequest) : Option (Rung × InhouseMatch) :=
  let fine := predictCluster models request
  (chooseRung models (resolveBinProduct binProduct request.bin) request fine).map fun rung =>
    (rung.1, inhouseMatch request fine rung)

end Lookup

/-! ## The queries -/

/-- The account has no models of a later date. -/
def FeeModelRow.isLatest (rows : List FeeModelRow) (row : FeeModelRow) : Bool :=
  rows.all fun other => other.account = row.account → other.reportDate ≤ row.reportDate

/-- The good models of the latest date of each account. -/
def latestGood (rows : List FeeModelRow) : List FeeModelRow :=
  (final FeeModelRow.sortKey rows).filter fun row =>
    row.verdict = .good ∧ 0 < row.grossSum ∧ row.isLatest rows

/-- The columns of the cost query that its rows are grouped by. -/
structure CostKey where
  merchantId : String
  connector : String
  cluster : ClusterKey
  deriving DecidableEq

def FeeModelRow.costKey (row : FeeModelRow) : CostKey :=
  ⟨row.account.merchantId, row.account.connector, row.cluster⟩

/-- The sum of a product over the rows that have its first factor. -/
def weightedSum (rate : FeeModelRow → Option ℚ) (rows : List FeeModelRow) : Option ℚ :=
  let rated := rows.filterMap fun row => (rate row).map fun value => value * row.grossSum
  if rated.isEmpty then none else some rated.sum

def costSql (rows : List FeeModelRow) : List CostRow :=
  let good := latestGood rows
  (groupKeys FeeModelRow.costKey good).map fun key =>
    let own := rowsOf FeeModelRow.costKey good key
    { merchantId := key.merchantId
      connector := key.connector
      cluster := key.cluster
      pctNum := weightedSum FeeModelRow.pctBps own
      fixedNum := weightedSum FeeModelRow.fixed own
      w := sumOf FeeModelRow.grossSum own }

/-- The columns of the predictor query that its rows are grouped by. -/
structure PredictorKey where
  merchantId : String
  cardNetwork : String
  variant : String
  funding : String
  issuerCountry : String
  band : Int
  channel : String
  icCategory : String
  deriving DecidableEq

def DailyStat.predictorKey (row : DailyStat) : PredictorKey :=
  ⟨row.account.merchantId, row.bucket.cluster.cardNetwork, row.bucket.cluster.variant,
    row.bucket.cluster.funding, row.bucket.cluster.issuerCountry, row.bucket.band,
    row.bucket.channel, row.bucket.cluster.icCategory⟩

def predictorSql (rows : List DailyStat) : List PredictorRow :=
  (groupSum DailyStat.predictorKey (fun row => row.stats.n) (final DailyStat.sortKey rows)).map
    fun (key, n) =>
      { merchantId := key.merchantId
        cardNetwork := key.cardNetwork
        variant := key.variant
        funding := key.funding
        issuerCountry := key.issuerCountry
        band := key.band
        channel := key.channel
        icCategory := key.icCategory
        c := ⌊n⌋.toNat }

/-- What the queries return for a merchant. -/
def servingRows (merchantId : String) (tables : CostTables) : ServingRows :=
  { cost := costSql tables.feeModel
    predictor := predictorSql tables.dailyStats
    segments := segmentSql merchantId tables.segments }

end DecisionEngine.CostIngestion
