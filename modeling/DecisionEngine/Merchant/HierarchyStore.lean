import DecisionEngine.Json.Record

/-!
# The stored tree of merchants

A scope is a row of the merchant accounts; its ancestry, the merchant and the organisation
above it, is kept in the row's metadata.  The lists of the scopes of a merchant, of the
merchants of an organisation and of the organisations are entries of the configuration table.
What cannot be read counts as absent.
-/

namespace DecisionEngine.Merchant

open Json

/-- `HIERARCHY_SHAPE_VERSION`. -/
def shapeVersion : Nat := 1

theorem smallNumber_shapeVersion :
    smallNumber shapeVersion (some (.int shapeVersion)) = some shapeVersion :=
  rfl

/-! ## Ancestry -/

/-- The ancestry of a scope. -/
structure Hierarchy where
  v : Nat
  hsOrgId : String
  hsOrgName : Option String
  hsMerchantId : String
  hsMerchantName : Option String
  profileName : Option String
  syncedAt : Option String
  deriving DecidableEq

def Hierarchy.names : List String :=
  ["v", "hs_org_id", "hs_org_name", "hs_merchant_id", "hs_merchant_name", "profile_name",
    "synced_at"]

def Hierarchy.fields (hierarchy : Hierarchy) : List (String × Value) :=
  [("v", .int hierarchy.v), ("hs_org_id", .string hierarchy.hsOrgId)] ++
    optionalField "hs_org_name" hierarchy.hsOrgName ++
    [("hs_merchant_id", .string hierarchy.hsMerchantId)] ++
    optionalField "hs_merchant_name" hierarchy.hsMerchantName ++
    optionalField "profile_name" hierarchy.profileName ++
    optionalField "synced_at" hierarchy.syncedAt

def Hierarchy.ofFields (fields : List (String × Value)) : Option Hierarchy := do
  let v ← smallNumber shapeVersion (lookupField "v" fields)
  let hsOrgId ← (lookupField "hs_org_id" fields).bind Value.asString
  let hsOrgName ← optionalText (lookupField "hs_org_name" fields)
  let hsMerchantId ← (lookupField "hs_merchant_id" fields).bind Value.asString
  let hsMerchantName ← optionalText (lookupField "hs_merchant_name" fields)
  let profileName ← optionalText (lookupField "profile_name" fields)
  let syncedAt ← optionalText (lookupField "synced_at" fields)
  pure ⟨v, hsOrgId, hsOrgName, hsMerchantId, hsMerchantName, profileName, syncedAt⟩

/-- The fields of an ancestry are read in either order. -/
theorem Hierarchy.ofFields_fields {hierarchy : Hierarchy} (small : hierarchy.v < 2 ^ 32) :
    Hierarchy.ofFields hierarchy.fields = some hierarchy ∧
      Hierarchy.ofFields hierarchy.fields.reverse = some hierarchy := by
  rcases hierarchy with
    ⟨v, orgId, _ | orgName, merchantId, _ | merchantName, _ | profileName, _ | syncedAt⟩ <;>
  · have number := smallNumber_natCast shapeVersion small
    simp [Hierarchy.ofFields, Hierarchy.fields, optionalField, lookupField, number,
      Value.asString, optionalText]

/-- No field of an ancestry is written twice. -/
theorem Hierarchy.recordFields_fields (hierarchy : Hierarchy) :
    recordFields Hierarchy.names (.object hierarchy.fields) = some hierarchy.fields := by
  rcases hierarchy with
    ⟨v, orgId, _ | orgName, merchantId, _ | merchantName, _ | profileName, _ | syncedAt⟩ <;>
  simp [recordFields, Hierarchy.names, Hierarchy.fields, optionalField]

/-- The ancestry in a value under the key of the metadata. -/
def readHierarchy (value : Value) : Option Hierarchy :=
  (valueFields Hierarchy.names value).bind Hierarchy.ofFields

def fromInternalMetadata : Option StoredText → Option Hierarchy
  | some (.json (.object fields)) => (lookupField "hierarchy" fields.reverse).bind readHierarchy
  | _ => none

/-- The other fields of the metadata, if it can be read as metadata; the last of a name
counts. -/
def otherMetadata : Option StoredText → List (String × Value)
  | some (.json (.object fields)) =>
      match recordFields ["hierarchy"] (.object fields) with
      | none => []
      | some fields =>
          if (lookupField "hierarchy" fields).all fun node =>
              node.isNull ||
                ((recordFields Hierarchy.names node).bind Hierarchy.ofFields).isSome then
            (fields.filter fun field => field.1 ≠ "hierarchy").foldl
              (fun set field => setField field.1 field.2 set) []
          else []
  | _ => []

variable (existing : Option StoredText)

/-- The metadata with another ancestry. -/
def mergeIntoMetadata (hierarchy : Hierarchy) : StoredText :=
  .json (.object (("hierarchy", .object hierarchy.fields) :: otherMetadata existing))

theorem lookupField_otherMetadata :
    lookupField "hierarchy" (otherMetadata existing) = none := by
  unfold otherMetadata
  split
  · split
    · rfl
    · next fields _ =>
        split
        · have last := Value.get_ofFields (fields.filter fun field => field.1 ≠ "hierarchy")
            "hierarchy"
          refine last.trans (lookupField_eq_none_iff.mpr fun field listed => ?_)
          simpa using (List.mem_filter.mp (List.mem_reverse.mp listed)).2
        · rfl
  · rfl

/-- The ancestry that is written is read. -/
theorem fromInternalMetadata_mergeIntoMetadata {hierarchy : Hierarchy}
    (small : hierarchy.v < 2 ^ 32) :
    fromInternalMetadata (some (mergeIntoMetadata existing hierarchy)) = some hierarchy := by
  have others : lookupField "hierarchy" (otherMetadata existing).reverse = none :=
    lookupField_eq_none_iff.mpr fun field listed =>
      lookupField_eq_none_iff.mp (lookupField_otherMetadata existing) field
        (List.mem_reverse.mp listed)
  rw [mergeIntoMetadata, fromInternalMetadata, List.reverse_cons, lookupField_append, others]
  exact (Hierarchy.ofFields_fields small).2

/-! ## Lossless merges -/

/-- What a text has under a key, if it is an object; the last of a name counts. -/
def topLevel (key : String) : Option StoredText → Option Value
  | some (.json (.object fields)) => lookupField key fields.reverse
  | _ => none

/-- The ancestry in metadata is at most one, and is null or one that can be read. -/
def ReadableEnvelope (fields : List (String × Value)) : Prop :=
  (fields.filter fun field => field.1 = "hierarchy").length ≤ 1 ∧
    ∀ node, lookupField "hierarchy" fields = some node → node.isNull = true ∨
      ((recordFields Hierarchy.names node).bind Hierarchy.ofFields).isSome = true

/-- What a merge promises: the ancestry is read back, the other keys keep their values, and
another merge changes nothing. -/
structure LosslessMerge (existing : Option StoredText) (hierarchy : Hierarchy) : Prop where
  readBack : fromInternalMetadata (some (mergeIntoMetadata existing hierarchy)) = some hierarchy
  others : ∀ key, key ≠ "hierarchy" →
    topLevel key (some (mergeIntoMetadata existing hierarchy)) = topLevel key existing
  again : mergeIntoMetadata (some (mergeIntoMetadata existing hierarchy)) hierarchy =
    mergeIntoMetadata existing hierarchy

theorem otherMetadata_object (fields : List (String × Value))
    [Decidable (ReadableEnvelope fields)] :
    otherMetadata (some (.json (.object fields))) =
      if ReadableEnvelope fields then
        setFields (fields.filter fun field => field.1 ≠ "hierarchy")
      else [] := by
  unfold otherMetadata
  by_cases once : (fields.filter fun field => field.1 = "hierarchy").length ≤ 1
  · have read : recordFields ["hierarchy"] (.object fields) = some fields := by
      simp [recordFields, once]
    have readable : ReadableEnvelope fields ↔
        (lookupField "hierarchy" fields).all (fun node => node.isNull ||
          ((recordFields Hierarchy.names node).bind Hierarchy.ofFields).isSome) = true := by
      rw [ReadableEnvelope, and_iff_right once]
      cases lookupField "hierarchy" fields <;> simp
    simp only [read, readable]
    rfl
  · have unread : recordFields ["hierarchy"] (.object fields) = none := by
      simp [recordFields, not_le.mp once]
    have unreadable : ¬ReadableEnvelope fields := fun readable => once readable.1
    simp only [unread, if_neg unreadable]

theorem sortedFields_otherMetadata :
    SortedFields (otherMetadata existing) := by
  classical
  rcases existing with _ | value | text
  · exact List.Pairwise.nil
  · cases value with
    | object fields =>
        rw [otherMetadata_object]
        split
        · exact sortedFields_setFields
        · exact List.Pairwise.nil
    | _ => exact List.Pairwise.nil
  · exact List.Pairwise.nil

/-- The metadata that are written can be read as metadata, with the same other fields. -/
theorem otherMetadata_mergeIntoMetadata {hierarchy : Hierarchy} (small : hierarchy.v < 2 ^ 32) :
    otherMetadata (some (mergeIntoMetadata existing hierarchy)) = otherMetadata existing := by
  classical
  have others : ∀ field ∈ otherMetadata existing, field.1 ≠ "hierarchy" :=
    lookupField_eq_none_iff.mp (lookupField_otherMetadata existing)
  have noHierarchy : ((otherMetadata existing).filter fun field => field.1 = "hierarchy") = [] :=
    List.filter_eq_nil_iff.mpr fun field listed => by simpa using others field listed
  have sameFields : ((otherMetadata existing).filter fun field => field.1 ≠ "hierarchy") =
      otherMetadata existing :=
    List.filter_eq_self.mpr fun field listed => by simpa using others field listed
  have readable :
      ReadableEnvelope (("hierarchy", .object hierarchy.fields) :: otherMetadata existing) := by
    constructor
    · rw [List.filter_cons_of_pos (by simp), noHierarchy]
      rfl
    · intro node found
      rw [lookupField, if_pos rfl, Option.some.injEq] at found
      rw [← found, Hierarchy.recordFields_fields, Option.bind_some,
        (Hierarchy.ofFields_fields small).1]
      exact .inr rfl
  rw [mergeIntoMetadata, otherMetadata_object, if_pos readable,
    List.filter_cons_of_neg (by simp), sameFields]
  exact setFields_of_sorted (sortedFields_otherMetadata existing)

theorem topLevel_mergeIntoMetadata (hierarchy : Hierarchy) {key : String}
    (other : key ≠ "hierarchy") :
    topLevel key (some (mergeIntoMetadata existing hierarchy)) =
      lookupField key (otherMetadata existing) := by
  rw [mergeIntoMetadata, topLevel, List.reverse_cons, lookupField_append, lookupField,
    if_neg other.symm, lookupField, Option.or_none,
    (sortedFields_otherMetadata existing).lookupField_reverse]

/-- A merge is lossless when the metadata can be read as such, or have nothing else. -/
theorem losslessMerge_iff {hierarchy : Hierarchy} (small : hierarchy.v < 2 ^ 32) :
    LosslessMerge existing hierarchy ↔ ∀ fields, existing = some (.json (.object fields)) →
      ReadableEnvelope fields ∨ ∀ field ∈ fields, field.1 = "hierarchy" := by
  classical
  constructor
  · rintro ⟨-, others, -⟩ fields rfl
    by_cases readable : ReadableEnvelope fields
    · exact .inl readable
    · refine .inr fun field listed => ?_
      by_contra other
      have kept := others field.1 other
      rw [topLevel_mergeIntoMetadata _ _ other, otherMetadata_object, if_neg readable] at kept
      have lost := lookupField_eq_none_iff.mp kept.symm field (List.mem_reverse.mpr listed)
      exact lost rfl
  · intro condition
    refine ⟨fromInternalMetadata_mergeIntoMetadata existing small, ?_, ?_⟩
    · intro key other
      rw [topLevel_mergeIntoMetadata _ _ other]
      rcases existing with _ | value | text
      · rfl
      · cases value with
        | object fields =>
            rw [otherMetadata_object, topLevel]
            rcases condition fields rfl with readable | onlyHierarchy
            · rw [if_pos readable, lookupField_setFields, ← List.filter_reverse,
                lookupField_filter]
              intro field _ isKey
              simpa [isKey] using other
            · have absent : lookupField key fields.reverse = none :=
                lookupField_eq_none_iff.mpr fun field listed isKey =>
                  other (isKey.symm.trans (onlyHierarchy field (List.mem_reverse.mp listed)))
              have nothing : fields.filter (fun field => field.1 ≠ "hierarchy") = [] :=
                List.filter_eq_nil_iff.mpr fun field listed => by
                  simpa using onlyHierarchy field listed
              rw [absent, nothing]
              split <;> rfl
        | _ => rfl
      · rfl
    · rw [mergeIntoMetadata, otherMetadata_mergeIntoMetadata existing small]
      rfl

/-- The ancestry of a scope of an organisation `o`. -/
def sampleHierarchy : Hierarchy :=
  ⟨1, "o", none, "m", none, none, none⟩

theorem losslessMerge_sample :
    LosslessMerge (some (.json (.object [("theme", .string "dark")]))) sampleHierarchy ↔
      ∀ fields, some (StoredText.json (.object [("theme", .string "dark")])) =
          some (.json (.object fields)) →
        ReadableEnvelope fields ∨ ∀ field ∈ fields, field.1 = "hierarchy" :=
  losslessMerge_iff _ (by decide)

/-- An ancestry without its organisation takes the other metadata with it. -/
theorem losslessMerge_counterexample :
    ¬LosslessMerge
      (some (.json (.object [("hierarchy", .object [("v", .int 1)]), ("theme", .string "dark")])))
      sampleHierarchy := by
  rintro ⟨-, others, -⟩
  have kept := others "theme" (by decide)
  simp [topLevel, mergeIntoMetadata, otherMetadata, recordFields, Hierarchy.names, lookupField,
    Value.isNull, Hierarchy.ofFields, smallNumber, sampleHierarchy, Hierarchy.fields,
    optionalField] at kept

/-! ## Index entries -/

/-- The organisations. -/
structure OrgIndex where
  v : Nat
  orgIds : List String

/-- The merchants of an organisation. -/
structure OrgEntry where
  v : Nat
  orgName : Option String
  merchantIds : List String

/-- The scopes of a merchant. -/
structure MerchantEntry where
  v : Nat
  merchantName : Option String
  hsOrgId : Option String
  profileIds : List String

def OrgIndex.toValue (entry : OrgIndex) : Value :=
  .object [("v", .int entry.v), ("org_ids", texts entry.orgIds)]

def OrgIndex.ofValue (value : Value) : Option OrgIndex := do
  let fields ← recordFields ["v", "org_ids"] value
  let v ← smallNumber shapeVersion (lookupField "v" fields)
  let orgIds ← textList (lookupField "org_ids" fields)
  pure ⟨v, orgIds⟩

def OrgEntry.toValue (entry : OrgEntry) : Value :=
  .object ([("v", .int entry.v)] ++ optionalField "org_name" entry.orgName ++
    [("merchant_ids", texts entry.merchantIds)])

def OrgEntry.ofValue (value : Value) : Option OrgEntry := do
  let fields ← recordFields ["v", "org_name", "merchant_ids"] value
  let v ← smallNumber shapeVersion (lookupField "v" fields)
  let orgName ← optionalText (lookupField "org_name" fields)
  let merchantIds ← textList (lookupField "merchant_ids" fields)
  pure ⟨v, orgName, merchantIds⟩

def MerchantEntry.toValue (entry : MerchantEntry) : Value :=
  .object ([("v", .int entry.v)] ++ optionalField "merchant_name" entry.merchantName ++
    optionalField "hs_org_id" entry.hsOrgId ++ [("profile_ids", texts entry.profileIds)])

def MerchantEntry.ofValue (value : Value) : Option MerchantEntry := do
  let fields ← recordFields ["v", "merchant_name", "hs_org_id", "profile_ids"] value
  let v ← smallNumber shapeVersion (lookupField "v" fields)
  let merchantName ← optionalText (lookupField "merchant_name" fields)
  let hsOrgId ← optionalText (lookupField "hs_org_id" fields)
  let profileIds ← textList (lookupField "profile_ids" fields)
  pure ⟨v, merchantName, hsOrgId, profileIds⟩

theorem OrgIndex.ofValue_toValue (entry : OrgIndex) (current : entry.v = shapeVersion) :
    OrgIndex.ofValue entry.toValue = some entry := by
  rcases entry with ⟨v, orgIds⟩
  subst current
  simp [OrgIndex.ofValue, OrgIndex.toValue, recordFields, lookupField, smallNumber_shapeVersion]

theorem OrgEntry.ofValue_toValue (entry : OrgEntry) (current : entry.v = shapeVersion) :
    OrgEntry.ofValue entry.toValue = some entry := by
  rcases entry with ⟨v, _ | orgName, merchantIds⟩ <;>
  · subst current
    simp [OrgEntry.ofValue, OrgEntry.toValue, optionalField, recordFields, lookupField,
      smallNumber_shapeVersion, optionalText]

theorem MerchantEntry.ofValue_toValue (entry : MerchantEntry) (current : entry.v = shapeVersion) :
    MerchantEntry.ofValue entry.toValue = some entry := by
  rcases entry with ⟨v, _ | merchantName, _ | hsOrgId, profileIds⟩ <;>
  · subst current
    simp [MerchantEntry.ofValue, MerchantEntry.toValue, optionalField, recordFields, lookupField,
      smallNumber_shapeVersion, optionalText]

/-! ## The tables -/

/-- A row of `merchant_account` that has a merchant id, which is the id of the scope. -/
structure MerchantAccount where
  merchantId : String
  internalMetadata : Option StoredText

/-- The merchant accounts, and the values of the configurations by name. -/
structure Stored where
  accounts : List MerchantAccount
  configs : String → Option (Option StoredText)

/-- What the value of a configuration says, if there is one that can be read. -/
def readText {α : Type} (ofValue : Value → Option α) : Option (Option StoredText) → Option α
  | some (some (.json value)) => ofValue value
  | _ => none

def MerchantAccount.hierarchy (account : MerchantAccount) : Option Hierarchy :=
  fromInternalMetadata account.internalMetadata

namespace Stored

variable (stored : Stored)

/-- The last row of a scope. -/
def loadMerchantByMerchantId (merchantId : String) : Option MerchantAccount :=
  (stored.accounts.filter fun account => account.merchantId = merchantId).getLast?

def insertMerchantAccount (merchantId : String) : Stored :=
  { stored with accounts := stored.accounts ++ [⟨merchantId, none⟩] }

/-- Write the ancestry of a scope into its rows; the other metadata are those of the last
row. -/
def updateMerchantHierarchy (merchantId : String) (hierarchy : Hierarchy) : Stored :=
  let existing := (stored.loadMerchantByMerchantId merchantId).bind
    MerchantAccount.internalMetadata
  { stored with
    accounts := stored.accounts.map fun account =>
      if account.merchantId = merchantId then
        { account with internalMetadata := some (mergeIntoMetadata existing hierarchy) }
      else account }

/-- The ancestry that a scope's row names. -/
def ancestry (merchantId : String) : Option Hierarchy :=
  (stored.loadMerchantByMerchantId merchantId).bind MerchantAccount.hierarchy

def readEntry {α : Type} (ofValue : Value → Option α) (name : String) : Option α :=
  readText ofValue (stored.configs name)

def writeEntry (name : String) (value : Value) : Stored :=
  { stored with configs := Function.update stored.configs name (some (some (.json value))) }

end Stored

def orgIndexKey : String := "HIERARCHY_ORG_INDEX"

def orgKey (hsOrgId : String) : String := "HIERARCHY_ORG_" ++ hsOrgId

def merchantKey (hsMerchantId : String) : String := "HIERARCHY_MERCHANT_" ++ hsMerchantId

namespace Stored

variable (stored : Stored)

def loadOrgIndex : Option OrgIndex :=
  stored.readEntry OrgIndex.ofValue orgIndexKey

def loadOrg (hsOrgId : String) : Option OrgEntry :=
  stored.readEntry OrgEntry.ofValue (orgKey hsOrgId)

def loadMerchant (hsMerchantId : String) : Option MerchantEntry :=
  stored.readEntry MerchantEntry.ofValue (merchantKey hsMerchantId)

def storeOrgIndex (entry : OrgIndex) : Stored :=
  stored.writeEntry orgIndexKey entry.toValue

def storeOrg (hsOrgId : String) (entry : OrgEntry) : Stored :=
  stored.writeEntry (orgKey hsOrgId) entry.toValue

def storeMerchant (hsMerchantId : String) (entry : MerchantEntry) : Stored :=
  stored.writeEntry (merchantKey hsMerchantId) entry.toValue

end Stored

/-- The scopes that a merchant's entry lists. -/
def listedProfiles (stored : Stored) (hsMerchantId : String) : List String :=
  ((stored.loadMerchant hsMerchantId).map MerchantEntry.profileIds).getD []

/-- The merchants that an organisation's entry lists. -/
def listedMerchants (stored : Stored) (hsOrgId : String) : List String :=
  ((stored.loadOrg hsOrgId).map OrgEntry.merchantIds).getD []

/-- The organisations that are listed. -/
def listedOrgs (stored : Stored) : List String :=
  (stored.loadOrgIndex.map OrgIndex.orgIds).getD []

/-! ## The names of the entries -/

theorem orgIndexKey_eq : orgIndexKey = orgKey "INDEX" := by
  simp [orgIndexKey, orgKey]

/-- An organisation can have the name of the list of the organisations. -/
theorem orgKey_eq_orgIndexKey_iff {hsOrgId : String} :
    orgKey hsOrgId = orgIndexKey ↔ hsOrgId = "INDEX" := by
  rw [orgIndexKey_eq]
  exact String.append_right_inj _

/-- The two kinds of names differ in their eleventh letter. -/
theorem merchantKey_ne_orgKey (hsMerchantId hsOrgId : String) :
    merchantKey hsMerchantId ≠ orgKey hsOrgId := by
  change "HIERARCHY_MERCHANT_" ++ hsMerchantId ≠ "HIERARCHY_ORG_" ++ hsOrgId
  intro same
  have letters := congrArg (fun text => text.toList[10]?) same
  rw [String.toList_append, String.toList_append,
    List.getElem?_append_left (by decide), List.getElem?_append_left (by decide)] at letters
  exact absurd letters (by decide)

theorem merchantKey_ne_orgIndexKey (hsMerchantId : String) :
    merchantKey hsMerchantId ≠ orgIndexKey := by
  rw [orgIndexKey_eq]
  exact merchantKey_ne_orgKey hsMerchantId "INDEX"

/-! ## Rows and their ancestry -/

section Rows

variable {stored : Stored} {merchantId other : String}

theorem merchantId_of_load {account : MerchantAccount}
    (loaded : stored.loadMerchantByMerchantId merchantId = some account) :
    account.merchantId = merchantId := by
  have listed := List.mem_of_getLast? loaded
  simpa using (List.mem_filter.mp listed).2

theorem load_updateMerchantHierarchy (hierarchy : Hierarchy) :
    (stored.updateMerchantHierarchy merchantId hierarchy).loadMerchantByMerchantId other =
      (stored.loadMerchantByMerchantId other).map fun account =>
        if account.merchantId = merchantId then
          { account with
            internalMetadata := some (mergeIntoMetadata
              ((stored.loadMerchantByMerchantId merchantId).bind MerchantAccount.internalMetadata)
              hierarchy) }
        else account := by
  rw [Stored.loadMerchantByMerchantId, Stored.updateMerchantHierarchy]
  dsimp only
  rw [List.filter_map, List.getLast?_map]
  congr 2
  apply List.filter_congr
  intro account _
  rw [Function.comp_apply]
  split <;> rfl

/-- A scope that has a row has the ancestry that was written. -/
theorem ancestry_update_self {hierarchy : Hierarchy} (current : hierarchy.v = shapeVersion)
    (isStored : (stored.loadMerchantByMerchantId merchantId).isSome = true) :
    (stored.updateMerchantHierarchy merchantId hierarchy).ancestry merchantId = some hierarchy := by
  rcases Option.isSome_iff_exists.mp isStored with ⟨account, loaded⟩
  rw [Stored.ancestry, load_updateMerchantHierarchy, loaded, Option.map_some, Option.bind_some,
    if_pos (merchantId_of_load loaded)]
  exact fromInternalMetadata_mergeIntoMetadata _ (current ▸ by decide)

theorem ancestry_update_of_ne (hierarchy : Hierarchy) (different : other ≠ merchantId) :
    (stored.updateMerchantHierarchy merchantId hierarchy).ancestry other =
      stored.ancestry other := by
  rw [Stored.ancestry, load_updateMerchantHierarchy, Stored.ancestry]
  cases loaded : stored.loadMerchantByMerchantId other with
  | none => rfl
  | some account =>
      have isOther := merchantId_of_load loaded
      rw [Option.map_some, if_neg (isOther ▸ different)]

theorem load_insertMerchantAccount_self :
    (stored.insertMerchantAccount merchantId).loadMerchantByMerchantId merchantId =
      some ⟨merchantId, none⟩ := by
  rw [Stored.loadMerchantByMerchantId, Stored.insertMerchantAccount, List.filter_append]
  simp

theorem ancestry_insert_of_ne (different : other ≠ merchantId) :
    (stored.insertMerchantAccount merchantId).ancestry other = stored.ancestry other := by
  rw [Stored.ancestry, Stored.loadMerchantByMerchantId, Stored.insertMerchantAccount,
    List.filter_append, List.filter_cons_of_neg (by simpa using different.symm), List.filter_nil,
    List.append_nil]
  rfl

end Rows

end DecisionEngine.Merchant
