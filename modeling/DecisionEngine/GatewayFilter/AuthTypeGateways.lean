import DecisionEngine.GatewayFilter.Pipeline
import DecisionEngine.Json.Codec
import Mathlib.Data.Set.List

/-!
# The gateways of the authentication types

Two filters read one document that lists gateways for authentication types.  One reads it as
an object with a field for each authentication type, the other as an array of pairs, and each
goes on without the list when the document is not of its form.
-/

namespace DecisionEngine.GatewayFilter

open Scoring Json

/-! ## The two readings -/

def allAuthTypes : List AuthType :=
  [.atmpin, .threeDs, .threeDs2, .otp, .oboOtp, .vies, .noThreeDs, .networkToken, .moto, .fido,
    .ctp]

/-- The name in documents, which is not the text of the second version of 3DS. -/
def authTypeVariant : AuthType → String
  | .threeDs2 => "THREE_DS2"
  | authType => authTypeToText authType

def authTypeCodec : Codec AuthType :=
  .variants authTypeVariant allAuthTypes fun authType => by
    cases authType <;> rfl

def gatewaysCodec : Codec (List Gateway) :=
  .list .string

def readAuthTypeEntry (authType gws : Value) : Option (AuthType × List Gateway) := do
  let authType ← authTypeCodec.read authType
  let gws ← gatewaysCodec.read gws
  return (authType, gws)

/-- Of the fields of one name the last counts. -/
def readGatewaysByAuthType : Value → Option (List (AuthType × List Gateway))
  | .object fields =>
      (fields.mapM fun field => readAuthTypeEntry (.string field.1) field.2).map List.reverse
  | _ => none

def readAuthTypePair : Value → Option (AuthType × List Gateway)
  | .array [authType, gws] => readAuthTypeEntry authType gws
  | _ => none

def readGatewaysOfAuthTypes : Value → Option (List (AuthType × List Gateway))
  | .array pairs => pairs.mapM readAuthTypePair
  | _ => none

section Stored

/- The documents of texts, with all fields of an object in the order of the text, and the
texts of the service configuration. -/
variable (parse : String → Option Value) (stored : String → Option String)

def extractValue {α : Type} (read : Value → Option α) (value : String) : Option α :=
  (parse value).bind read

/-- The two readings of the texts that are stored. -/
def Configs.decode (configs : Configs) : Configs :=
  { configs with
    gatewaysByAuthType := fun name =>
      (stored name).bind (extractValue parse readGatewaysByAuthType)
    gatewaysOfAuthTypes := fun name =>
      (stored name).bind (extractValue parse readGatewaysOfAuthTypes) }

end Stored

section Filters

variable (reads : Reads)

/-- The gateways that the filter of payments without the security code finds. -/
def mappedGateways (authType : AuthType) : Option (List Gateway) :=
  ((reads.configs.gatewaysByAuthType "AUTH_TYPE_RESTRICTED_GATEWAYS").getD []).lookup authType

/-- The gateways that the filter of authentication types finds. -/
def pairedGateways (authType : AuthType) : Option (List Gateway) :=
  ((reads.configs.gatewaysOfAuthTypes "AUTH_TYPE_RESTRICTED_GATEWAYS").getD []).reverse.lookup
    authType

/-- The two filters find the same gateways for each authentication type, or both find none. -/
def SameGateways : Prop :=
  ∀ authType, mappedGateways reads authType = pairedGateways reads authType

variable {reads} {params : DeciderParams} {authType : AuthType}

theorem filterForMoto_eq (isAuthType : params.dpTxnCardInfo.authType = some authType)
    (state : DeciderState) :
    filterForMoto reads params state =
      setGws (state.functionalGateways.filter
        ((mappedGateways reads authType).getD []).contains) state := by
  rw [filterForMoto, isAuthType]
  rfl

/-- A restricted authentication type is supported by the gateways that are found for it. -/
theorem isAuthTypeSupportedGateway_of_paired {gws : List Gateway}
    (isAuthType : params.dpTxnCardInfo.authType = some authType)
    (isPaired : pairedGateways reads authType = some gws) (gateway : Gateway) :
    isAuthTypeSupportedGateway reads params gateway = gws.contains gateway := by
  rw [pairedGateways] at isPaired
  simp only [isAuthTypeSupportedGateway, isAuthType, Option.bind_some, isPaired]

end Filters

/-! ## Documents of the two forms -/

section Forms

def IsAuthType (value : Value) : Prop :=
  ∃ authType, value = .string (authTypeVariant authType) ∨
    value = .object [(authTypeVariant authType, .null)]

def IsEntry (authType gws : Value) : Prop :=
  IsAuthType authType ∧ ∃ names : List String, gws = .array (names.map .string)

/-- An object whose fields are named by authentication types and list gateways. -/
def IsAuthTypeObject (document : Value) : Prop :=
  ∃ fields, document = .object fields ∧ fields ≠ [] ∧
    ∀ field ∈ fields, IsEntry (.string field.1) field.2

/-- An array of pairs of an authentication type and a list of gateways. -/
def IsAuthTypePairs (document : Value) : Prop :=
  ∃ pairs, document = .array pairs ∧ pairs ≠ [] ∧
    ∀ pair ∈ pairs, ∃ authType gws, pair = .array [authType, gws] ∧ IsEntry authType gws

theorem isSome_mapM_iff {α β : Type} {read : α → Option β} {items : List α} :
    (items.mapM read).isSome ↔ ∀ item ∈ items, (read item).isSome := by
  induction items with
  | nil => simp
  | cons item items ih =>
      rw [List.mapM_cons, List.forall_mem_cons, ← ih]
      cases read item <;> cases items.mapM read <;> simp

theorem length_of_mapM {α β : Type} {read : α → Option β} {items : List α} {results : List β}
    (isRead : items.mapM read = some results) : results.length = items.length := by
  induction items generalizing results with
  | nil =>
      cases isRead
      rfl
  | cons item items ih =>
      rw [List.mapM_cons] at isRead
      cases first : read item with
      | none => simp [first] at isRead
      | some result =>
          cases others : items.mapM read with
          | none => simp [first, others] at isRead
          | some rest =>
              simp only [first, others, Option.bind_eq_bind, Option.bind_some,
                Option.pure_def, Option.some_inj] at isRead
              rw [← isRead, List.length_cons, List.length_cons, ih others]

theorem isSome_read_authTypeCodec_iff {value : Value} :
    (authTypeCodec.read value).isSome ↔ IsAuthType value := by
  constructor
  · intro isRead
    rcases Option.isSome_iff_exists.mp isRead with ⟨authType, found⟩
    refine ⟨authType, ?_⟩
    simp only [authTypeCodec, Codec.variants] at found
    split at found
    · next text =>
        have named := List.find?_some found
        exact Or.inl (congrArg Value.string (of_decide_eq_true named).symm)
    · next text =>
        have named := List.find?_some found
        exact Or.inr (by rw [of_decide_eq_true named])
    · cases found
  · rintro ⟨authType, rfl | rfl⟩
    · cases authType <;> rfl
    · cases authType <;> rfl

theorem isSome_read_gatewaysCodec_iff {value : Value} :
    (gatewaysCodec.read value).isSome ↔
      ∃ names : List String, value = .array (names.map .string) := by
  constructor
  · intro isRead
    cases value with
    | array values =>
        have texts := isSome_mapM_iff.mp isRead
        have written : values ∈ Set.range (List.map Value.string) := by
          rw [Set.range_list_map]
          intro value listed
          have isText := texts value listed
          cases value with
          | string name => exact ⟨name, rfl⟩
          | _ => cases isText
        rcases written with ⟨names, rfl⟩
        exact ⟨names, rfl⟩
    | _ => cases isRead
  · rintro ⟨names, rfl⟩
    exact Option.isSome_iff_exists.mpr ⟨names, gatewaysCodec.exact names⟩

theorem isSome_readAuthTypeEntry_iff {authType gws : Value} :
    (readAuthTypeEntry authType gws).isSome ↔ IsEntry authType gws := by
  rw [IsEntry, ← isSome_read_authTypeCodec_iff, ← isSome_read_gatewaysCodec_iff,
    readAuthTypeEntry]
  cases authTypeCodec.read authType <;> cases gatewaysCodec.read gws <;> simp

theorem isSome_readAuthTypePair_iff {pair : Value} :
    (readAuthTypePair pair).isSome ↔
      ∃ authType gws, pair = .array [authType, gws] ∧ IsEntry authType gws := by
  constructor
  · intro isRead
    unfold readAuthTypePair at isRead
    split at isRead
    · next authType gws =>
        exact ⟨authType, gws, rfl, isSome_readAuthTypeEntry_iff.mp isRead⟩
    · cases isRead
  · rintro ⟨authType, gws, rfl, isEntry⟩
    exact isSome_readAuthTypeEntry_iff.mpr isEntry

/-- A list of entries finds something exactly when it has one. -/
theorem exists_lookup_ne_none_iff {entries : List (AuthType × List Gateway)} :
    (∃ authType, entries.lookup authType ≠ none) ↔ entries ≠ [] := by
  cases entries with
  | nil => simp
  | cons entry entries =>
      refine iff_of_true ⟨entry.1, ?_⟩ (List.cons_ne_nil _ _)
      rw [List.lookup_cons_self]
      exact Option.some_ne_none _

/-- What is read of a list has an entry exactly when the list has an item and all are read. -/
theorem getD_mapM_ne_nil_iff {α β : Type} {read : α → Option β} {items : List α} :
    (items.mapM read).getD [] ≠ [] ↔ items ≠ [] ∧ ∀ item ∈ items, (read item).isSome := by
  rw [← isSome_mapM_iff]
  cases isRead : items.mapM read with
  | none => simp
  | some results =>
      rw [Option.getD_some, ← List.length_pos_iff, ← List.length_pos_iff,
        length_of_mapM isRead]
      simp

variable {document : Value}

theorem getD_readGatewaysByAuthType_ne_nil_iff :
    (readGatewaysByAuthType document).getD [] ≠ [] ↔ IsAuthTypeObject document := by
  cases document with
  | object fields =>
      have form : IsAuthTypeObject (.object fields) ↔
          fields ≠ [] ∧ ∀ field ∈ fields, IsEntry (.string field.1) field.2 := by
        simp [IsAuthTypeObject]
      simp_rw [form, ← isSome_readAuthTypeEntry_iff]
      rw [← getD_mapM_ne_nil_iff, readGatewaysByAuthType]
      cases fields.mapM fun field => readAuthTypeEntry (.string field.1) field.2 <;> simp
  | _ => simp [readGatewaysByAuthType, IsAuthTypeObject]

theorem getD_readGatewaysOfAuthTypes_ne_nil_iff :
    (readGatewaysOfAuthTypes document).getD [] ≠ [] ↔ IsAuthTypePairs document := by
  cases document with
  | array pairs =>
      have form : IsAuthTypePairs (.array pairs) ↔ pairs ≠ [] ∧ ∀ pair ∈ pairs,
          ∃ authType gws, pair = .array [authType, gws] ∧ IsEntry authType gws := by
        simp [IsAuthTypePairs]
      simp_rw [form, ← isSome_readAuthTypePair_iff]
      rw [← getD_mapM_ne_nil_iff, readGatewaysOfAuthTypes]
  | _ => simp [readGatewaysOfAuthTypes, IsAuthTypePairs]

/-- No document has both forms. -/
theorem IsAuthTypeObject.not_isAuthTypePairs (isObject : IsAuthTypeObject document) :
    ¬ IsAuthTypePairs document := by
  rcases isObject with ⟨fields, rfl, -⟩
  rintro ⟨pairs, isArray, -⟩
  cases isArray

end Forms

/-! ## One document with two meanings -/

def Reads.decode (reads : Reads) (parse : String → Option Value)
    (stored : String → Option String) : Reads :=
  { reads with configs := reads.configs.decode parse stored }

variable {reads : Reads} {parse : String → Option Value} {stored : String → Option String}

/-- Entries in two readings, of which one is empty, agree only if both are. -/
theorem lookup_eq_iff_of_nil {mapped paired : List (AuthType × List Gateway)}
    (isNil : mapped = [] ∨ paired = []) :
    (∀ authType, mapped.lookup authType = paired.lookup authType) ↔ mapped = [] ∧ paired = [] := by
  constructor
  · intro same
    by_contra notBoth
    rcases isNil with rfl | rfl
    · rcases exists_lookup_ne_none_iff.mpr fun none => notBoth ⟨rfl, none⟩ with ⟨authType, found⟩
      exact found (same authType).symm
    · rcases exists_lookup_ne_none_iff.mpr fun none => notBoth ⟨none, rfl⟩ with ⟨authType, found⟩
      exact found (same authType)
  · rintro ⟨rfl, rfl⟩ authType
    rfl

theorem sameGateways_of_document {text : String} {document : Value}
    (isStored : stored "AUTH_TYPE_RESTRICTED_GATEWAYS" = some text)
    (isDocument : parse text = some document) :
    SameGateways (reads.decode parse stored) ↔
      ¬ IsAuthTypeObject document ∧ ¬ IsAuthTypePairs document := by
  have oneForm : (readGatewaysByAuthType document).getD [] = [] ∨
      ((readGatewaysOfAuthTypes document).getD []).reverse = [] := by
    by_contra both
    rw [not_or, List.reverse_eq_nil_iff] at both
    exact (getD_readGatewaysByAuthType_ne_nil_iff.mp both.1).not_isAuthTypePairs
      (getD_readGatewaysOfAuthTypes_ne_nil_iff.mp both.2)
  have readings : SameGateways (reads.decode parse stored) ↔ ∀ authType,
      ((readGatewaysByAuthType document).getD []).lookup authType =
        ((readGatewaysOfAuthTypes document).getD []).reverse.lookup authType := by
    simp only [SameGateways, mappedGateways, pairedGateways, Reads.decode, Configs.decode,
      extractValue, isStored, isDocument, Option.bind_some]
  rw [readings, lookup_eq_iff_of_nil oneForm, List.reverse_eq_nil_iff,
    ← getD_readGatewaysByAuthType_ne_nil_iff, ← getD_readGatewaysOfAuthTypes_ne_nil_iff,
    not_not, not_not]

/-- The two filters find the same gateways exactly when the stored document, if there is one,
has neither of the forms. -/
theorem sameGateways_iff (reads : Reads) (parse : String → Option Value)
    (stored : String → Option String) :
    SameGateways (reads.decode parse stored) ↔ ∀ text document,
      stored "AUTH_TYPE_RESTRICTED_GATEWAYS" = some text → parse text = some document →
        ¬ IsAuthTypeObject document ∧ ¬ IsAuthTypePairs document := by
  constructor
  · intro same text document isStored isDocument
    exact (sameGateways_of_document isStored isDocument).mp same
  · intro neither
    cases isStored : stored "AUTH_TYPE_RESTRICTED_GATEWAYS" with
    | none =>
        intro authType
        simp [mappedGateways, pairedGateways, Reads.decode, Configs.decode, isStored]
    | some text =>
        cases isDocument : parse text with
        | none =>
            intro authType
            simp [mappedGateways, pairedGateways, Reads.decode, Configs.decode, extractValue,
              isStored, isDocument]
        | some document =>
            exact (sameGateways_of_document isStored isDocument).mpr
              (neither text document isStored isDocument)

/-- A text that lists one gateway for orders by mail and telephone. -/
def motoText : String := "\x7b\"MOTO\":[\"PAYU\"]\x7d"

/-- For orders by mail and telephone, one filter finds the gateway that is listed and the other
finds none. -/
theorem not_sameGateways_motoText :
    ¬ ∀ (reads : Reads) (parse : String → Option Value) (stored : String → Option String),
      SameGateways (reads.decode parse stored) := by
  intro same
  have differ := same (plainReads [])
    (fun text => if text = motoText then some (.object [("MOTO", .array [.string "PAYU"])])
      else none)
    (fun _ => some motoText) .moto
  revert differ
  decide +kernel

end DecisionEngine.GatewayFilter
