import DecisionEngine.Json.StringLiteral

/-!
# The string layer over Redis

Configuration texts are written as they are, or compressed with a dictionary in a
build with compression.  The string reader decompresses a frame and then reads a
JSON document, in either build.

The reader expects what the writer of values makes, which writes a string as a
JSON literal.  The writer of configuration texts writes no literal, and no text is
read back.
-/

namespace DecisionEngine.Redis

open Json Text

abbrev Bytes := List UInt8

/-- The values of the keys. -/
abbrev ByteStore := String → Option Bytes

namespace ByteStore

variable (store : ByteStore)

def set (key : String) (value : Bytes) : ByteStore :=
  Function.update store key (some value)

/-- The bytes under a key; a missing key has none. -/
def get (key : String) : Bytes :=
  (store key).getD []

@[simp]
theorem get_set_self (key : String) (value : Bytes) :
    (store.set key value).get key = value := by
  simp [get, set]

end ByteStore

/-! ## Compression -/

/-- The compression library: either operation takes a dictionary and may fail. -/
structure Zstd where
  compress : (level : Int) → (dictionary content : Bytes) → Option Bytes
  decompress : (dictionary frame : Bytes) → Option Bytes

/-- A frame begins with the magic number and says how long its content is. -/
structure Zstd.Framed (zstd : Zstd) : Prop where
  magic : ∀ {level dictionary content frame}, zstd.compress level dictionary content = some frame →
    ∃ rest, frame = 0x28 :: 0xB5 :: 0x2F :: 0xFD :: rest
  size : ∀ {level dictionary other content frame result},
    zstd.compress level dictionary content = some frame →
      zstd.decompress other frame = some result → result.length = content.length

structure RedisCompressionConfig where
  compEnabled : Bool
  dictId : String
  compLevel : Option String

structure RedisCompressionConfigCombined where
  redisCompressionConfig : Option (String → Option RedisCompressionConfig)
  isRedisCompEnabled : Bool

inductive RedisDataStruct where
  | STRING
  | HASHMAP
  | STREAM
  | StreamV2
  deriving DecidableEq

def RedisDataStruct.asStr : RedisDataStruct → String
  | STRING => "STRING"
  | HASHMAP => "HASHMAP"
  | STREAM => "STREAM"
  | StreamV2 => "STREAM_V2"

/-- The two builds of the program. -/
inductive Build where
  | plain
  | redisCompression
  deriving DecidableEq

/-- The connection, with what it finds outside of the program. -/
structure RedisConnectionWrapper where
  build : Build
  zstd : Zstd
  /-- The directory of the dictionaries. -/
  compressionFilePath : Option String
  files : String → Option Bytes
  /-- The variable `REDIS_COMPRESSION_ELIGIBLE_LENGTH`. -/
  eligibleLength : Option String

/-- The number that decimal digits name. -/
def parseDigits (digits : List Char) : Option Nat :=
  if digits.isEmpty || !digits.all Char.isDigit then none
  else some (digits.foldl (fun value digit => value * 10 + (digit.toNat - 48)) 0)

def parseUsize (text : String) : Option Nat :=
  let digits := match text.toList with
    | '+' :: rest => rest
    | chars => chars
  (parseDigits digits).filter fun value => value < 2 ^ 64

def parseI32 (text : String) : Option Int :=
  match text.toList with
  | '-' :: digits =>
      (parseDigits digits).bind fun value =>
        if value ≤ 2 ^ 31 then some (-(value : Int)) else none
  | '+' :: digits =>
      (parseDigits digits).bind fun value => if value < 2 ^ 31 then some (value : Int) else none
  | digits =>
      (parseDigits digits).bind fun value => if value < 2 ^ 31 then some (value : Int) else none

namespace RedisConnectionWrapper

variable (wrapper : RedisConnectionWrapper)

def dictFilePath (directory dictId : String) : String :=
  directory ++ "/" ++ dictId ++ ".dict"

/-- The frame, or the bytes as they are when there is no dictionary or it fails. -/
def compressWithDict (json : Bytes) (compConf : RedisCompressionConfig) : Bytes :=
  match wrapper.compressionFilePath with
  | none => json
  | some directory =>
      match wrapper.files (dictFilePath directory compConf.dictId) with
      | none => json
      | some dictBytes =>
          let compressionLevel := (compConf.compLevel.bind parseI32).getD 3
          (wrapper.zstd.compress compressionLevel dictBytes json).getD json

def redisCompressionEligibleLength : Nat :=
  (wrapper.eligibleLength.bind parseUsize).getD 200

def compressStringWithConfig (value : String)
    (redisCompressionConfig : Option RedisCompressionConfigCombined)
    (redisType : RedisDataStruct) : Bytes :=
  let json := encodeUtf8 value
  match redisCompressionConfig with
  | none => json
  | some configCombined =>
      if configCombined.isRedisCompEnabled then
        match configCombined.redisCompressionConfig.bind fun config => config redisType.asStr with
        | none => json
        | some compConf =>
            if wrapper.redisCompressionEligibleLength < json.length && compConf.compEnabled then
              wrapper.compressWithDict json compConf
            else json
      else json

/-- Write a configuration text. -/
def setx (store : ByteStore) (key value : String)
    (redisCompressionConfig : Option RedisCompressionConfigCombined)
    (redisType : RedisDataStruct) : ByteStore :=
  match wrapper.build with
  | .plain => store.set key (encodeUtf8 value)
  | .redisCompression =>
      store.set key (wrapper.compressStringWithConfig value redisCompressionConfig redisType)

end RedisConnectionWrapper

/-! ## Reading -/

inductive RedisError where
  | notFound
  | getFailed
  | unknownResult
  | jsonDeserializationFailed
  deriving DecidableEq

/-- The little-endian number, in decimal. -/
def decodeDictId : Bytes → String
  | [a] => toString a.toNat
  | [a, b] => toString (b.toNat * 2 ^ 8 + a.toNat)
  | [a, b, c] => toString (c.toNat * 2 ^ 16 + b.toNat * 2 ^ 8 + a.toNat)
  | [a, b, c, d] =>
      toString ((d.toNat * 2 ^ 8 + c.toNat) * 2 ^ 16 + b.toNat * 2 ^ 8 + a.toNat)
  | _ => "0"

/-- The dictionary of a frame; a frame without the field is taken to have one of a byte. -/
def extractDictIdFromCdata (cdata : Bytes) : Option String :=
  if 9 < cdata.length ∧ cdata.take 4 = [0x28, 0xB5, 0x2F, 0xFD] then
    let cdataWithoutMagic := cdata.drop 4
    let frameHeader := (cdataWithoutMagic.headD 0).toNat
    let bit1 := frameHeader / 2 % 2 = 1
    let bit0 := frameHeader % 2 = 1
    let dictIdSize := if bit1 then (if bit0 then 4 else 2) else 1
    let singleSegmentFlag := frameHeader / 2 ^ 5 % 2 = 1
    let startOffset := if singleSegmentFlag then 1 else 2
    if cdataWithoutMagic.length < startOffset + dictIdSize then none
    else some (decodeDictId ((cdataWithoutMagic.drop startOffset).take dictIdSize))
  else none

/-- The string that bytes stand for as a JSON document. -/
def fromSlice (bytes : Bytes) : Option String :=
  (decodeUtf8 bytes).bind fun text => (readLiteral text.toList).map String.ofList

namespace RedisConnectionWrapper

variable (wrapper : RedisConnectionWrapper)

def getKeyString (store : ByteStore) (key : String) : Except RedisError String :=
  let rawBytes := store.get key
  match wrapper.build with
  | .plain =>
      if rawBytes.isEmpty then .error .notFound
      else (fromSlice rawBytes).elim (.error .jsonDeserializationFailed) .ok
  | .redisCompression =>
      if rawBytes.isEmpty then .error .getFailed
      else
        match extractDictIdFromCdata rawBytes with
        | none => (fromSlice rawBytes).elim (.error .getFailed) .ok
        | some dictId =>
            match wrapper.compressionFilePath with
            | none => (fromSlice rawBytes).elim (.error .getFailed) .ok
            | some directory =>
                match wrapper.files (dictFilePath directory dictId) with
                | none => .error .unknownResult
                | some dictBytes =>
                    match wrapper.zstd.decompress dictBytes rawBytes with
                    | none => .error .getFailed
                    | some decompressed => (fromSlice decompressed).elim (.error .getFailed) .ok

end RedisConnectionWrapper

/-! ## What is read of a text -/

/-- A string is shorter than the bytes that stand for it. -/
theorem length_of_fromSlice {bytes : Bytes} {value : String}
    (read : fromSlice bytes = some value) : (encodeUtf8 value).length + 2 ≤ bytes.length := by
  rcases Option.bind_eq_some_iff.mp read with ⟨text, isText, read⟩
  rcases Option.map_eq_some_iff.mp read with ⟨chars, isLiteral, rfl⟩
  rw [eq_encodeUtf8_of_decodeUtf8 isText, encodeUtf8, encodeUtf8, String.toList_ofList,
    length_encodeChars, length_encodeChars]
  exact size_of_readLiteral isLiteral

/-- No bytes of the length of a text stand for it. -/
theorem fromSlice_ne {bytes : Bytes} {value : String}
    (sameLength : bytes.length = (encodeUtf8 value).length) : fromSlice bytes ≠ some value := by
  intro read
  have longer := length_of_fromSlice read
  omega

theorem fromSlice_encodeUtf8 (text : String) :
    fromSlice (encodeUtf8 text) = (readLiteral text.toList).map String.ofList := by
  rw [fromSlice, decodeUtf8_encodeUtf8]
  rfl

/-- No text begins with the magic number. -/
theorem encodeUtf8_ne_magic (text : String) (rest : Bytes) :
    encodeUtf8 text ≠ 0x28 :: 0xB5 :: rest :=
  encodeUtf8_ne_cons_continuation text rest (by decide) (by decide)

theorem fromSlice_magic (rest : Bytes) : fromSlice (0x28 :: 0xB5 :: rest) = none := by
  rw [fromSlice]
  cases decoded : decodeUtf8 (0x28 :: 0xB5 :: rest) with
  | none => rfl
  | some text =>
      exact absurd (eq_encodeUtf8_of_decodeUtf8 decoded).symm (encodeUtf8_ne_magic text rest)

/-- A text is not taken for a frame. -/
theorem extractDictIdFromCdata_encodeUtf8 (text : String) :
    extractDictIdFromCdata (encodeUtf8 text) = none := by
  rw [extractDictIdFromCdata, if_neg]
  rintro ⟨-, magic⟩
  apply encodeUtf8_ne_magic text (0x2F :: 0xFD :: (encodeUtf8 text).drop 4)
  conv_lhs => rw [← List.take_append_drop 4 (encodeUtf8 text), magic]
  rfl

namespace RedisConnectionWrapper

variable {wrapper : RedisConnectionWrapper}

/-- What is written of a text: its bytes, or a frame of them. -/
inductive Written (wrapper : RedisConnectionWrapper) (value : String) : Bytes → Prop
  | raw : Written wrapper value (encodeUtf8 value)
  | frame {level : Int} {dictionary frame : Bytes}
      (compressed : wrapper.zstd.compress level dictionary (encodeUtf8 value) = some frame) :
      Written wrapper value frame

theorem written_compressWithDict (value : String) (compConf : RedisCompressionConfig) :
    Written wrapper value (wrapper.compressWithDict (encodeUtf8 value) compConf) := by
  unfold compressWithDict
  split
  · exact .raw
  · split
    · exact .raw
    · next dictBytes _ =>
        dsimp only
        cases compressed : wrapper.zstd.compress ((compConf.compLevel.bind parseI32).getD 3)
            dictBytes (encodeUtf8 value) with
        | none => exact .raw
        | some frame => exact .frame compressed

theorem written_compressStringWithConfig (value : String)
    (redisCompressionConfig : Option RedisCompressionConfigCombined)
    (redisType : RedisDataStruct) :
    Written wrapper value
      (wrapper.compressStringWithConfig value redisCompressionConfig redisType) := by
  unfold compressStringWithConfig
  dsimp only
  split
  · exact .raw
  · split
    · split
      · exact .raw
      · split
        · exact written_compressWithDict value _
        · exact .raw
    · exact .raw

variable (store : ByteStore) (key value : String)
  (redisCompressionConfig : Option RedisCompressionConfigCombined) (redisType : RedisDataStruct)

theorem written_setx :
    ∃ bytes, wrapper.setx store key value redisCompressionConfig redisType = store.set key bytes ∧
      Written wrapper value bytes := by
  unfold setx
  split
  · exact ⟨_, rfl, .raw⟩
  · exact ⟨_, rfl, written_compressStringWithConfig value redisCompressionConfig redisType⟩

/-- What is read is read of the bytes, or of what a frame is decompressed to. -/
theorem getKeyString_cases {store : ByteStore} {key value : String}
    (read : wrapper.getKeyString store key = .ok value) :
    fromSlice (store.get key) = some value ∨
      ∃ dictionary decompressed, extractDictIdFromCdata (store.get key) ≠ none ∧
        wrapper.zstd.decompress dictionary (store.get key) = some decompressed ∧
        fromSlice decompressed = some value := by
  have parsed : ∀ (bytes : Bytes) (error : RedisError),
      (fromSlice bytes).elim (.error error) .ok = Except.ok value →
        fromSlice bytes = some value := by
    intro bytes error result
    cases isRead : fromSlice bytes with
    | none =>
        rw [isRead] at result
        cases result
    | some text =>
        rw [isRead] at result
        cases result
        rfl
  unfold getKeyString at read
  dsimp only at read
  split at read
  · split at read
    · cases read
    · exact Or.inl (parsed _ _ read)
  · split at read
    · cases read
    · split at read
      · exact Or.inl (parsed _ _ read)
      · next isDictId =>
          split at read
          · exact Or.inl (parsed _ _ read)
          · split at read
            · cases read
            · split at read
              · cases read
              · next decompressed =>
                  right
                  exact ⟨_, _, by rw [isDictId]; exact Option.some_ne_none _, decompressed,
                    parsed _ _ read⟩

theorem setx_none :
    wrapper.setx store key value none redisType = store.set key (encodeUtf8 value) := by
  unfold setx
  split <;> rfl

/-- What is read where a text is stored as it is, in either build. -/
theorem getKeyString_of_text {store : ByteStore} {key value : String}
    (stored : store.get key = encodeUtf8 value) :
    (wrapper.getKeyString store key).toOption =
      (readLiteral value.toList).map String.ofList := by
  have parsed : ∀ error : RedisError,
      ((fromSlice (encodeUtf8 value)).elim (.error error) .ok : Except _ _).toOption =
        (readLiteral value.toList).map String.ofList := by
    intro error
    rw [← fromSlice_encodeUtf8]
    cases fromSlice (encodeUtf8 value) <;> rfl
  unfold getKeyString
  simp only [stored, extractDictIdFromCdata_encodeUtf8]
  by_cases isEmpty : (encodeUtf8 value).isEmpty = true
  · have noLiteral : (readLiteral value.toList).map String.ofList = none := by
      have empty : encodeUtf8 "" = [] := rfl
      rw [← fromSlice_encodeUtf8, List.isEmpty_iff.mp isEmpty, ← empty, fromSlice_encodeUtf8]
      rfl
    rw [noLiteral]
    split <;> rw [if_pos isEmpty] <;> rfl
  · split <;> rw [if_neg isEmpty] <;> exact parsed _

theorem getKeyString_setx_none :
    (wrapper.getKeyString (wrapper.setx store key value none redisType) key).toOption =
      (readLiteral value.toList).map String.ofList := by
  rw [setx_none]
  exact getKeyString_of_text (store.get_set_self key _)

/-- No text is read back as it was written. -/
theorem getKeyString_setx_ne (framed : wrapper.zstd.Framed) (store : ByteStore)
    (key value : String) (redisCompressionConfig : Option RedisCompressionConfigCombined)
    (redisType : RedisDataStruct) :
    wrapper.getKeyString (wrapper.setx store key value redisCompressionConfig redisType) key ≠
      .ok value := by
  intro read
  rcases written_setx store key value redisCompressionConfig redisType with
    ⟨bytes, isSet, written⟩
  rw [isSet] at read
  have cases := getKeyString_cases read
  rw [ByteStore.get_set_self] at cases
  cases written with
  | raw =>
      rcases cases with parsed | ⟨_, _, isFrame, -⟩
      · exact fromSlice_ne rfl parsed
      · exact isFrame (extractDictIdFromCdata_encodeUtf8 value)
  | frame compressed =>
      rcases cases with parsed | ⟨dictionary, decompressed, -, isDecompressed, parsed⟩
      · rcases framed.magic compressed with ⟨rest, rfl⟩
        rw [fromSlice_magic] at parsed
        cases parsed
      · exact fromSlice_ne (framed.size compressed isDecompressed) parsed

end RedisConnectionWrapper

/-! ## A library that stores -/

/-- The number of a dictionary, if it fits into a byte. -/
def dictionaryId (dictionary : Bytes) : Option UInt8 :=
  if dictionary.take 4 = [0x37, 0xA4, 0x30, 0xEC] ∧ (dictionary.drop 5).take 3 = [0, 0, 0] then
    (dictionary.drop 4).head?
  else none

/-- A frame with the number of the dictionary, the length of the content and the content in
one block as it is. -/
def storeFrame (content : Bytes) (dictId : UInt8) : Bytes :=
  let blockHeader := content.length * 8 + 1
  [0x28, 0xB5, 0x2F, 0xFD, 0x21, dictId, .ofNat content.length, .ofNat blockHeader,
    .ofNat (blockHeader / 2 ^ 8), 0] ++ content

/-- Contents of less than 256 bytes are stored. -/
def storingZstd : Zstd where
  compress _ dictionary content :=
    if content.length < 2 ^ 8 then (dictionaryId dictionary).map (storeFrame content) else none
  decompress dictionary frame :=
    if (frame.drop 5).head? = dictionaryId dictionary then some (frame.drop 10) else none

theorem framed_storingZstd : storingZstd.Framed := by
  have frames : ∀ {level : Int} {dictionary content frame : Bytes},
      storingZstd.compress level dictionary content = some frame →
        ∃ dictId, frame = storeFrame content dictId := by
    intro level dictionary content frame compressed
    simp only [storingZstd] at compressed
    split at compressed
    · rcases Option.map_eq_some_iff.mp compressed with ⟨dictId, -, rfl⟩
      exact ⟨dictId, rfl⟩
    · cases compressed
  constructor
  · intro level dictionary content frame compressed
    rcases frames compressed with ⟨dictId, rfl⟩
    exact ⟨_, rfl⟩
  · intro level dictionary other content frame result compressed decompressed
    rcases frames compressed with ⟨dictId, rfl⟩
    simp only [storingZstd] at decompressed
    split at decompressed
    · cases decompressed
      rfl
    · cases decompressed

/-- A connection with one dictionary and texts of more than four bytes compressed. -/
def storingWrapper (build : Build) : RedisConnectionWrapper where
  build := build
  zstd := storingZstd
  compressionFilePath := some "/dictionaries"
  files _ := some [0x37, 0xA4, 0x30, 0xEC, 7, 0, 0, 0]
  eligibleLength := some "4"

/-- Texts are compressed with the one dictionary. -/
def compressingConfig : RedisCompressionConfigCombined where
  redisCompressionConfig := some fun _ => some ⟨true, "7", none⟩
  isRedisCompEnabled := true

/-- A text that is a literal is read in a frame without its quotation marks. -/
theorem getKeyString_setx_ne_literal :
    (storingWrapper .redisCompression).getKeyString
      ((storingWrapper .redisCompression).setx (fun _ => none) "DEFAULT" "\"first\""
        (some compressingConfig) .STRING) "DEFAULT" ≠ .ok "\"first\"" :=
  RedisConnectionWrapper.getKeyString_setx_ne framed_storingZstd _ _ _ _ _

example : (storingWrapper .redisCompression).compressStringWithConfig "\"first\""
    (some compressingConfig) .STRING = storeFrame (encodeUtf8 "\"first\"") 7 := by
  decide +kernel

/-- A document is not read as a string, and of a text that is a literal the quotation marks
are lost. -/
theorem getKeyString_setx_counterexample :
    ((storingWrapper .plain).getKeyString
      ((storingWrapper .plain).setx (fun _ => none) "DEFAULT" "1.5" none .STRING)
        "DEFAULT").toOption = none ∧
    ((storingWrapper .redisCompression).getKeyString
      ((storingWrapper .redisCompression).setx (fun _ => none) "DEFAULT" "1.5" none .STRING)
        "DEFAULT").toOption = none ∧
    ((storingWrapper .plain).getKeyString
      ((storingWrapper .plain).setx (fun _ => none) "DEFAULT" "\"first\"" none .STRING)
        "DEFAULT").toOption = some "first" := by
  have notRead : readLiteral "1.5".toList = none := by decide
  have unquoted : readLiteral "\"first\"".toList = some "first".toList := by decide +kernel
  simp only [RedisConnectionWrapper.getKeyString_setx_none, notRead, unquoted]
  exact ⟨rfl, rfl, rfl⟩

end DecisionEngine.Redis
