import Mathlib.Data.List.Basic
import LowPing.Backend.Signup

/-!
# Signed bridge directories

The backend signs licence tokens and bridge directories with one key, and neither message says what
it is. A token's payload has 24 bytes; a directory's text holds two timestamps in quotes and so is
longer. A signature that verifies only for its own message can therefore not pass from one kind to
the other. `serde_json` and `chrono` are other crates and so a parameter.
-/

namespace LowPing.Backend

/-! ## Directories -/

/-- `BridgeEntry`. -/
structure BridgeEntry where
  /-- Stable identifier. -/
  id : String
  /-- Name shown to users. -/
  name : String
  /-- Geographic region. -/
  region : String
  /-- Zone within it. -/
  zone : String
  /-- Where clients connect. -/
  endpoint : SocketAddr
  /-- The bridge's public key. -/
  pubkeyHex : String
  /-- Game regions it serves. -/
  gameZones : List String
  /-- Whether it accepts clients. -/
  enabled : Bool
  deriving DecidableEq

/-- `BridgeDirectory`. -/
structure BridgeDirectory (DateTime : Type) where
  /-- Of the format. -/
  version : UInt32
  /-- When it was made. -/
  issuedAt : DateTime
  /-- When clients should fetch it again. -/
  expiresAt : DateTime
  /-- The bridges that accept clients. -/
  bridges : List BridgeEntry
  deriving DecidableEq

/-- What the backend uses of `chrono` and `serde_json`; errors are their texts. -/
structure DirectoryFormat where
  /-- `DateTime<Utc>`. -/
  DateTime : Type
  /-- `+ Duration::seconds(..)`; out of range it panics. -/
  plusSeconds : DateTime → Int64 → Option DateTime
  /-- `serde_json::to_vec`. -/
  toVec : BridgeDirectory DateTime → Except String Bytes
  /-- `serde_json::from_slice`. -/
  fromSlice : Bytes → Except String (BridgeDirectory DateTime)

/-- `SignedDirectory`. -/
structure SignedDirectory where
  /-- The text of the directory. -/
  payloadB64 : String
  /-- The signature of that text. -/
  signatureB64 : String
  deriving DecidableEq

/-- `VerifyError`. -/
inductive VerifyError where
  /-- `base64 decode error: {0}` -/
  | base64
  /-- `signature wrong length: {0} (expected 64)` -/
  | badSignatureLength (length : Nat)
  /-- `signature verification failed` -/
  | badSignature
  /-- `json decode error: {0}` -/
  | json (text : String)
  deriving DecidableEq

/-- `SignedDirectory::sign`. -/
def SignedDirectory.sign (crypto : Crypto) (text : TextCodec) (format : DirectoryFormat)
    (directory : BridgeDirectory format.DateTime) (key : SigningKey) :
    Except String SignedDirectory :=
  match format.toVec directory with
  | .error error => .error error
  | .ok payload =>
    let signature := crypto.sign key payload
    .ok ⟨text.base64Encode payload, text.base64Encode signature.toList⟩

/-- `SignedDirectory::verify`. -/
def SignedDirectory.verify (crypto : Crypto) (text : TextCodec) (format : DirectoryFormat)
    (signed : SignedDirectory) (backendPubkey : VerifyingKey) :
    Except VerifyError (BridgeDirectory format.DateTime) :=
  match text.base64Decode signed.payloadB64 with
  | none => .error .base64
  | some payload =>
    match text.base64Decode signed.signatureB64 with
    | none => .error .base64
    | some sigBytes =>
      if length : sigBytes.length = 64 then
        let signature : Signature := ⟨sigBytes, length⟩
        if crypto.verify backendPubkey payload signature = false then .error .badSignature
        else match format.fromSlice payload with
          | .error error => .error (.json error)
          | .ok directory => .ok directory
      else .error (.badSignatureLength sigBytes.length)

/-! ## The backend -/

/-- The fields of `BackendConfig` that directories are made from. -/
structure DirectoryConfig where
  /-- Every bridge the backend knows. -/
  bridges : List BridgeEntry
  /-- How long directories are valid (seconds). -/
  directoryTtlSecs : UInt64
  deriving DecidableEq

/-- The directory of the present moment. -/
def DirectoryConfig.directory (config : DirectoryConfig) (format : DirectoryFormat)
    (now : format.DateTime) : Option (BridgeDirectory format.DateTime) :=
  (format.plusSeconds now config.directoryTtlSecs.toInt64).map fun expiresAt => {
    version := 1
    issuedAt := now
    expiresAt
    bridges := config.bridges.filter BridgeEntry.enabled }

/-- An answer of the backend. -/
inductive Response where
  /-- A new user with a token. -/
  | signup (response : SignupResponse)
  /-- A directory. -/
  | bridges (signed : SignedDirectory)
  /-- `AppError::Internal`. -/
  | internal (message : String)
  deriving DecidableEq

/-- A request to the backend, at a moment. -/
inductive Request (DateTime : Type) where
  /-- `POST /v1/signup`. -/
  | signup (now : Int64)
  /-- `GET /v1/bridges`. -/
  | bridges (now : DateTime)

/-- A running backend. -/
structure BackendState (crypto : Crypto) where
  /-- Its keys and its counter. -/
  app : AppState crypto
  /-- What it knows of bridges. -/
  directories : DirectoryConfig
  /-- Every answer it gave. -/
  responses : List Response

/-- A backend that has just started. -/
def BackendState.start {crypto : Crypto} (app : AppState crypto) (directories : DirectoryConfig) :
    BackendState crypto :=
  { app, directories, responses := [] }

/-- One request is served; a handler that panics gives no answer. -/
def BackendState.serve {crypto : Crypto} (text : TextCodec) (format : DirectoryFormat)
    (state : BackendState crypto) : Request format.DateTime → BackendState crypto
  | .signup now =>
    match state.app.signup text now with
    | none => state
    | some (response, app) =>
      { state with app, responses := state.responses ++ [.signup response] }
  | .bridges now =>
    match state.directories.directory format now with
    | none => state
    | some directory =>
      let response := match SignedDirectory.sign crypto text format directory
          state.app.signingKey with
        | .error error => .internal error
        | .ok signed => .bridges signed
      { state with responses := state.responses ++ [response] }

/-- The backend after some requests. -/
def BackendState.run {crypto : Crypto} (text : TextCodec) (format : DirectoryFormat)
    (state : BackendState crypto) (requests : List (Request format.DateTime)) :
    BackendState crypto :=
  requests.foldl (BackendState.serve text format) state

/-! ## The two kinds of messages -/

/-- The byte of an ASCII character. -/
def ascii (c : Char) : UInt8 := .ofNat c.toNat

/-- An RFC 3339 timestamp: date, time and offset with their separators. -/
def Timestamp (text : Bytes) : Prop :=
  ∃ (year month day hour minute second offset : Bytes) (separator : UInt8),
    (∀ part ∈ [year, month, day, hour, minute, second, offset], part ≠ []) ∧
      text = year ++ ascii '-' :: month ++ ascii '-' :: day ++ separator :: hour ++
        ascii ':' :: minute ++ ascii ':' :: second ++ offset

/-- What stands between the quotes of a JSON string: each byte itself, or an escape of it. -/
inductive JsonSpells : (text literal : Bytes) → Prop
  /-- Nothing. -/
  | nil : JsonSpells [] []
  /-- A byte. -/
  | plain (byte : UInt8) {text literal : Bytes} (rest : JsonSpells text literal) :
      JsonSpells (byte :: text) (byte :: literal)
  /-- Its code in hexadecimal. -/
  | escaped (byte : UInt8) (digits : Bytes) (four : digits.length = 4) {text literal : Bytes}
      (rest : JsonSpells text literal) :
      JsonSpells (byte :: text) (ascii '\\' :: ascii 'u' :: digits ++ literal)

/-- A text with two quoted timestamps in it. -/
def HoldsTimestamps (payload : Bytes) : Prop :=
  ∃ issued expires issuedText expiresText before between after, Timestamp issued ∧
    Timestamp expires ∧ JsonSpells issued issuedText ∧ JsonSpells expires expiresText ∧
    payload = before ++ ascii '"' :: issuedText ++ ascii '"' :: between ++
      ascii '"' :: expiresText ++ ascii '"' :: after

/-- Every text the libraries write or read as a directory holds its two timestamps. -/
structure DirectoryFormat.Timestamped (format : DirectoryFormat) : Prop where
  /-- Written texts. -/
  written : ∀ directory payload, format.toVec directory = .ok payload → HoldsTimestamps payload
  /-- Accepted texts. -/
  accepted : ∀ payload directory, format.fromSlice payload = .ok directory →
    HoldsTimestamps payload

/-- The signature of a message verifies for no other one. No scheme has this for every message, as
signatures have 64 bytes; it is asked of those that are signed. -/
def ExactSignature (crypto : Crypto) (key : SigningKey) (message : Bytes) : Prop :=
  ∀ other, crypto.verify (crypto.verifyingKey key) other (crypto.sign key message) = true →
    other = message

/-- The message the signature of an answer was made for. -/
def Response.message (text : TextCodec) : Response → Option Bytes
  | .signup response =>
    match LicenseToken.fromStringB64 text response.licenseToken with
    | .ok token => some token.payload.encode
    | .error _ => none
  | .bridges signed => text.base64Decode signed.payloadB64
  | .internal _ => none

section

/-- A timestamp has its six fields, an offset and five separators. -/
theorem Timestamp.length_le {text : Bytes} (timestamp : Timestamp text) : 12 ≤ text.length := by
  obtain ⟨year, month, day, hour, minute, second, offset, separator, parts, rfl⟩ := timestamp
  have nonempty {part : Bytes} (listed : part ∈ [year, month, day, hour, minute, second, offset]) :
      0 < part.length :=
    List.length_pos_iff.mpr (parts part listed)
  have first : 0 < year.length := nonempty (by simp)
  have second' : 0 < month.length := nonempty (by simp)
  have third : 0 < day.length := nonempty (by simp)
  have fourth : 0 < hour.length := nonempty (by simp)
  have fifth : 0 < minute.length := nonempty (by simp)
  have sixth : 0 < second.length := nonempty (by simp)
  have last : 0 < offset.length := nonempty (by simp)
  simp only [List.length_append, List.length_cons]
  omega

/-- Spelling a text in JSON does not shorten it. -/
theorem JsonSpells.length_le {text literal : Bytes} (spells : JsonSpells text literal) :
    text.length ≤ literal.length := by
  induction spells with
  | nil => exact Nat.le_refl _
  | plain byte rest ih =>
    rw [List.length_cons, List.length_cons]
    omega
  | escaped byte digits four rest ih =>
    simp only [List.length_cons, List.length_append]
    omega

/-- A text with two timestamps is longer than the payload of a token. -/
theorem HoldsTimestamps.longer {payload : Bytes} (holds : HoldsTimestamps payload) :
    payloadLen < payload.length := by
  obtain ⟨issued, expires, issuedText, expiresText, before, between, after, first, second, spells,
    spellsLater, rfl⟩ := holds
  have short := first.length_le
  have shortLater := second.length_le
  have literal := spells.length_le
  have literalLater := spellsLater.length_le
  simp only [List.length_append, List.length_cons, payloadLen]
  omega

/-- No directory has the text of a token's payload. -/
theorem encode_untimestamped (payload : LicensePayload) : ¬ HoldsTimestamps payload.encode := by
  intro holds
  have longer := holds.longer
  simp [LicensePayload.encode, payloadLen] at longer

/-- What an accepted directory says: its signature verifies over a text the library reads. -/
theorem SignedDirectory.verify_ok {crypto : Crypto} {text : TextCodec} {format : DirectoryFormat}
    {signed : SignedDirectory} {backendPubkey : VerifyingKey} {signature : Signature}
    {directory : BridgeDirectory format.DateTime}
    (carries : text.base64Decode signed.signatureB64 = some signature.toList)
    (verified : signed.verify crypto text format backendPubkey = .ok directory) :
    ∃ payload, text.base64Decode signed.payloadB64 = some payload ∧
      crypto.verify backendPubkey payload signature = true ∧
      format.fromSlice payload = .ok directory := by
  obtain ⟨bytes, length⟩ := signature
  have carries : text.base64Decode signed.signatureB64 = some bytes := carries
  unfold SignedDirectory.verify at verified
  split at verified
  · contradiction
  · rename_i payload decoded
    rw [carries] at verified
    dsimp only at verified
    rw [dif_pos length] at verified
    split at verified
    · contradiction
    · rename_i accepted
      split at verified
      · contradiction
      · rename_i other read
        obtain rfl := Except.ok.inj verified
        exact ⟨payload, decoded, by simpa using accepted, read⟩

/-! ## Runs -/

variable {crypto : Crypto} {text : TextCodec} {format : DirectoryFormat}

/-- What an answer is signed for. -/
def Response.Signed (crypto : Crypto) (text : TextCodec) (format : DirectoryFormat)
    (key : SigningKey) : Response → Prop
  | .signup response => ∃ payload,
      response.licenseToken = (LicenseToken.sign crypto payload key).toStringB64 text
  | .bridges signed => ∃ directory,
      SignedDirectory.sign crypto text format directory key = .ok signed
  | .internal _ => True

/-- Every answer of a backend is signed by it. -/
structure BackendState.Signs (text : TextCodec) (format : DirectoryFormat) (key : SigningKey)
    (state : BackendState crypto) : Prop where
  /-- With its key. -/
  signingKey : state.app.signingKey = key
  /-- Every answer. -/
  signed : ∀ response ∈ state.responses, response.Signed crypto text format key

/-- A signup keeps the keys. -/
theorem signup_signingKey {app next : AppState crypto} {now : Int64} {response : SignupResponse}
    (issued : app.signup text now = some (response, next)) : next.signingKey = app.signingKey := by
  unfold AppState.signup AppState.issueUserId at issued
  split at issued
  · contradiction
  · rename_i userId later counted
    obtain ⟨_, rfl⟩ := Prod.mk.inj (Option.some.inj issued)
    dsimp only at counted
    split at counted
    · obtain ⟨_, rfl⟩ := Prod.mk.inj (Option.some.inj counted)
      rfl
    · contradiction

/-- Each request is answered so. -/
theorem signs_serve {key : SigningKey} {state : BackendState crypto}
    (signs : state.Signs text format key) (request : Request format.DateTime) :
    (state.serve text format request).Signs text format key := by
  cases request with
  | signup now =>
    dsimp only [BackendState.serve]
    split
    · exact signs
    · rename_i response app issued
      refine ⟨(signup_signingKey issued).trans signs.signingKey, fun answer member => ?_⟩
      rcases List.mem_append.mp member with old | new
      · exact signs.signed answer old
      · obtain rfl := List.mem_singleton.mp new
        exact ⟨_, by rw [(signup_ok issued).1, signs.signingKey]⟩
  | bridges now =>
    dsimp only [BackendState.serve]
    split
    · exact signs
    · rename_i directory made
      refine ⟨signs.signingKey, fun answer member => ?_⟩
      rcases List.mem_append.mp member with old | new
      · exact signs.signed answer old
      · obtain rfl := List.mem_singleton.mp new
        rw [signs.signingKey]
        split
        · trivial
        · rename_i signed written
          exact ⟨directory, written⟩

/-- Every answer of a run is signed by the backend. -/
theorem signs_run {key : SigningKey} {state : BackendState crypto}
    (signs : state.Signs text format key) (requests : List (Request format.DateTime)) :
    (state.run text format requests).Signs text format key := by
  induction requests generalizing state with
  | nil => exact signs
  | cons request requests ih => exact ih (signs_serve signs request)

/-- The signature of a token makes no directory acceptable. -/
theorem token_signature_refused (texts : TextLaws text) (timestamped : format.Timestamped)
    {key : SigningKey} {response : SignupResponse} {token : LicenseToken}
    (signed : (Response.signup response).Signed crypto text format key)
    (exact : ∀ message ∈ (Response.signup response).message text,
      ExactSignature crypto key message)
    (read : LicenseToken.fromStringB64 text response.licenseToken = .ok token)
    {forged : SignedDirectory}
    (carries : text.base64Decode forged.signatureB64 = some token.signature.toList)
    (directory : BridgeDirectory format.DateTime) :
    forged.verify crypto text format (crypto.verifyingKey key) ≠ .ok directory := by
  intro verified
  obtain ⟨payload, issued⟩ := signed
  have own : token = LicenseToken.sign crypto payload key := by
    rw [issued, LicenseToken.fromStringB64_toStringB64 texts] at read
    exact (Except.ok.inj read).symm
  obtain ⟨other, _, accepted, decoded⟩ := SignedDirectory.verify_ok carries verified
  have message : (Response.signup response).message text = some payload.encode := by
    rw [Response.message, read, own]
    rfl
  rw [own] at accepted
  have same : other = payload.encode := exact payload.encode message other accepted
  rw [same] at decoded
  exact encode_untimestamped payload (timestamped.accepted _ _ decoded)

/-- The signature of a directory makes no token acceptable. -/
theorem directory_signature_refused (texts : TextLaws text) (timestamped : format.Timestamped)
    {key : SigningKey} {issued : SignedDirectory}
    (signed : (Response.bridges issued).Signed crypto text format key)
    (exact : ∀ message ∈ (Response.bridges issued).message text,
      ExactSignature crypto key message)
    {forged : LicenseToken}
    (carries : text.base64Decode issued.signatureB64 = some forged.signature.toList)
    (now : Int64) : forged.verify crypto (crypto.verifyingKey key) now ≠ .ok () := by
  intro verified
  obtain ⟨directory, written⟩ := signed
  unfold SignedDirectory.sign at written
  split at written
  · contradiction
  · rename_i payload produced
    obtain rfl := Except.ok.inj written
    dsimp only at carries
    rw [texts.base64] at carries
    have own : forged.signature = crypto.sign key payload :=
      (Subtype.ext (Option.some.inj carries)).symm
    have accepted := (verify_ok verified).1
    rw [own] at accepted
    have same : forged.payload.encode = payload :=
      exact payload (texts.base64 payload) forged.payload.encode accepted
    have holds := timestamped.written _ _ produced
    rw [← same] at holds
    exact encode_untimestamped forged.payload holds

end

/-- After every run of a backend, the signature of no token it issued makes a directory acceptable,
and that of no directory it issued makes a token acceptable. -/
theorem signatures_separated (crypto : Crypto) (text : TextCodec) (texts : TextLaws text)
    (format : DirectoryFormat) (timestamped : format.Timestamped) (app : AppState crypto)
    (directories : DirectoryConfig) (requests : List (Request format.DateTime))
    (final : BackendState crypto)
    (reached : (BackendState.start app directories).run text format requests = final)
    (exact : ∀ response ∈ final.responses, ∀ message ∈ response.message text,
      ExactSignature crypto app.signingKey message) :
    (∀ response token (forged : SignedDirectory) directory,
      .signup response ∈ final.responses →
      LicenseToken.fromStringB64 text response.licenseToken = .ok token →
      text.base64Decode forged.signatureB64 = some token.signature.toList →
      forged.verify crypto text format app.verifyingKey ≠ .ok directory) ∧
    ∀ issued (forged : LicenseToken) now, .bridges issued ∈ final.responses →
      text.base64Decode issued.signatureB64 = some forged.signature.toList →
      forged.verify crypto app.verifyingKey now ≠ .ok () := by
  have started : (BackendState.start app directories).Signs text format app.signingKey :=
    ⟨rfl, nofun⟩
  have signs := signs_run started requests
  rw [reached] at signs
  rw [app.paired]
  constructor
  · intro response token forged directory answered read carries
    exact token_signature_refused texts timestamped (signs.signed _ answered) (exact _ answered)
      read carries directory
  · intro issued forged now answered carries
    exact directory_signature_refused texts timestamped (signs.signed _ answered)
      (exact _ answered) carries now

/-! ## A sample run -/

/-- A signature that is the place of a message among some. -/
def ledgerSign (messages : List Bytes) (message : Bytes) : Signature :=
  ⟨Library.BigEndian.encode 64 (messages.idxOf message), by simp⟩

/-- A scheme that signs so. -/
def ledgerCrypto (messages : List Bytes) : Crypto :=
  { checksumCrypto with
    sign := fun _ message => ledgerSign messages message
    verify := fun _ message signature => decide (signature = ledgerSign messages message) }

/-- The ledger's scheme is exact on its messages. -/
theorem exactSignature_ledger {messages : List Bytes} (few : messages.length < 256 ^ 64)
    (key : SigningKey) {message : Bytes} (listed : message ∈ messages) :
    ExactSignature (ledgerCrypto messages) key message := by
  intro other verified
  have signed : ledgerSign messages message = ledgerSign messages other :=
    of_decide_eq_true verified
  have encoded : Library.BigEndian.encode 64 (messages.idxOf message) =
      Library.BigEndian.encode 64 (messages.idxOf other) := congrArg Subtype.val signed
  have within := List.idxOf_lt_length_of_mem listed
  have placed : messages.idxOf other ≤ messages.length := List.idxOf_le_length
  have same := Library.BigEndian.encode_injective (Nat.lt_trans within few)
    (Nat.lt_of_le_of_lt placed few) encoded
  exact ((List.idxOf_inj listed).mp same).symm

/-- An ASCII text. -/
def asciiText (text : String) : Bytes := text.toList.map ascii

/-- Two decimal digits. -/
def twoDigits (n : Nat) : Bytes := [.ofNat (48 + n / 10 % 10), .ofNat (48 + n % 10)]

/-- A second of 3 May 2026. -/
def dayTimestamp (time : Nat) : Bytes :=
  asciiText "2026" ++ ascii '-' :: asciiText "05" ++ ascii '-' :: asciiText "03" ++ ascii 'T' ::
    twoDigits (time / 3600) ++ ascii ':' :: twoDigits (time / 60 % 60) ++ ascii ':' ::
      twoDigits (time % 60) ++ asciiText "Z"

/-- The number two digits spell. -/
def readDigits (bytes : Bytes) : Nat :=
  bytes.foldl (fun value digit => value * 10 + (digit.toNat - 48)) 0

/-- The second of the day a timestamp names. -/
def readTime (bytes : Bytes) : Nat :=
  readDigits ((bytes.drop 11).take 2) * 3600 + readDigits ((bytes.drop 14).take 2) * 60 +
    readDigits ((bytes.drop 17).take 2)

/-- The text of a directory without bridges. -/
def emptyDirectoryText (issuedAt expiresAt : Nat) : Bytes :=
  asciiText "\x7b\"version\":1,\"issued_at\":" ++ ascii '"' :: dayTimestamp issuedAt ++
    ascii '"' :: asciiText ",\"expires_at\":" ++ ascii '"' :: dayTimestamp expiresAt ++
      ascii '"' :: asciiText ",\"bridges\":[]\x7d"

/-- Directories without bridges on that day. -/
def emptyDirectoryFormat : DirectoryFormat where
  DateTime := Nat
  plusSeconds time seconds :=
    let sum := time + seconds.toInt
    if 0 ≤ sum ∧ sum < 86400 then some sum.toNat else none
  toVec directory :=
    if directory.version = 1 ∧ directory.bridges = [] then
      .ok (emptyDirectoryText directory.issuedAt directory.expiresAt)
    else .error "unsupported directory"
  fromSlice payload :=
    let issuedAt := readTime (payload.drop 26)
    let expiresAt := readTime (payload.drop 62)
    if payload = emptyDirectoryText issuedAt expiresAt then .ok ⟨1, issuedAt, expiresAt, []⟩
    else .error "expected value"

/-- A text without escapes spells itself. -/
theorem jsonSpells_self (text : Bytes) : JsonSpells text text := by
  induction text with
  | nil => exact .nil
  | cons byte text ih => exact .plain byte ih

/-- A second of the sample day is a timestamp. -/
theorem timestamp_day (time : Nat) : Timestamp (dayTimestamp time) := by
  refine ⟨asciiText "2026", asciiText "05", asciiText "03", twoDigits (time / 3600),
    twoDigits (time / 60 % 60), twoDigits (time % 60), asciiText "Z", ascii 'T', ?_, rfl⟩
  simp [asciiText, twoDigits]

/-- A directory without bridges holds its timestamps. -/
theorem holdsTimestamps_empty (issuedAt expiresAt : Nat) :
    HoldsTimestamps (emptyDirectoryText issuedAt expiresAt) :=
  ⟨_, _, _, _, asciiText "\x7b\"version\":1,\"issued_at\":", asciiText ",\"expires_at\":",
    asciiText ",\"bridges\":[]\x7d", timestamp_day issuedAt, timestamp_day expiresAt,
    jsonSpells_self _, jsonSpells_self _, rfl⟩

/-- The format is as documented. -/
theorem emptyDirectoryFormat_timestamped : emptyDirectoryFormat.Timestamped where
  written directory payload produced := by
    simp only [emptyDirectoryFormat] at produced
    split at produced
    · obtain rfl := Except.ok.inj produced
      exact holdsTimestamps_empty _ _
    · contradiction
  accepted payload directory read := by
    simp only [emptyDirectoryFormat] at read
    split at read
    · rename_i same
      rw [same]
      exact holdsTimestamps_empty _ _
    · contradiction

/-- The messages of a signup at second 1000 and of a directory at noon. -/
def sampleMessages : List Bytes :=
  [(LicensePayload.mk 1 1000 605800 1).encode, emptyDirectoryText 43200 45000]

/-- A backend without bridges that signs them. -/
def sampleApp : AppState (ledgerCrypto sampleMessages) where
  config := ⟨"0909090909090909090909090909090909090909090909090909090909090909", defaultTokenTtl⟩
  signingKey := List.Vector.replicate 32 9
  verifyingKey := (ledgerCrypto sampleMessages).verifyingKey (List.Vector.replicate 32 9)
  paired := rfl
  nextUserId := 1

/-- The sample backend after one request of each kind. -/
def sampleFinal : BackendState (ledgerCrypto sampleMessages) :=
  (BackendState.start sampleApp ⟨[], 1800⟩).run standardText emptyDirectoryFormat
    [.signup 1000, .bridges (43200 : Nat)]

/-- Both sample requests are answered, and neither signature serves for the other kind. -/
theorem sample_signatures_separated : sampleFinal.responses.length = 2 ∧
    (∀ response token (forged : SignedDirectory) directory,
      .signup response ∈ sampleFinal.responses →
      LicenseToken.fromStringB64 standardText response.licenseToken = .ok token →
      standardText.base64Decode forged.signatureB64 = some token.signature.toList →
      forged.verify (ledgerCrypto sampleMessages) standardText emptyDirectoryFormat
        sampleApp.verifyingKey ≠ .ok directory) ∧
    ∀ issued (forged : LicenseToken) now, .bridges issued ∈ sampleFinal.responses →
      standardText.base64Decode issued.signatureB64 = some forged.signature.toList →
      forged.verify (ledgerCrypto sampleMessages) sampleApp.verifyingKey now ≠ .ok () := by
  have messages : sampleFinal.responses.filterMap (Response.message standardText) =
      sampleMessages := by
    decide +kernel
  refine ⟨by decide +kernel, signatures_separated _ standardText standardText_laws
    emptyDirectoryFormat emptyDirectoryFormat_timestamped sampleApp ⟨[], 1800⟩
    [.signup 1000, .bridges (43200 : Nat)] sampleFinal rfl
    fun response answered message signs => ?_⟩
  have listed : message ∈ sampleMessages := by
    rw [← messages]
    exact List.mem_filterMap.mpr ⟨response, answered, signs⟩
  exact exactSignature_ledger (by decide) _ listed

end LowPing.Backend
