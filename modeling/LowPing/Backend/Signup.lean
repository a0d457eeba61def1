import Mathlib.Algebra.Group.Int.Defs
import LowPing.Protocol.Text
import LowPing.Protocol.Syn

/-!
# Licence signup

`gr-backend` hands a token to whoever asks. Its expiry is the present plus the configured lifetime,
cast to a signed word and added without a check, so with a lifetime that takes the sum past the word
the token is expired from the start.
-/

namespace LowPing.Backend

/-- The fields of `BackendConfig` that tokens are issued with. -/
structure BackendConfig where
  /-- Hex text of the Ed25519 secret key. -/
  backendSeckeyHex : String
  /-- How long license tokens are valid (seconds). -/
  tokenTtlSecs : UInt64
  deriving DecidableEq

/-- `default_token_ttl`: seven days. -/
def defaultTokenTtl : UInt64 := 7 * 24 * 60 * 60

/-- Why `AppState::new` fails. -/
inductive StateError where
  /-- `hex::decode` of the secret key. -/
  | hex
  /-- `backend_seckey_hex must be 32 bytes (64 hex chars)` -/
  | seckeyLength
  deriving DecidableEq

/-- `AppState`. The verifying key is that of the signing key. -/
structure AppState (crypto : Crypto) where
  /-- The configuration. -/
  config : BackendConfig
  /-- Signs tokens. -/
  signingKey : SigningKey
  /-- Verifies them. -/
  verifyingKey : VerifyingKey
  /-- Derived from the signing key. -/
  paired : verifyingKey = crypto.verifyingKey signingKey
  /-- Counter for issued user ids. -/
  nextUserId : UInt32

/-- `AppState::new`. -/
def AppState.new (crypto : Crypto) (text : TextCodec) (config : BackendConfig) :
    Except StateError (AppState crypto) :=
  match text.hexDecode config.backendSeckeyHex with
  | none => .error .hex
  | some keyBytes =>
    if length : keyBytes.length = 32 then
      let signingKey : SigningKey := ⟨keyBytes, length⟩
      .ok ⟨config, signingKey, crypto.verifyingKey signingKey, rfl, 1⟩
    else .error .seckeyLength

/-- `SignupResponse`. -/
structure SignupResponse where
  /-- The new user. -/
  userId : UInt32
  /-- The token as text. -/
  licenseToken : String
  /-- When it expires. -/
  expiresAtUnix : Int64
  deriving DecidableEq

variable {crypto : Crypto}

/-- `issue_user_id`; past the last id it panics. -/
def AppState.issueUserId (state : AppState crypto) : Option (UInt32 × AppState crypto) :=
  let id := state.nextUserId
  if id.toNat + 1 < 2 ^ 32 then some (id, { state with nextUserId := id + 1 }) else none

/-- The payload `signup` signs: the lifetime is cast to `i64`, and a release build wraps the sum. -/
def BackendConfig.licensePayload (config : BackendConfig) (userId : UInt32) (now : Int64) :
    LicensePayload where
  userId
  issuedAt := now
  expiresAt := now + config.tokenTtlSecs.toInt64
  scope := 1

/-- `signup`, at a wall-clock second. -/
def AppState.signup (text : TextCodec) (state : AppState crypto) (now : Int64) :
    Option (SignupResponse × AppState crypto) :=
  match state.issueUserId with
  | none => none
  | some (userId, next) =>
    let payload := state.config.licensePayload userId now
    let token := LicenseToken.sign crypto payload state.signingKey
    some (⟨userId, token.toStringB64 text, payload.expiresAt⟩, next)

/-- When a token issued at a time should expire. -/
def BackendConfig.expiry (config : BackendConfig) (now : Int64) : Int :=
  now.toInt + config.tokenTtlSecs.toNat

/-- A signup does what it says: the client reads its token, and what the bridge parses from a SYN
payload with that token is the payload signed, has scope bit 0 and verifies at exactly the times
from the signup until the expiry, which is the one the response names. -/
def Honoured (text : TextCodec) (state : AppState crypto) (now : Int64)
    (response : SignupResponse) : Prop :=
  response.expiresAtUnix.toInt = state.config.expiry now ∧
    ∃ token, LicenseToken.fromStringB64 text response.licenseToken = .ok token ∧
      ∀ connect, ∃ parsed, LicenseToken.fromBytes ((synPayload token connect).take tokenLen) =
          .ok parsed ∧
        parsed.payload = state.config.licensePayload response.userId now ∧
        parsed.payload.scope &&& 1 = 1 ∧
        ∀ time, parsed.verify crypto state.verifyingKey time = .ok () ↔
          now.toInt ≤ time.toInt ∧ time.toInt < state.config.expiry now

/-- The computed expiry is the intended one exactly while that fits the word. -/
theorem expiresAt_exact_iff (config : BackendConfig) (userId : UInt32) {now : Int64}
    (current : 0 ≤ now.toInt) :
    (config.licensePayload userId now).expiresAt.toInt = config.expiry now ↔
      config.expiry now < 2 ^ 63 := by
  constructor
  · intro exact
    rw [← exact]
    exact Int64.toInt_lt _
  · intro fits
    unfold BackendConfig.expiry at fits ⊢
    have bits : config.tokenTtlSecs.toInt64.toInt = config.tokenTtlSecs.toBitVec.toInt := rfl
    have lifetime : config.tokenTtlSecs.toInt64.toInt = config.tokenTtlSecs.toNat := by
      rw [bits, BitVec.toInt_eq_toNat_bmod, UInt64.toNat_toBitVec]
      exact Int.bmod_eq_of_le (by omega) (by omega)
    rw [BackendConfig.licensePayload, Int64.toInt_add, lifetime]
    exact Int.bmod_eq_of_le (by omega) (by omega)

/-- What a signup returns. -/
theorem signup_ok {text : TextCodec} {state next : AppState crypto} {now : Int64}
    {response : SignupResponse} (issued : state.signup text now = some (response, next)) :
    response.licenseToken = (LicenseToken.sign crypto
        (state.config.licensePayload response.userId now) state.signingKey).toStringB64 text ∧
      response.expiresAtUnix = (state.config.licensePayload response.userId now).expiresAt := by
  unfold AppState.signup at issued
  split at issued
  · contradiction
  · obtain ⟨rfl, _⟩ := Prod.mk.inj (Option.some.inj issued)
    exact ⟨rfl, rfl⟩

/-- With an exact expiry a signup is honoured. -/
theorem honoured_of_exact (laws : CryptoLaws crypto) {text : TextCodec} (texts : TextLaws text)
    {state next : AppState crypto} {now : Int64} {response : SignupResponse}
    (issued : state.signup text now = some (response, next))
    (exact : (state.config.licensePayload response.userId now).expiresAt.toInt =
      state.config.expiry now) : Honoured text state now response := by
  obtain ⟨written, expires⟩ := signup_ok issued
  have bit : (1 : UInt32) &&& 1 = 1 := by decide
  refine ⟨by rw [expires, exact], _, by rw [written, LicenseToken.fromStringB64_toStringB64 texts],
    fun connect => ⟨_, LicenseToken.fromBytes_take _ connect.encode, rfl, bit, fun time => ?_⟩⟩
  rw [state.paired]
  constructor
  · intro verified
    obtain ⟨_, begun, unexpired⟩ := verify_ok verified
    rw [← exact]
    exact ⟨Int64.le_iff_toInt_le.mp begun, Int64.lt_iff_toInt_lt.mp unexpired⟩
  · rintro ⟨begun, unexpired⟩
    rw [← exact] at unexpired
    exact LicenseToken.verify_sign laws state.signingKey (Int64.le_iff_toInt_le.mpr begun)
      (Int64.lt_iff_toInt_lt.mpr unexpired)

/-- A signup is honoured exactly if its expiry fits a signed word: its token is then read by client
and bridge as it was signed and accepted from the signup until the expiry, and otherwise the expiry
it names is another one. -/
theorem signup_honoured_iff (laws : CryptoLaws crypto) {text : TextCodec} (texts : TextLaws text)
    {state next : AppState crypto} {now : Int64} {response : SignupResponse}
    (current : 0 ≤ now.toInt) (issued : state.signup text now = some (response, next)) :
    Honoured text state now response ↔ state.config.expiry now < 2 ^ 63 := by
  constructor
  · intro honoured
    rw [← honoured.1]
    exact Int64.toInt_lt _
  · intro fits
    exact honoured_of_exact laws texts issued ((expiresAt_exact_iff _ _ current).mpr fits)

/-- A backend with one key and a lifetime. -/
def sampleBackend (tokenTtlSecs : UInt64) : AppState checksumCrypto where
  config := ⟨"0909090909090909090909090909090909090909090909090909090909090909", tokenTtlSecs⟩
  signingKey := List.Vector.replicate 32 9
  verifyingKey := checksumCrypto.verifyingKey (List.Vector.replicate 32 9)
  paired := rfl
  nextUserId := 1

/-- What the backend answers to its first signup. -/
def firstSignup (tokenTtlSecs : UInt64) (now : Int64) : SignupResponse where
  userId := 1
  licenseToken := (LicenseToken.sign checksumCrypto
    ((sampleBackend tokenTtlSecs).config.licensePayload 1 now)
    (List.Vector.replicate 32 9)).toStringB64 standardText
  expiresAtUnix := now + tokenTtlSecs.toInt64

/-- With the default lifetime it is honoured. -/
theorem defaultSignup_honoured : (sampleBackend defaultTokenTtl).config.expiry 1000 = 605800 ∧
    Honoured standardText (sampleBackend defaultTokenTtl) 1000
      (firstSignup defaultTokenTtl 1000) := by
  have fits : (sampleBackend defaultTokenTtl).config.expiry 1000 = 605800 := by decide
  have issued : (sampleBackend defaultTokenTtl).signup standardText 1000 = some
      (firstSignup defaultTokenTtl 1000, { sampleBackend defaultTokenTtl with nextUserId := 2 }) :=
    rfl
  refine ⟨fits, (signup_honoured_iff checksumCrypto_laws standardText_laws (by decide)
    issued).mpr ?_⟩
  rw [fits]
  decide

/-- With the longest lifetime a TOML integer can name, a signup answers with an expiry in the
past. -/
theorem endless_signup_expired : ¬ ∀ (crypto : Crypto) (text : TextCodec)
    (state next : AppState crypto) (now : Int64) (response : SignupResponse),
    CryptoLaws crypto → TextLaws text → 0 ≤ now.toInt →
    state.signup text now = some (response, next) → Honoured text state now response := by
  intro honoured
  have claimed := (honoured checksumCrypto standardText (sampleBackend 9223372036854775807)
    { sampleBackend 9223372036854775807 with nextUserId := 2 } 1
    (firstSignup 9223372036854775807 1) checksumCrypto_laws standardText_laws (by decide) rfl).1
  have wrapped : (firstSignup 9223372036854775807 1).expiresAtUnix.toInt =
      -9223372036854775808 := by
    decide
  have intended : (sampleBackend 9223372036854775807).config.expiry 1 = 9223372036854775808 := by
    decide
  rw [wrapped, intended] at claimed
  revert claimed
  decide

end LowPing.Backend
