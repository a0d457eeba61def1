import LowPing.Protocol.Crypto
import LowPing.Protocol.Text

/-!
# Keys as text

`gen-key` of the bridge and of the backend print a key pair as hexadecimal text; operators put it
into the configurations of all three programs, which read it back. `hex` and `ed25519_dalek` are
other crates and so parameters; `standardKeys` computes the text as documented.
-/

namespace LowPing

/-- The encodings keys pass through between the programs. -/
structure KeyCodec extends TextCodec where
  /-- `hex::encode`. -/
  hexEncode : Bytes → String
  /-- `VerifyingKey::from_bytes`; not all bytes are a point of the curve. -/
  verifyingKeyFromBytes : Block 32 → Option VerifyingKey

/-- Keys are read back as they were written, as both crates document. -/
structure KeyLaws (crypto : Crypto) (codec : KeyCodec) : Prop
    extends TextLaws codec.toTextCodec where
  /-- Hex text of any bytes decodes to them. -/
  hex : ∀ bytes, codec.hexDecode (codec.hexEncode bytes) = some bytes
  /-- The bytes of a verifying key are one. -/
  point : ∀ key, codec.verifyingKeyFromBytes (crypto.verifyingKey key) =
    some (crypto.verifyingKey key)

/-- A key pair as `gen-key` prints it. -/
structure PrintedKeys where
  /-- For the program's own configuration. -/
  seckeyHex : String
  /-- For those that talk to it. -/
  pubkeyHex : String
  deriving DecidableEq

/-- `gen-key` of the bridge, with the random secret as argument. -/
def bridgeGenKey (crypto : Crypto) (codec : KeyCodec) (sk : StaticSecret) : PrintedKeys where
  seckeyHex := codec.hexEncode sk.toList
  pubkeyHex := codec.hexEncode (crypto.publicKey sk).toList

/-- `gen-key` of the backend, with the random key as argument. -/
def backendGenKey (crypto : Crypto) (codec : KeyCodec) (sk : SigningKey) : PrintedKeys where
  seckeyHex := codec.hexEncode sk.toList
  pubkeyHex := codec.hexEncode (crypto.verifyingKey sk).toList

/-- `HandshakeError`, without the expansion error that never occurs. -/
inductive HandshakeError where
  /-- `public key length must be 32, got {0}` -/
  | badPubkeyLength (got : Nat)
  deriving DecidableEq

/-- `secret_from_bytes`. -/
def secretFromBytes (bytes : Bytes) : Except HandshakeError StaticSecret :=
  if length : bytes.length = 32 then .ok ⟨bytes, length⟩ else .error (.badPubkeyLength bytes.length)

/-- The bytes of a secret are read as it. -/
theorem secretFromBytes_toList (secret : StaticSecret) :
    secretFromBytes secret.toList = .ok secret :=
  dif_pos secret.toList_length

/-! ## Hexadecimal text -/

/-- The lower-case digit of a value. -/
def hexChar (value : Nat) : Char :=
  if value < 10 then Char.ofNat (48 + value) else Char.ofNat (87 + value)

/-- Two digits a byte, the high one first. -/
def hexChars (bytes : Bytes) : List Char :=
  bytes.flatMap fun byte => [hexChar (byte.toNat / 16), hexChar (byte.toNat % 16)]

/-- The encodings as documented; every 32 bytes are a key of the checksum suite. -/
def standardKeys : KeyCodec :=
  { standardText with
    hexEncode := fun bytes => String.ofList (hexChars bytes)
    verifyingKeyFromBytes := some }

/-- A digit has the value it was made from. -/
theorem hexDigit_hexChar (value : Nat) (digit : value < 16) :
    hexDigit (hexChar value) = some value := by
  revert value
  decide

/-- The digits of some bytes are read as them. -/
theorem hexDigits_hexChars (bytes : Bytes) : hexDigits (hexChars bytes) = some bytes := by
  induction bytes with
  | nil => rfl
  | cons byte bytes ih =>
    have bound := byte.toNat_lt
    have high := hexDigit_hexChar (byte.toNat / 16) (by omega)
    have low := hexDigit_hexChar (byte.toNat % 16) (by omega)
    have whole : UInt8.ofNat (byte.toNat / 16 * 16 + byte.toNat % 16) = byte :=
      ofNat_parts (by omega)
    have text : hexChars (byte :: bytes) =
        hexChar (byte.toNat / 16) :: hexChar (byte.toNat % 16) :: hexChars bytes := rfl
    rw [text]
    simp only [hexDigits, high, low, ih, Option.bind_eq_bind, Option.bind_some, whole]

/-- The encodings as documented are lawful. -/
theorem standardKeys_laws : KeyLaws checksumCrypto standardKeys where
  base64 := standardText_laws.base64
  hex bytes := by
    simp only [standardKeys, standardText, String.toList_ofList]
    exact hexDigits_hexChars bytes
  point key := rfl

end LowPing
