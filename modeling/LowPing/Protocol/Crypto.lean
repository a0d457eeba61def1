import LowPing.Common.Net

/-!
# Cryptographic primitives and the session-key derivation

The primitives come from other crates: ChaCha20-Poly1305, X25519, HKDF-SHA256 and Ed25519. They
are the operations of a `Crypto` value, and what the protocol relies on is stated beside them as
propositions about such a value. `CryptoLaws` collects the ones the documentation of those crates
gives. The checksum suite at the end satisfies them all and computes, so runs can be evaluated.
-/

namespace LowPing

/-- A 32-byte ChaCha20-Poly1305 key. -/
abbrev AeadKey := Block 32
/-- A 12-byte AEAD nonce. -/
abbrev Nonce := Block 12
/-- An X25519 secret scalar. -/
abbrev StaticSecret := Block 32
/-- An X25519 public key. -/
abbrev PublicKey := Block 32
/-- An Ed25519 signing key. -/
abbrev SigningKey := Block 32
/-- An Ed25519 verifying key. -/
abbrev VerifyingKey := Block 32
/-- An Ed25519 signature. -/
abbrev Signature := Block 64

/-- AEAD authentication tag length. -/
def tagLen : Nat := 16

/-- The primitives the protocol calls. -/
structure Crypto where
  /-- `ChaCha20Poly1305::encrypt` of associated data and a message; the tag ends the result. It
  fails only past 2³⁸ bytes, which no caller passes. -/
  encrypt : AeadKey → Nonce → Bytes → Bytes → Bytes
  /-- `ChaCha20Poly1305::decrypt` of associated data and a ciphertext. -/
  decrypt : AeadKey → Nonce → Bytes → Bytes → Option Bytes
  /-- `PublicKey::from(&secret)`. -/
  publicKey : StaticSecret → PublicKey
  /-- `StaticSecret::diffie_hellman`. -/
  diffieHellman : StaticSecret → PublicKey → Block 32
  /-- HKDF-SHA256 without salt, expanded to 32 bytes under an info string. -/
  hkdf : Block 32 → Bytes → Block 32
  /-- `SigningKey::verifying_key`. -/
  verifyingKey : SigningKey → VerifyingKey
  /-- `SigningKey::sign`. -/
  sign : SigningKey → Bytes → Signature
  /-- `VerifyingKey::verify`. -/
  verify : VerifyingKey → Bytes → Signature → Bool

/-- Documented behaviour of the primitives. -/
structure CryptoLaws (crypto : Crypto) : Prop where
  /-- Opening returns a message exactly on the ciphertext that sealing it produces. -/
  decrypt_iff : ∀ key nonce aad ciphertext message,
    crypto.decrypt key nonce aad ciphertext = some message ↔
      ciphertext = crypto.encrypt key nonce aad message
  /-- Sealing adds the tag. -/
  length_encrypt : ∀ key nonce aad message,
    (crypto.encrypt key nonce aad message).length = message.length + tagLen
  /-- X25519 agreement: both sides compute one shared secret. -/
  agreement : ∀ left right, crypto.diffieHellman left (crypto.publicKey right) =
    crypto.diffieHellman right (crypto.publicKey left)
  /-- A signature verifies under its own key. -/
  verify_sign : ∀ key message,
    crypto.verify (crypto.verifyingKey key) message (crypto.sign key message) = true

/-- Opening a sealed message returns it. -/
theorem CryptoLaws.decrypt_encrypt {crypto : Crypto} (laws : CryptoLaws crypto) (key : AeadKey)
    (nonce : Nonce) (aad message : Bytes) :
    crypto.decrypt key nonce aad (crypto.encrypt key nonce aad message) = some message :=
  (laws.decrypt_iff _ _ _ _ _).mpr rfl

/-! ## Handshake -/

/-- `HKDF_INFO`, the text `lowping-v1-aead`. -/
def hkdfInfo : Bytes := "lowping-v1-aead".toUTF8.toList

/-- `derive_aead_key`. -/
def deriveAeadKey (crypto : Crypto) (sharedSecret : Block 32) : AeadKey :=
  crypto.hkdf sharedSecret hkdfInfo

/-- `bridge_derive_session_key`. -/
def bridgeDeriveSessionKey (crypto : Crypto) (bridgeSecret : StaticSecret)
    (clientEphemeralPub : PublicKey) : AeadKey :=
  deriveAeadKey crypto (crypto.diffieHellman bridgeSecret clientEphemeralPub)

/-- `client_derive_session_key`. -/
def clientDeriveSessionKey (crypto : Crypto) (clientEphemeralSecret : StaticSecret)
    (bridgePub : PublicKey) : AeadKey :=
  deriveAeadKey crypto (crypto.diffieHellman clientEphemeralSecret bridgePub)

/-- Both sides of a handshake derive one key, used for both directions. -/
theorem derived_keys_agree {crypto : Crypto} (laws : CryptoLaws crypto)
    (bridgeSecret clientSecret : StaticSecret) :
    bridgeDeriveSessionKey crypto bridgeSecret (crypto.publicKey clientSecret) =
      clientDeriveSessionKey crypto clientSecret (crypto.publicKey bridgeSecret) := by
  simp only [bridgeDeriveSessionKey, clientDeriveSessionKey,
    laws.agreement bridgeSecret clientSecret]

/-! ## A suite that computes

Its tag is a checksum of every sealed byte, so it authenticates nothing against an adversary. It
obeys the same laws as the real suite and stands in for it where a run is evaluated. -/

/-- A positional checksum of a byte list. -/
def checksum (bytes : Bytes) : Nat := bytes.foldl (fun sum byte => sum * 257 + byte.toNat + 1) 0

/-- The checksum tag of a sealing. -/
def checksumTag (key : AeadKey) (nonce : Nonce) (aad message : Bytes) : Bytes :=
  Library.BigEndian.encode tagLen (checksum (key.toList ++ nonce.toList ++ aad ++ message))

/-- A 64-byte checksum signature. -/
def checksumSign (key : SigningKey) (message : Bytes) : Signature :=
  ⟨Library.BigEndian.encode 64 (checksum (key.toList ++ message)), by simp⟩

/-- Append the tag to seal, compare it to open; keys agree by adding bytes. -/
def checksumCrypto : Crypto where
  encrypt key nonce aad message := message ++ checksumTag key nonce aad message
  decrypt key nonce aad ciphertext :=
    let message := ciphertext.take (ciphertext.length - tagLen)
    if ciphertext = message ++ checksumTag key nonce aad message then some message else none
  publicKey secret := secret
  diffieHellman secret peer := List.Vector.map₂ (· + ·) secret peer
  hkdf shared _ := shared
  verifyingKey key := key
  sign := checksumSign
  verify key message signature := decide (signature = checksumSign key message)

/-- The checksum suite obeys every documented law. -/
theorem checksumCrypto_laws : CryptoLaws checksumCrypto where
  decrypt_iff key nonce aad ciphertext message := by
    constructor
    · intro opened
      simp only [checksumCrypto] at opened
      split at opened
      · rename_i tagged
        obtain rfl := Option.some.inj opened
        exact tagged
      · contradiction
    · rintro rfl
      have cut : (message ++ checksumTag key nonce aad message).take
          ((message ++ checksumTag key nonce aad message).length - tagLen) = message := by
        simp [checksumTag]
      simp only [checksumCrypto, cut, ↓reduceIte]
  length_encrypt key nonce aad message := by simp [checksumCrypto, checksumTag]
  agreement left right := by
    obtain ⟨leftBytes, _⟩ := left
    obtain ⟨rightBytes, _⟩ := right
    apply Subtype.ext
    exact List.zipWith_comm_of_comm UInt8.add_comm
  verify_sign key message := by simp [checksumCrypto]

end LowPing
