import LowPing.Bridge.Session
import LowPing.Protocol.Keys

/-!
# Bridge start-up

`run` reads the two keys of its configuration before it binds a socket. Each may be wrong text, of
the wrong length, or, for the backend's key, no point of the curve.
-/

namespace LowPing.Bridge

/-- The fields of `BridgeConfig` that the server reads once. -/
structure KeyConfig where
  /-- Bridge's long-term X25519 secret key (32 bytes hex). -/
  bridgeX25519SeckeyHex : String
  /-- Backend's Ed25519 public key (32 bytes hex). -/
  backendEd25519PubkeyHex : String
  deriving DecidableEq

/-- `default_max_sessions`. -/
def defaultMaxSessions : Nat := 10000
/-- `default_idle_timeout`. -/
def defaultIdleTimeout : UInt64 := 300

/-- Why a key of the configuration is refused. -/
inductive KeyError where
  /-- `hex::decode`. -/
  | hex
  /-- Of the bridge's secret. -/
  | handshake (error : HandshakeError)
  /-- `backend_ed25519_pubkey_hex must be 32 bytes (64 hex chars)` -/
  | pubkeyLength
  /-- `VerifyingKey::from_bytes`. -/
  | pubkeyPoint
  deriving DecidableEq

/-- Why `run` does not start, by the context of its error. -/
inductive StartError where
  /-- Context `bridge_x25519_seckey_hex`. -/
  | bridgeX25519SeckeyHex (error : KeyError)
  /-- Context `backend_ed25519_pubkey_hex`. -/
  | backendEd25519PubkeyHex (error : KeyError)
  deriving DecidableEq

/-- `parsed_x25519_secret`. -/
def KeyConfig.parsedX25519Secret (codec : KeyCodec) (config : KeyConfig) :
    Except KeyError StaticSecret :=
  match codec.hexDecode config.bridgeX25519SeckeyHex with
  | none => .error .hex
  | some bytes => (secretFromBytes bytes).mapError .handshake

/-- `parsed_backend_pubkey`. -/
def KeyConfig.parsedBackendPubkey (codec : KeyCodec) (config : KeyConfig) :
    Except KeyError VerifyingKey :=
  match codec.hexDecode config.backendEd25519PubkeyHex with
  | none => .error .hex
  | some bytes =>
    if length : bytes.length = 32 then
      match codec.verifyingKeyFromBytes ⟨bytes, length⟩ with
      | none => .error .pubkeyPoint
      | some pubkey => .ok pubkey
    else .error .pubkeyLength

/-- `run` up to the socket. -/
def BridgeEnv.load (crypto : Crypto) (codec : KeyCodec) (config : BridgeConfig)
    (keys : KeyConfig) : Except StartError BridgeEnv :=
  match keys.parsedX25519Secret codec with
  | .error failure => .error (.bridgeX25519SeckeyHex failure)
  | .ok bridgeSecret =>
    match keys.parsedBackendPubkey codec with
    | .error failure => .error (.backendEd25519PubkeyHex failure)
    | .ok backendPubkey => .ok ⟨crypto, config, bridgeSecret, backendPubkey⟩

/-- With the keys the two programs print, a bridge starts with these keys. -/
theorem BridgeEnv.load_printed {crypto : Crypto} {codec : KeyCodec} (laws : KeyLaws crypto codec)
    (config : BridgeConfig) (bridgeSecret : StaticSecret) (signingKey : SigningKey) :
    BridgeEnv.load crypto codec config
        ⟨(bridgeGenKey crypto codec bridgeSecret).seckeyHex,
          (backendGenKey crypto codec signingKey).pubkeyHex⟩ =
      .ok ⟨crypto, config, bridgeSecret, crypto.verifyingKey signingKey⟩ := by
  have secret := secretFromBytes_toList bridgeSecret
  have length := (crypto.verifyingKey signingKey).toList_length
  have point := laws.point signingKey
  have read : (⟨(crypto.verifyingKey signingKey).toList, length⟩ : Block 32) =
    crypto.verifyingKey signingKey := rfl
  simp only [load, KeyConfig.parsedX25519Secret, KeyConfig.parsedBackendPubkey, bridgeGenKey,
    backendGenKey, laws.hex, secret, Except.mapError, length, ↓reduceDIte, read, point]

end LowPing.Bridge
