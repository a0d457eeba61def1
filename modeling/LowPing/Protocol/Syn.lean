import LowPing.Protocol.Frame
import LowPing.Protocol.Text

/-!
# SYN payload: licence token and connect request

The sealed payload of a SYN frame is an 88-byte licence token followed by a connect request. The
bridge splits it at the token's fixed length.
-/

namespace LowPing

/-! ## Licence tokens -/

/-- Signed part of a token: user id, two timestamps, scope. -/
def payloadLen : Nat := 4 + 8 + 8 + 4
/-- Ed25519 signature length. -/
def sigLen : Nat := 64
/-- `TOKEN_LEN`. -/
def tokenLen : Nat := payloadLen + sigLen

/-- `LicenseError`. -/
inductive LicenseError where
  /-- `token wrong length: got {0} bytes, need {expected}` -/
  | wrongLength (got : Nat)
  /-- `base64 decode error: {0}` -/
  | base64
  /-- `invalid signature` -/
  | badSignature
  /-- `token expired at {expires_at} (now {now})` -/
  | expired (expiresAt now : Int64)
  /-- `token not yet valid: issued_at {issued_at} > now {now}` -/
  | notYetValid (issuedAt now : Int64)
  deriving DecidableEq

/-- `LicensePayload`. Timestamps are Unix seconds; bit 0 of the scope means any bridge. -/
structure LicensePayload where
  /-- Issued by the backend's counter. -/
  userId : UInt32
  /-- First valid second. -/
  issuedAt : Int64
  /-- First second no longer valid. -/
  expiresAt : Int64
  /-- Feature bits. -/
  scope : UInt32
  deriving DecidableEq

/-- `LicensePayload::encode`. -/
def LicensePayload.encode (payload : LicensePayload) : Bytes :=
  beBytes32 payload.userId ++ beBytesI64 payload.issuedAt ++ beBytesI64 payload.expiresAt ++
    beBytes32 payload.scope

/-- `LicensePayload::decode`, of at least `payloadLen` bytes. -/
def LicensePayload.decode (buf : Bytes) : LicensePayload where
  userId := ofBeBytes32 (buf.take 4)
  issuedAt := ofBeBytesI64 ((buf.drop 4).take 8)
  expiresAt := ofBeBytesI64 ((buf.drop 12).take 8)
  scope := ofBeBytes32 ((buf.drop 20).take 4)

/-- `LicenseToken`. -/
structure LicenseToken where
  /-- The signed part. -/
  payload : LicensePayload
  /-- Over the payload's encoding. -/
  signature : Signature
  deriving DecidableEq

/-- `LicenseToken::sign`. -/
def LicenseToken.sign (crypto : Crypto) (payload : LicensePayload) (key : SigningKey) :
    LicenseToken := ⟨payload, crypto.sign key payload.encode⟩

/-- `LicenseToken::verify`: the signature, then `issued_at <= now < expires_at`. -/
def LicenseToken.verify (crypto : Crypto) (token : LicenseToken) (backendPubkey : VerifyingKey)
    (nowUnix : Int64) : Except LicenseError Unit :=
  if crypto.verify backendPubkey token.payload.encode token.signature = false then
    .error .badSignature
  else if nowUnix < token.payload.issuedAt then
    .error (.notYetValid token.payload.issuedAt nowUnix)
  else if nowUnix ≥ token.payload.expiresAt then
    .error (.expired token.payload.expiresAt nowUnix)
  else .ok ()

/-- `LicenseToken::to_bytes`. -/
def LicenseToken.toBytes (token : LicenseToken) : Bytes :=
  token.payload.encode ++ token.signature.toList

/-- `LicenseToken::from_bytes`. -/
def LicenseToken.fromBytes (bytes : Bytes) : Except LicenseError LicenseToken :=
  if exact : bytes.length = tokenLen then
    .ok ⟨LicensePayload.decode (bytes.take payloadLen), ⟨bytes.drop payloadLen, by
      simp only [tokenLen, payloadLen, sigLen] at *
      simp only [List.length_drop]
      omega⟩⟩
  else .error (.wrongLength bytes.length)

/-- `LicenseToken::to_string_b64`. -/
def LicenseToken.toStringB64 (text : TextCodec) (token : LicenseToken) : String :=
  text.base64Encode token.toBytes

/-- `LicenseToken::from_string_b64`. -/
def LicenseToken.fromStringB64 (text : TextCodec) (s : String) :
    Except LicenseError LicenseToken :=
  match text.base64Decode s with
  | none => .error .base64
  | some bytes => LicenseToken.fromBytes bytes

/-! ## Connect requests -/

/-- `TransportProtocol`. -/
inductive TransportProtocol where
  | tcp
  | udp
  deriving DecidableEq

/-- The discriminant written on the wire. -/
def TransportProtocol.toByte : TransportProtocol → UInt8
  | .tcp => 1
  | .udp => 2

/-- `TransportProtocol::from_byte`. -/
def TransportProtocol.fromByte (b : UInt8) : Option TransportProtocol :=
  if b = 1 then some .tcp else if b = 2 then some .udp else none

/-- `ConnectRequest`: the destination the bridge opens a socket to. -/
structure ConnectRequest where
  /-- TCP or UDP. -/
  protocol : TransportProtocol
  /-- Either family. -/
  destIp : IpAddr
  /-- Destination port. -/
  destPort : UInt16
  deriving DecidableEq

/-- `ConnectRequest::encode`. -/
def ConnectRequest.encode (request : ConnectRequest) : Bytes :=
  let address : Bytes × UInt8 := match request.destIp with
    | .v4 v4 => (v4.octets.toList, 4)
    | .v6 v6 => (v6.octets.toList, 16)
  request.protocol.toByte :: address.2 :: (address.1 ++ beBytes16 request.destPort)

/-- `ConnectRequest::decode`. An unknown protocol byte is reported as a truncation. -/
def ConnectRequest.decode (buf : Bytes) : Except ProtocolError ConnectRequest :=
  if buf.length < 4 then .error (.truncated buf.length 4)
  else match TransportProtocol.fromByte (buf.headD 0) with
    | none => .error (.truncated buf.length 4)
    | some protocol =>
      if four : (buf.getD 1 0).toNat = 4 then
        if short : buf.length < 8 then .error (.truncated buf.length 8)
        else .ok ⟨protocol, .v4 ⟨⟨(buf.drop 2).take 4, by
          simp only [List.length_take, List.length_drop]
          omega⟩⟩, ofBeBytes16 ((buf.drop 6).take 2)⟩
      else if sixteen : (buf.getD 1 0).toNat = 16 then
        if short : buf.length < 20 then .error (.truncated buf.length 20)
        else .ok ⟨protocol, .v6 ⟨⟨(buf.drop 2).take 16, by
          simp only [List.length_take, List.length_drop]; omega⟩⟩,
          ofBeBytes16 ((buf.drop 18).take 2)⟩
      else .error (.truncated buf.length (4 + (buf.getD 1 0).toNat))

/-- A token occupies 88 bytes. -/
@[simp] theorem LicenseToken.length_toBytes (token : LicenseToken) :
    token.toBytes.length = tokenLen := by
  simp [toBytes, LicensePayload.encode, tokenLen, payloadLen, sigLen]

/-- A token that verifies is signed and within its validity. -/
theorem verify_ok {crypto : Crypto} {token : LicenseToken} {backendPubkey : VerifyingKey}
    {nowUnix : Int64} (verified : token.verify crypto backendPubkey nowUnix = .ok ()) :
    crypto.verify backendPubkey token.payload.encode token.signature = true ∧
      token.payload.issuedAt ≤ nowUnix ∧ nowUnix < token.payload.expiresAt := by
  unfold LicenseToken.verify at verified
  split at verified
  · contradiction
  · rename_i signed
    split at verified
    · contradiction
    · rename_i begun
      split at verified
      · contradiction
      · rename_i unexpired
        exact ⟨by simpa using signed, Int64.not_lt.mp begun, Int64.not_le.mp unexpired⟩

/-! ## Round trips -/

/-- A signed payload is read back from its bytes. -/
theorem LicensePayload.decode_encode (payload : LicensePayload) :
    LicensePayload.decode payload.encode = payload := by
  obtain ⟨userId, issuedAt, expiresAt, scope⟩ := payload
  have expires : (beBytes32 userId ++ beBytesI64 issuedAt ++ beBytesI64 expiresAt ++
      beBytes32 scope).drop 12 = beBytesI64 expiresAt ++ beBytes32 scope := by
    rw [List.append_assoc (beBytes32 userId ++ beBytesI64 issuedAt)]
    exact List.drop_left' (by simp)
  have scopes : (beBytes32 userId ++ beBytesI64 issuedAt ++ beBytesI64 expiresAt ++
      beBytes32 scope).drop 20 = beBytes32 scope := List.drop_left' (by simp)
  have whole : (beBytes32 scope).take 4 = beBytes32 scope := List.take_of_length_le (by simp)
  simp only [LicensePayload.decode, LicensePayload.encode, expires, scopes, whole]
  simp

/-- A token is read back from its bytes. -/
theorem LicenseToken.fromBytes_toBytes (token : LicenseToken) :
    LicenseToken.fromBytes token.toBytes = .ok token := by
  have length : token.payload.encode.length = payloadLen := by
    simp [LicensePayload.encode, payloadLen]
  have payload : LicensePayload.decode (token.toBytes.take payloadLen) = token.payload := by
    rw [toBytes, List.take_left' length, LicensePayload.decode_encode]
  have signature : token.toBytes.drop payloadLen = token.signature.toList := by
    rw [toBytes, List.drop_left' length]
  obtain ⟨own, ⟨bytes, size⟩⟩ := token
  simp only [fromBytes, length_toBytes, ↓reduceDIte, payload, signature]
  rfl

/-- A token is read back from the first bytes of a SYN payload. -/
theorem LicenseToken.fromBytes_take (token : LicenseToken) (suffix : Bytes) :
    LicenseToken.fromBytes ((token.toBytes ++ suffix).take tokenLen) = .ok token := by
  rw [List.take_left' token.length_toBytes, fromBytes_toBytes]

/-- A token is read back from its text. -/
theorem LicenseToken.fromStringB64_toStringB64 {text : TextCodec} (laws : TextLaws text)
    (token : LicenseToken) :
    LicenseToken.fromStringB64 text (token.toStringB64 text) = .ok token := by
  simp only [fromStringB64, toStringB64, laws.base64, fromBytes_toBytes]

/-- A signed token verifies under the signer's key from its issue until its expiry. -/
theorem LicenseToken.verify_sign {crypto : Crypto} (laws : CryptoLaws crypto) (key : SigningKey)
    {payload : LicensePayload} {nowUnix : Int64} (begun : payload.issuedAt ≤ nowUnix)
    (unexpired : nowUnix < payload.expiresAt) :
    (LicenseToken.sign crypto payload key).verify crypto (crypto.verifyingKey key) nowUnix =
      .ok () := by
  simp [verify, sign, laws.verify_sign, Int64.not_lt.mpr begun, Int64.not_le.mpr unexpired]

/-- A protocol is read back from its byte. -/
@[simp] theorem TransportProtocol.fromByte_toByte (protocol : TransportProtocol) :
    TransportProtocol.fromByte protocol.toByte = some protocol := by
  cases protocol <;> decide

/-- A request is read back from its bytes, whatever follows. -/
theorem ConnectRequest.decode_encode (request : ConnectRequest) (suffix : Bytes) :
    ConnectRequest.decode (request.encode ++ suffix) = .ok request := by
  obtain ⟨protocol, address, port⟩ := request
  cases address with
  | v4 v4 =>
    obtain ⟨octets, length⟩ := v4
    have address : (octets ++ (beBytes16 port ++ suffix)).take 4 = octets := List.take_left' length
    have rest : (octets ++ (beBytes16 port ++ suffix)).drop 4 = beBytes16 port ++ suffix :=
      List.drop_left' length
    have bound : ¬ octets.length + (2 + suffix.length) + 1 + 1 < 8 := by omega
    have enough : 2 ≤ octets.length + (2 + suffix.length) := by omega
    simp [encode, decode, List.Vector.toList_mk, address, rest, bound, enough]
  | v6 v6 =>
    obtain ⟨octets, length⟩ := v6
    have address : (octets ++ (beBytes16 port ++ suffix)).take 16 = octets := List.take_left' length
    have rest : (octets ++ (beBytes16 port ++ suffix)).drop 16 = beBytes16 port ++ suffix :=
      List.drop_left' length
    have bound : ¬ octets.length + (2 + suffix.length) + 1 + 1 < 20 := by omega
    have enough : 2 ≤ octets.length + (2 + suffix.length) := by omega
    simp [encode, decode, List.Vector.toList_mk, address, rest, bound, enough]

/-- A request has at least the bytes of an IPv4 one. -/
theorem ConnectRequest.length_encode (request : ConnectRequest) : 8 ≤ request.encode.length := by
  obtain ⟨protocol, address, port⟩ := request
  cases address <;> simp [encode]

/-- The parts of a SYN payload, in the order both `open_tunnel` copies write them. -/
def synPayload (token : LicenseToken) (connect : ConnectRequest) : Bytes :=
  token.toBytes ++ connect.encode

/-- A SYN payload always fits one frame. -/
theorem synPayload_fits (token : LicenseToken) (connect : ConnectRequest) :
    (synPayload token connect).length ≤ maxPayloadLen := by
  obtain ⟨protocol, ip, port⟩ := connect
  cases ip <;> simp [synPayload, ConnectRequest.encode, tokenLen, payloadLen, sigLen, maxPayloadLen]

end LowPing
