import LowPing.Protocol.Crypto

/-!
# Wire frames

`gr-protocol`'s frame format: a 13-byte plaintext header that is also the associated data, then
the sealed payload. The nonce is derived from the header's connection id and sequence. A SYN frame
carries the client's ephemeral public key between header and ciphertext and authenticates both.
-/

namespace LowPing

/-- Length of the plaintext header. -/
def headerLen : Nat := 13
/-- Header and tag of an empty payload. -/
def minFrameLen : Nat := headerLen + tagLen
/-- Largest payload of one frame. -/
def maxPayloadLen : Nat := 1200
/-- `PROTO_VERSION`. -/
def protoVersion : UInt8 := 1
/-- X25519 public key length on the wire. -/
def pubkeyLen : Nat := 32
/-- Plaintext front of a SYN frame. -/
def synHeaderLen : Nat := headerLen + pubkeyLen
/-- Front and tag of an empty SYN payload. -/
def minSynFrameLen : Nat := synHeaderLen + tagLen

/-- `ProtocolError`. -/
inductive ProtocolError where
  /-- `frame too short: got {got} bytes, need at least {need}` -/
  | truncated (got need : Nat)
  /-- `unknown protocol version {0}` -/
  | unknownVersion (version : UInt8)
  /-- `payload exceeds maximum ({0} > {max})` -/
  | payloadTooLarge (length : Nat)
  /-- `AEAD authentication failed (wrong key, tampered, or replayed)` -/
  | aeadFailed
  deriving DecidableEq

/-- Frame flags occupy the high four bits of the first byte. -/
structure Flags where
  /-- The packed bits. -/
  bits : UInt8
  /-- The version nibble is clear. -/
  high : bits &&& 0x0F = 0
  deriving DecidableEq

namespace Flags

/-- `Flags::empty`. -/
def empty : Flags := ⟨0, by decide⟩
/-- `Flags::SYN`, the first frame of a connection. -/
def syn : Flags := ⟨0x20, by decide⟩

/-- `Flags::from_bits_truncate`; all four high bits are defined flags: beside `SYN` they are
`FEC_PARITY`, `FIN` and `REDUNDANT`. -/
def fromBitsTruncate (bits : UInt8) : Flags :=
  ⟨bits &&& 0xF0, by rw [UInt8.and_assoc]; exact UInt8.and_zero⟩

/-- `Flags::contains`. -/
def contains (flags other : Flags) : Bool := flags.bits &&& other.bits == other.bits

end Flags

/-- The plaintext frame header. -/
structure Header where
  /-- Low nibble of the first byte. -/
  version : UInt8
  /-- High nibble of the first byte. -/
  flags : Flags
  /-- Chosen by the client for its tunnel. -/
  connectionId : UInt32
  /-- Counter of the sending endpoint. -/
  sequence : UInt64
  deriving DecidableEq

/-- `Header::encode`. -/
def Header.encode (header : Header) : Bytes :=
  ((header.version &&& 0x0F) ||| header.flags.bits) ::
    (beBytes32 header.connectionId ++ beBytes64 header.sequence)

/-- `Header::decode`. -/
def Header.decode (buf : Bytes) : Except ProtocolError Header :=
  if buf.length < headerLen then .error (.truncated buf.length headerLen)
  else
    let first := buf.headD 0
    let v := first &&& 0x0F
    if v ≠ protoVersion then .error (.unknownVersion v)
    else .ok {
      version := v
      flags := Flags.fromBitsTruncate (first &&& 0xF0)
      connectionId := ofBeBytes32 ((buf.drop 1).take 4)
      sequence := ofBeBytes64 ((buf.drop 5).take 8) }

/-- `derive_nonce`: connection id, then sequence. -/
def deriveNonce (connectionId : UInt32) (sequence : UInt64) : Nonce :=
  ⟨beBytes32 connectionId ++ beBytes64 sequence, by simp⟩

/-- `encrypt_frame`. -/
def encryptFrame (crypto : Crypto) (key : AeadKey) (header : Header) (payload : Bytes) :
    Except ProtocolError Bytes :=
  if maxPayloadLen < payload.length then .error (.payloadTooLarge payload.length)
  else
    let nonce := deriveNonce header.connectionId header.sequence
    .ok (header.encode ++ crypto.encrypt key nonce header.encode payload)

/-- `decrypt_frame`. -/
def decryptFrame (crypto : Crypto) (key : AeadKey) (wire : Bytes) :
    Except ProtocolError (Header × Bytes) :=
  if wire.length < minFrameLen then .error (.truncated wire.length minFrameLen)
  else match Header.decode (wire.take headerLen) with
    | .error failure => .error failure
    | .ok header =>
      match crypto.decrypt key (deriveNonce header.connectionId header.sequence)
          (wire.take headerLen) (wire.drop headerLen) with
      | none => .error .aeadFailed
      | some payload => .ok (header, payload)

/-- `encrypt_syn_frame`; a header without the SYN flag is not refused. -/
def encryptSynFrame (crypto : Crypto) (key : AeadKey) (header : Header) (clientPubkey : PublicKey)
    (payload : Bytes) : Except ProtocolError Bytes :=
  if maxPayloadLen < payload.length then .error (.payloadTooLarge payload.length)
  else
    let aad := header.encode ++ clientPubkey.toList
    let nonce := deriveNonce header.connectionId header.sequence
    .ok (aad ++ crypto.encrypt key nonce aad payload)

/-- `parse_syn_front`. -/
def parseSynFront (wire : Bytes) : Except ProtocolError (Header × PublicKey) :=
  if short : wire.length < minSynFrameLen then .error (.truncated wire.length minSynFrameLen)
  else match Header.decode (wire.take headerLen) with
    | .error failure => .error failure
    | .ok header => .ok (header, ⟨(wire.drop headerLen).take pubkeyLen, by
        simp only [minSynFrameLen, synHeaderLen, headerLen, pubkeyLen, tagLen] at *
        simp only [List.length_take, List.length_drop]
        omega⟩)

/-- `decrypt_syn_payload`. -/
def decryptSynPayload (crypto : Crypto) (key : AeadKey) (wire : Bytes) :
    Except ProtocolError Bytes :=
  if wire.length < minSynFrameLen then .error (.truncated wire.length minSynFrameLen)
  else match Header.decode (wire.take headerLen) with
    | .error failure => .error failure
    | .ok header =>
      match crypto.decrypt key (deriveNonce header.connectionId header.sequence)
          (wire.take synHeaderLen) (wire.drop synHeaderLen) with
      | none => .error .aeadFailed
      | some payload => .ok payload

/-! ## Lengths, nonces and round trips -/

/-- A header occupies thirteen bytes. -/
@[simp] theorem Header.length_encode (header : Header) : header.encode.length = headerLen := by
  simp [Header.encode, headerLen]

/-- A nonce determines its connection id and sequence. -/
theorem deriveNonce_injective {leftId rightId : UInt32} {leftSeq rightSeq : UInt64}
    (same : deriveNonce leftId leftSeq = deriveNonce rightId rightSeq) :
    leftId = rightId ∧ leftSeq = rightSeq := by
  have bytes := congrArg List.Vector.toList same
  obtain ⟨ids, sequences⟩ := List.append_inj bytes (by simp)
  constructor
  · simpa using congrArg ofBeBytes32 ids
  · simpa using congrArg ofBeBytes64 sequences

/-- Masking distributes over a packed byte. -/
theorem or_and_mask (left right mask : UInt8) :
    (left ||| right) &&& mask = (left &&& mask) ||| (right &&& mask) :=
  UInt8.toBitVec_inj.mp BitVec.and_or_distrib_right

/-- The flag bits lie in the high nibble. -/
theorem Flags.and_high (flags : Flags) : flags.bits &&& 0xF0 = flags.bits := by
  have mask : (0xF0 : UInt8) ||| 0x0F = -1 := by decide
  calc flags.bits &&& 0xF0 = (0xF0 &&& flags.bits) ||| (0x0F &&& flags.bits) := by
        rw [UInt8.and_comm 0x0F, flags.high, UInt8.or_zero, UInt8.and_comm]
    _ = flags.bits := by rw [← or_and_mask, mask, UInt8.neg_one_and]

/-- Version and flags are read back from the packed first byte. -/
theorem packed_byte (flags : Flags) :
    ((protoVersion &&& 0x0F) ||| flags.bits) &&& 0x0F = protoVersion ∧
      Flags.fromBitsTruncate (((protoVersion &&& 0x0F) ||| flags.bits) &&& 0xF0) = flags := by
  have version : (protoVersion &&& 0x0F) &&& 0xF0 = 0 := by decide
  constructor
  · rw [or_and_mask, flags.high]
    decide
  · obtain ⟨bits, high⟩ := flags
    have kept := Flags.and_high ⟨bits, high⟩
    simp only [Flags.fromBitsTruncate, or_and_mask, version, UInt8.zero_or, kept]

/-- A data frame has no SYN flag. -/
theorem empty_contains_syn : Flags.empty.contains Flags.syn = false := by decide

/-- A SYN has it. -/
theorem syn_contains_syn : Flags.syn.contains Flags.syn = true := by decide

/-- A header of the current version is read back from its bytes. -/
theorem Header.decode_encode (header : Header) (current : header.version = protoVersion)
    (suffix : Bytes) : Header.decode (header.encode ++ suffix) = .ok header := by
  obtain ⟨version, flags, connectionId, sequence⟩ := header
  obtain rfl : version = protoVersion := current
  obtain ⟨low, high⟩ := packed_byte flags
  have long : ¬ (Header.encode ⟨protoVersion, flags, connectionId, sequence⟩ ++ suffix).length <
      headerLen := by simp
  have id : ((beBytes32 connectionId ++ beBytes64 sequence ++ suffix).take 4) =
      beBytes32 connectionId := by simp
  have counter : ((beBytes32 connectionId ++ beBytes64 sequence ++ suffix).drop 4).take 8 =
      beBytes64 sequence := by simp
  simp only [Header.decode, if_neg long]
  simp only [Header.encode, List.cons_append, List.headD_cons, List.drop_succ_cons, List.drop_zero,
    low, high, id, counter, ofBeBytes32_beBytes32, ofBeBytes64_beBytes64, ne_eq,
    not_true_eq_false, ↓reduceIte]

/-- A header is read from the first bytes alone. -/
theorem decode_take {wire : Bytes} : Header.decode (wire.take headerLen) = Header.decode wire := by
  by_cases short : wire.length < headerLen
  · rw [List.take_of_length_le (Nat.le_of_lt short)]
  · have first : (wire.take headerLen).headD 0 = wire.headD 0 := by
      cases wire <;> rfl
    have id : ((wire.take headerLen).drop 1).take 4 = (wire.drop 1).take 4 := by
      rw [List.drop_take, List.take_take]
      rfl
    have counter : ((wire.take headerLen).drop 5).take 8 = (wire.drop 5).take 8 := by
      rw [List.drop_take, List.take_take]
      rfl
    have long : ¬ (wire.take headerLen).length < headerLen := by
      rw [List.length_take]
      omega
    simp only [Header.decode, short, long, ↓reduceIte, first, id, counter]

/-- The front of a SYN has the header its datagram is routed by. -/
theorem parseSynFront_header {wire : Bytes} {header : Header} {clientPk : PublicKey}
    (front : parseSynFront wire = .ok (header, clientPk)) : Header.decode wire = .ok header := by
  unfold parseSynFront at front
  split at front
  · contradiction
  · split at front
    · contradiction
    · rename_i read decoded
      obtain ⟨rfl, _⟩ := Prod.mk.inj (Except.ok.inj front)
      rw [← decode_take, decoded]

/-- What `decrypt_frame` accepts: a readable header and a ciphertext that opens under the nonce
and associated data of that header. -/
theorem decryptFrame_ok {crypto : Crypto} {key : AeadKey} {wire : Bytes} {header : Header}
    {payload : Bytes} (opened : decryptFrame crypto key wire = .ok (header, payload)) :
    minFrameLen ≤ wire.length ∧ Header.decode (wire.take headerLen) = .ok header ∧
      crypto.decrypt key (deriveNonce header.connectionId header.sequence) (wire.take headerLen)
        (wire.drop headerLen) = some payload := by
  unfold decryptFrame at opened
  split at opened
  · contradiction
  · rename_i long
    split at opened
    · contradiction
    · rename_i read front
      split at opened
      · contradiction
      · rename_i plain body
        simp only [Except.ok.injEq, Prod.mk.injEq] at opened
        obtain ⟨rfl, rfl⟩ := opened
        exact ⟨Nat.le_of_not_lt long, front, body⟩

/-- What `encrypt_frame` produces, and when. -/
theorem encryptFrame_ok {crypto : Crypto} {key : AeadKey} {header : Header} {payload wire : Bytes}
    (sealed : encryptFrame crypto key header payload = .ok wire) :
    payload.length ≤ maxPayloadLen ∧ wire = header.encode ++ crypto.encrypt key
      (deriveNonce header.connectionId header.sequence) header.encode payload := by
  by_cases long : maxPayloadLen < payload.length
  · simp [encryptFrame, long] at sealed
  · simp only [encryptFrame, long, ↓reduceIte, Except.ok.injEq] at sealed
    exact ⟨Nat.le_of_not_lt long, sealed.symm⟩

/-- A frame of the current version opens to its header and payload under its own key. -/
theorem decryptFrame_encryptFrame {crypto : Crypto} (laws : CryptoLaws crypto) {key : AeadKey}
    {header : Header} {payload wire : Bytes} (current : header.version = protoVersion)
    (sealed : encryptFrame crypto key header payload = .ok wire) :
    decryptFrame crypto key wire = .ok (header, payload) := by
  obtain ⟨_, rfl⟩ := encryptFrame_ok sealed
  have front : Header.decode header.encode = .ok header := by
    simpa using header.decode_encode current []
  have long : ¬ (header.encode ++ crypto.encrypt key (deriveNonce header.connectionId
      header.sequence) header.encode payload).length < minFrameLen := by
    simp [minFrameLen, laws.length_encrypt]
  have cut : headerLen = header.encode.length := header.length_encode.symm
  simp only [decryptFrame, long, ↓reduceIte, cut, List.take_left, List.drop_left, front,
    laws.decrypt_encrypt]

/-- A payload that fits is sealed. -/
theorem encryptFrame_fits (crypto : Crypto) (key : AeadKey) (header : Header) {payload : Bytes}
    (fits : payload.length ≤ maxPayloadLen) :
    ∃ wire, encryptFrame crypto key header payload = .ok wire :=
  ⟨_, by simp only [encryptFrame, Nat.not_lt_of_le fits, ↓reduceIte]; rfl⟩

/-- A SYN payload that fits is sealed. -/
theorem encryptSynFrame_fits (crypto : Crypto) (key : AeadKey) (header : Header)
    (clientPubkey : PublicKey) {payload : Bytes} (fits : payload.length ≤ maxPayloadLen) :
    ∃ wire, encryptSynFrame crypto key header clientPubkey payload = .ok wire :=
  ⟨_, by simp only [encryptSynFrame, Nat.not_lt_of_le fits, ↓reduceIte]; rfl⟩

/-- A sealed SYN payload opens under its own key. -/
theorem decryptSynPayload_encryptSynFrame {crypto : Crypto} (laws : CryptoLaws crypto)
    {key : AeadKey} {header : Header} {clientPubkey : PublicKey} {payload wire : Bytes}
    (current : header.version = protoVersion)
    (sealed : encryptSynFrame crypto key header clientPubkey payload = .ok wire) :
    decryptSynPayload crypto key wire = .ok payload := by
  unfold encryptSynFrame at sealed
  split at sealed
  · contradiction
  · obtain rfl := Except.ok.inj sealed
    have cut : (header.encode ++ clientPubkey.toList).length = synHeaderLen := by
      simp [synHeaderLen, pubkeyLen]
    have long : ¬ (header.encode ++ clientPubkey.toList ++ crypto.encrypt key
        (deriveNonce header.connectionId header.sequence) (header.encode ++ clientPubkey.toList)
        payload).length < minSynFrameLen := by
      rw [List.length_append, cut, laws.length_encrypt, minSynFrameLen]
      omega
    have front : Header.decode (header.encode ++ clientPubkey.toList ++ crypto.encrypt key
        (deriveNonce header.connectionId header.sequence) (header.encode ++ clientPubkey.toList)
        payload) = .ok header := by
      rw [List.append_assoc]
      exact header.decode_encode current _
    simp only [decryptSynPayload, if_neg long, decode_take, front, List.take_left' cut,
      List.drop_left' cut, laws.decrypt_encrypt]

end LowPing
