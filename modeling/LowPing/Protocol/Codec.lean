import LowPing.Library.Codec
import LowPing.Protocol.Syn

/-!
# Exactness of the codecs

Header, frame, SYN frame and the parts of a SYN payload are read exactly as they are written: every
value is read back, and no byte string is read that is not the encoding of what it is read as. Of
the cipher only the laws of authenticated encryption are used.
-/

namespace LowPing

open Library.Codec

/-- The laws of the AEAD cipher. -/
structure AeadLaws (crypto : Crypto) : Prop where
  /-- Opening returns a message exactly on the ciphertext that sealing it produces. -/
  decrypt_iff : ∀ key nonce aad ciphertext message,
    crypto.decrypt key nonce aad ciphertext = some message ↔
      ciphertext = crypto.encrypt key nonce aad message
  /-- Sealing adds the tag. -/
  length_encrypt : ∀ key nonce aad message,
    (crypto.encrypt key nonce aad message).length = message.length + tagLen

/-- The laws of the AEAD are among the laws of the suite. -/
theorem CryptoLaws.aead {crypto : Crypto} (laws : CryptoLaws crypto) : AeadLaws crypto :=
  ⟨laws.decrypt_iff, laws.length_encrypt⟩

/-! ## Headers -/

/-- The first byte of a header is put together from the nibbles it is read as. -/
theorem unpacked_byte (first : UInt8) :
    ((first &&& 0x0F) &&& 0x0F) ||| (Flags.fromBitsTruncate (first &&& 0xF0)).bits = first := by
  have low : (0x0F : UInt8) &&& 0x0F = 0x0F := by decide
  have high : (0xF0 : UInt8) &&& 0xF0 = 0xF0 := by decide
  have whole : (0x0F : UInt8) ||| 0xF0 = -1 := by decide
  calc ((first &&& 0x0F) &&& 0x0F) ||| ((first &&& 0xF0) &&& 0xF0)
      = (0x0F &&& first) ||| (0xF0 &&& first) := by
        rw [UInt8.and_assoc, low, UInt8.and_assoc, high, UInt8.and_comm first,
          UInt8.and_comm first]
    _ = first := by rw [← or_and_mask, whole, UInt8.neg_one_and]

/-- A header read is of the current version, and its bytes are those it was read from. -/
theorem Header.decode_ok {buf : Bytes} {header : Header} (read : Header.decode buf = .ok header) :
    header.version = protoVersion ∧ headerLen ≤ buf.length ∧
      header.encode = buf.take headerLen := by
  unfold Header.decode at read
  split at read
  · contradiction
  · rename_i long
    dsimp only at read
    split at read
    · contradiction
    · rename_i current
      obtain rfl := Except.ok.inj read
      have enough : headerLen ≤ buf.length := Nat.le_of_not_lt long
      refine ⟨not_not.mp current, enough, ?_⟩
      cases buf with
      | nil => contradiction
      | cons first rest =>
        simp only [headerLen, List.length_cons] at enough
        have id : beBytes32 (ofBeBytes32 (rest.take 4)) = rest.take 4 :=
          beBytes32_ofBeBytes32 (by rw [List.length_take]; omega)
        have counter : beBytes64 (ofBeBytes64 ((rest.drop 4).take 8)) = (rest.drop 4).take 8 :=
          beBytes64_ofBeBytes64 (by rw [List.length_take, List.length_drop]; omega)
        have twelve : rest.take (4 + 8) = rest.take 4 ++ (rest.drop 4).take 8 := List.take_add
        rw [headerLen, List.take_succ_cons, twelve]
        simp only [Header.encode, List.headD_cons, List.drop_succ_cons, List.drop_zero, id,
          counter, unpacked_byte]

/-- Headers of the current version are read exactly, whatever follows them. -/
theorem Header.exactPrefix :
    ExactPrefix (fun header : Header => header.version = protoVersion) Header.encode
      Header.decode where
  decode_append header suffix current := header.decode_encode current suffix
  canonical buf header read := by
    obtain ⟨current, _, bytes⟩ := Header.decode_ok read
    exact ⟨current, bytes ▸ List.take_prefix _ _⟩

/-! ## Frames -/

/-- The sealed part of a frame. -/
def sealFrame (crypto : Crypto) (key : AeadKey) (header : Header) (payload : Bytes) : Bytes :=
  crypto.encrypt key (deriveNonce header.connectionId header.sequence) header.encode payload

/-- The plaintext front of a SYN frame. -/
def synFront (front : Header × PublicKey) : Bytes := front.1.encode ++ front.2.toList

/-- The sealed part of a SYN frame. -/
def sealSyn (crypto : Crypto) (key : AeadKey) (front : Header × PublicKey) (payload : Bytes) :
    Bytes :=
  crypto.encrypt key (deriveNonce front.1.connectionId front.1.sequence) (synFront front) payload

/-- `parse_syn_front`, then `decrypt_syn_payload`. -/
def decryptSyn (crypto : Crypto) (key : AeadKey) (wire : Bytes) :
    Except ProtocolError ((Header × PublicKey) × Bytes) := do
  let front ← parseSynFront wire
  let payload ← decryptSynPayload crypto key wire
  pure (front, payload)

/-- What a format of sealed frames promises of the function that seals a payload behind a plaintext
front and the one that returns both: a round trip for every payload that fits, and nothing but the
front of what is read and its sealing is read, so that a front with an altered byte is not read as
it was. -/
structure SealedFormat {φ : Type} (overhead : Nat) (header : φ → Header) (front : φ → Bytes)
    (body : φ → Bytes → Bytes) (encrypt : φ → Bytes → Except ProtocolError Bytes)
    (decrypt : Bytes → Except ProtocolError (φ × Bytes)) : Prop where
  /-- Sealing fails exactly if the payload is too long. -/
  fails_iff : ∀ head payload, (header head).version = protoVersion →
    ((∃ failure, encrypt head payload = .error failure) ↔ 1200 < payload.length)
  /-- What is sealed is opened. -/
  round_trip : ∀ head payload wire, (header head).version = protoVersion →
    encrypt head payload = .ok wire →
    wire.length = overhead + payload.length ∧ decrypt wire = .ok (head, payload)
  /-- What opens is the front and the sealing of what it opens to. -/
  canonical : ∀ wire head payload, decrypt wire = .ok (head, payload) →
    wire = front head ++ body head payload
  /-- No two frames open to the same. -/
  wire_eq : ∀ wire other opened, decrypt wire = .ok opened → decrypt other = .ok opened →
    wire = other
  /-- A frame with another header is refused or opens with another header. -/
  altered_header : ∀ wire other head payload head' payload',
    decrypt wire = .ok (head, payload) → other.take headerLen ≠ wire.take headerLen →
    decrypt other = .ok (head', payload') → header head' ≠ header head
  /-- A frame with another front is refused or opens with another front. -/
  altered_front : ∀ wire other head payload head' payload',
    decrypt wire = .ok (head, payload) →
    other.take (front head).length ≠ wire.take (front head).length →
    decrypt other = .ok (head', payload') → head' ≠ head

section

variable {φ : Type} {overhead : Nat} {header : φ → Header} {front : φ → Bytes}
  {body : φ → Bytes → Bytes} {encrypt : φ → Bytes → Except ProtocolError Bytes}
  {decrypt : Bytes → Except ProtocolError (φ × Bytes)}

/-- A format is as promised when its decoder is exact and its encoder checks the length. -/
theorem SealedFormat.of_exact
    (exact : Exact (fun value => (header value.1).version = protoVersion)
      (fun value => front value.1 ++ body value.1 value.2) decrypt)
    (sealing : ∀ head payload, encrypt head payload =
      if maxPayloadLen < payload.length then .error (.payloadTooLarge payload.length)
      else .ok (front head ++ body head payload))
    (sized : ∀ head payload, (front head ++ body head payload).length =
      overhead + payload.length)
    (starts : ∀ head, (header head).encode <+: front head)
    (fixed : ∀ head head', (front head).length = (front head').length) :
    SealedFormat overhead header front body encrypt decrypt where
  fails_iff head payload _ := by
    rw [sealing]
    by_cases long : maxPayloadLen < payload.length
    · rw [if_pos long]
      exact iff_of_true ⟨_, rfl⟩ long
    · rw [if_neg long]
      exact iff_of_false (fun ⟨_, failed⟩ => by contradiction) long
  round_trip head payload wire current sealed := by
    rw [sealing] at sealed
    split at sealed
    · contradiction
    · obtain rfl := Except.ok.inj sealed
      exact ⟨sized head payload, exact.decode_encode (head, payload) current⟩
  canonical wire head payload opened := (exact.canonical wire (head, payload) opened).2
  wire_eq wire other opened first second := exact.wire_eq first second
  altered_header wire other head payload head' payload' opened altered openedOther := by
    have fronts := exact.front_ne (fun value => (header value.1).encode)
      (fun value => (starts value.1).trans (List.prefix_append _ _))
      (fun value => Header.length_encode _) altered opened openedOther
    exact fun same => fronts (congrArg Header.encode same)
  altered_front wire other head payload head' payload' opened altered openedOther := by
    have fronts := exact.front_ne (fun value => front value.1)
      (fun value => List.prefix_append _ _) (fun value => fixed value.1 head) altered opened
      openedOther
    exact fun same => fronts (congrArg front same)

end

section

variable {crypto : Crypto} {key : AeadKey}

/-- Frames are read exactly. -/
theorem decryptFrame_exact (laws : AeadLaws crypto) (key : AeadKey) :
    Exact (fun value : Header × Bytes => value.1.version = protoVersion)
      (fun value => value.1.encode ++ sealFrame crypto key value.1 value.2)
      (decryptFrame crypto key) where
  decode_encode value current := by
    obtain ⟨header, payload⟩ := value
    have front : Header.decode header.encode = .ok header := by
      simpa using header.decode_encode current []
    have long : ¬ (header.encode ++ sealFrame crypto key header payload).length <
        minFrameLen := by
      simp [minFrameLen, sealFrame, laws.length_encrypt]
    have opened : crypto.decrypt key (deriveNonce header.connectionId header.sequence)
        header.encode (sealFrame crypto key header payload) = some payload :=
      (laws.decrypt_iff _ _ _ _ _).mpr rfl
    have cut : headerLen = header.encode.length := header.length_encode.symm
    simp only [decryptFrame, long, ↓reduceIte, cut, List.take_left, List.drop_left, front, opened]
  canonical wire value opened := by
    obtain ⟨header, payload⟩ := value
    obtain ⟨long, front, body⟩ := decryptFrame_ok opened
    obtain ⟨current, _, bytes⟩ := Header.decode_ok front
    rw [List.take_take, Nat.min_self] at bytes
    refine ⟨current, ?_⟩
    rw [← bytes] at body
    have rest := (laws.decrypt_iff _ _ _ _ _).mp body
    calc wire = wire.take headerLen ++ wire.drop headerLen := (List.take_append_drop _ _).symm
      _ = header.encode ++ sealFrame crypto key header payload := by rw [← bytes, rest]; rfl

/-- What `decrypt_syn_payload` accepts. -/
theorem decryptSynPayload_ok {wire payload : Bytes}
    (opened : decryptSynPayload crypto key wire = .ok payload) :
    ∃ header, Header.decode (wire.take headerLen) = .ok header ∧
      crypto.decrypt key (deriveNonce header.connectionId header.sequence)
        (wire.take synHeaderLen) (wire.drop synHeaderLen) = some payload := by
  unfold decryptSynPayload at opened
  split at opened
  · contradiction
  · split at opened
    · contradiction
    · rename_i header front
      split at opened
      · contradiction
      · rename_i body
        obtain rfl := Except.ok.inj opened
        exact ⟨header, front, body⟩

/-- What `parse_syn_front` accepts: the front of a SYN frame is the front it was read from. -/
theorem parseSynFront_ok {wire : Bytes} {front : Header × PublicKey}
    (parsed : parseSynFront wire = .ok front) :
    Header.decode (wire.take headerLen) = .ok front.1 ∧
      synFront front = wire.take synHeaderLen := by
  unfold parseSynFront at parsed
  split at parsed
  · contradiction
  · split at parsed
    · contradiction
    · rename_i header decoded
      obtain rfl := Except.ok.inj parsed
      obtain ⟨_, _, bytes⟩ := Header.decode_ok decoded
      rw [List.take_take, Nat.min_self] at bytes
      refine ⟨decoded, ?_⟩
      rw [synFront, synHeaderLen, List.take_add, bytes, List.Vector.toList_mk]

/-- A front occupies 45 bytes. -/
@[simp] theorem length_synFront (front : Header × PublicKey) :
    (synFront front).length = synHeaderLen := by
  simp [synFront, synHeaderLen, pubkeyLen]

/-- A front and a sealed payload are read back. -/
theorem decryptSyn_sealSyn (laws : AeadLaws crypto) (key : AeadKey) (front : Header × PublicKey)
    (current : front.1.version = protoVersion) (payload : Bytes) :
    decryptSyn crypto key (synFront front ++ sealSyn crypto key front payload) =
      .ok (front, payload) := by
  obtain ⟨header, clientPk⟩ := front
  have long : ¬ (synFront (header, clientPk) ++
      sealSyn crypto key (header, clientPk) payload).length < minSynFrameLen := by
    rw [List.length_append, length_synFront, sealSyn, laws.length_encrypt, minSynFrameLen]
    omega
  have decoded : Header.decode (synFront (header, clientPk) ++
      sealSyn crypto key (header, clientPk) payload) = .ok header := by
    rw [synFront, List.append_assoc]
    exact header.decode_encode current _
  have cut := length_synFront (header, clientPk)
  have opened : crypto.decrypt key (deriveNonce header.connectionId header.sequence)
      (synFront (header, clientPk)) (sealSyn crypto key (header, clientPk) payload) =
        some payload := (laws.decrypt_iff _ _ _ _ _).mpr rfl
  have pubkey : ((synFront (header, clientPk) ++
      sealSyn crypto key (header, clientPk) payload).drop headerLen).take pubkeyLen =
        clientPk.toList := by
    rw [synFront, List.append_assoc, List.drop_left' header.length_encode]
    exact List.take_left' clientPk.toList_length
  have front : parseSynFront (synFront (header, clientPk) ++
      sealSyn crypto key (header, clientPk) payload) = .ok (header, clientPk) := by
    simp only [parseSynFront, dif_neg long, decode_take, decoded, pubkey]
    rfl
  have body : decryptSynPayload crypto key (synFront (header, clientPk) ++
      sealSyn crypto key (header, clientPk) payload) = .ok payload := by
    simp only [decryptSynPayload, if_neg long, decode_take, decoded, List.take_left' cut,
      List.drop_left' cut, opened]
  rw [decryptSyn, front]
  dsimp only [bind, Except.bind]
  rw [body]
  rfl

/-- What is read is read by the two parsers of a SYN frame. -/
theorem decryptSyn_ok {key : AeadKey} {wire payload : Bytes} {front : Header × PublicKey}
    (opened : decryptSyn crypto key wire = .ok (front, payload)) :
    parseSynFront wire = .ok front ∧ decryptSynPayload crypto key wire = .ok payload := by
  unfold decryptSyn at opened
  cases parsed : parseSynFront wire with
  | error failure =>
    rw [parsed] at opened
    contradiction
  | ok found =>
    rw [parsed] at opened
    cases body : decryptSynPayload crypto key wire with
    | error failure =>
      dsimp only [bind, Except.bind] at opened
      rw [body] at opened
      contradiction
    | ok plain =>
      dsimp only [bind, Except.bind] at opened
      rw [body] at opened
      obtain ⟨rfl, rfl⟩ := Prod.mk.inj (Except.ok.inj opened)
      exact ⟨rfl, rfl⟩

/-- SYN frames are read exactly. -/
theorem decryptSyn_exact (laws : AeadLaws crypto) (key : AeadKey) :
    Exact (fun value : (Header × PublicKey) × Bytes => value.1.1.version = protoVersion)
      (fun value => synFront value.1 ++ sealSyn crypto key value.1 value.2)
      (decryptSyn crypto key) where
  decode_encode value current := decryptSyn_sealSyn laws key value.1 current value.2
  canonical wire value opened := by
    obtain ⟨front, payload⟩ := value
    obtain ⟨parsed, body⟩ := decryptSyn_ok opened
    obtain ⟨decoded, bytes⟩ := parseSynFront_ok parsed
    obtain ⟨header, again, sealed⟩ := decryptSynPayload_ok body
    obtain rfl := Except.ok.inj (decoded.symm.trans again)
    rw [← bytes] at sealed
    have rest := (laws.decrypt_iff _ _ _ _ _).mp sealed
    refine ⟨(Header.decode_ok decoded).1, ?_⟩
    calc wire = wire.take synHeaderLen ++ wire.drop synHeaderLen :=
          (List.take_append_drop _ _).symm
      _ = synFront front ++ sealSyn crypto key front payload := by rw [← bytes, rest]; rfl

end

/-- Frames and SYN frames are sealed and opened as promised, under every key: payloads of at most
1200 bytes make the round trip, 29 or 61 bytes longer, and what is opened is nothing but the front
it is opened with and the sealing of its payload. -/
theorem frame_codecs_exact {crypto : Crypto} (laws : AeadLaws crypto) (key : AeadKey) :
    SealedFormat 29 id Header.encode (sealFrame crypto key) (encryptFrame crypto key)
        (decryptFrame crypto key) ∧
      SealedFormat 61 Prod.fst synFront (sealSyn crypto key)
        (fun front payload => encryptSynFrame crypto key front.1 front.2 payload)
        (decryptSyn crypto key) := by
  constructor
  · refine .of_exact (decryptFrame_exact laws key) (fun header payload => rfl) ?_
      (fun header => List.prefix_rfl) fun header other => by simp
    intro header payload
    rw [List.length_append, header.length_encode, sealFrame, laws.length_encrypt, headerLen,
      tagLen]
    omega
  · refine .of_exact (decryptSyn_exact laws key) (fun front payload => rfl) ?_
      (fun front => List.prefix_append _ _) fun front other => by simp
    intro front payload
    rw [List.length_append, length_synFront, sealSyn, laws.length_encrypt, synHeaderLen,
      headerLen, pubkeyLen, tagLen]
    omega

/-- The suite that computes has the laws, so the codecs are exact over it. -/
theorem checksum_codecs_exact :
    SealedFormat 29 id Header.encode (sealFrame checksumCrypto (List.Vector.replicate 32 7))
        (encryptFrame checksumCrypto (List.Vector.replicate 32 7))
        (decryptFrame checksumCrypto (List.Vector.replicate 32 7)) ∧
      SealedFormat 61 Prod.fst synFront (sealSyn checksumCrypto (List.Vector.replicate 32 7))
        (fun front payload => encryptSynFrame checksumCrypto (List.Vector.replicate 32 7) front.1
          front.2 payload)
        (decryptSyn checksumCrypto (List.Vector.replicate 32 7)) :=
  frame_codecs_exact checksumCrypto_laws.aead (List.Vector.replicate 32 7)

/-! ## SYN payloads -/

/-- The signed bytes are those of the payload they are read as. -/
theorem LicensePayload.encode_decode {buf : Bytes} (sized : buf.length = payloadLen) :
    (LicensePayload.decode buf).encode = buf := by
  have long : buf.length = 24 := sized
  have userId : beBytes32 (ofBeBytes32 (buf.take 4)) = buf.take 4 :=
    beBytes32_ofBeBytes32 (by rw [List.length_take]; omega)
  have issuedAt : beBytesI64 (ofBeBytesI64 ((buf.drop 4).take 8)) = (buf.drop 4).take 8 :=
    beBytesI64_ofBeBytesI64 (by rw [List.length_take, List.length_drop]; omega)
  have expiresAt : beBytesI64 (ofBeBytesI64 ((buf.drop 12).take 8)) = (buf.drop 12).take 8 :=
    beBytesI64_ofBeBytesI64 (by rw [List.length_take, List.length_drop]; omega)
  have scope : beBytes32 (ofBeBytes32 ((buf.drop 20).take 4)) = (buf.drop 20).take 4 :=
    beBytes32_ofBeBytes32 (by rw [List.length_take, List.length_drop]; omega)
  have first : buf.take (4 + 8) = buf.take 4 ++ (buf.drop 4).take 8 := List.take_add
  have second : buf.take (12 + 8) = buf.take 12 ++ (buf.drop 12).take 8 := List.take_add
  have third : buf.take (20 + 4) = buf.take 20 ++ (buf.drop 20).take 4 := List.take_add
  calc (LicensePayload.decode buf).encode = buf.take 4 ++ (buf.drop 4).take 8 ++
        (buf.drop 12).take 8 ++ (buf.drop 20).take 4 := by
        simp only [LicensePayload.encode, LicensePayload.decode, userId, issuedAt, expiresAt, scope]
    _ = buf.take 24 := by rw [← first, ← second, ← third]
    _ = buf := List.take_of_length_le (Nat.le_of_eq long)

/-- Tokens are read exactly. -/
theorem LicenseToken.exact :
    Exact (fun _ : LicenseToken => True) LicenseToken.toBytes LicenseToken.fromBytes where
  decode_encode token _ := token.fromBytes_toBytes
  canonical wire token read := by
    unfold LicenseToken.fromBytes at read
    split at read
    · rename_i sized
      obtain rfl := Except.ok.inj read
      have front : (wire.take payloadLen).length = payloadLen := by
        rw [List.length_take, sized]
        decide
      refine ⟨trivial, ?_⟩
      rw [LicenseToken.toBytes, LicensePayload.encode_decode front, List.Vector.toList_mk,
        List.take_append_drop]
    · contradiction

/-- A byte is the byte of the protocol it is read as. -/
theorem TransportProtocol.toByte_of_fromByte {b : UInt8} {protocol : TransportProtocol}
    (read : TransportProtocol.fromByte b = some protocol) : protocol.toByte = b := by
  unfold TransportProtocol.fromByte at read
  split at read
  · rename_i tcp
    obtain rfl := Option.some.inj read
    exact tcp.symm
  · split at read
    · rename_i udp
      obtain rfl := Option.some.inj read
      exact udp.symm
    · contradiction

/-- Bytes 1 and 2 are protocols. -/
theorem TransportProtocol.fromByte_isSome (b : UInt8) :
    (TransportProtocol.fromByte b).isSome = true ↔ b = 1 ∨ b = 2 := by
  unfold TransportProtocol.fromByte
  by_cases tcp : b = 1
  · simp [tcp]
  · by_cases udp : b = 2
    · simp [udp]
    · simp [tcp, udp]

/-- Bytes a request occupies: 8 with an IPv4 address, 20 with an IPv6 one. -/
def ConnectRequest.wireLen (request : ConnectRequest) : Nat :=
  match request.destIp with
  | .v4 _ => 8
  | .v6 _ => 20

/-- A request occupies them. -/
theorem ConnectRequest.length_encode_eq (request : ConnectRequest) :
    request.encode.length = request.wireLen := by
  obtain ⟨protocol, address, port⟩ := request
  cases address <;> simp [ConnectRequest.encode, ConnectRequest.wireLen]

/-- An address and a port behind it are read from the bytes they occupy. -/
theorem address_port_prefix {rest : Bytes} {size : Nat} (long : size + 2 ≤ rest.length) :
    rest.take size ++ beBytes16 (ofBeBytes16 ((rest.drop size).take 2)) <+: rest := by
  have port : beBytes16 (ofBeBytes16 ((rest.drop size).take 2)) = (rest.drop size).take 2 :=
    beBytes16_ofBeBytes16 (by rw [List.length_take, List.length_drop]; omega)
  rw [port, ← List.take_add]
  exact List.take_prefix _ _

/-- Requests are read exactly, whatever follows them. -/
theorem ConnectRequest.exactPrefix :
    ExactPrefix (fun _ : ConnectRequest => True) ConnectRequest.encode ConnectRequest.decode where
  decode_append request suffix _ := request.decode_encode suffix
  canonical buf request read := by
    refine ⟨trivial, ?_⟩
    match buf with
    | [] => contradiction
    | [_] => contradiction
    | protocolByte :: size :: rest =>
      unfold ConnectRequest.decode at read
      split at read
      · contradiction
      · split at read
        · contradiction
        · rename_i protocol known
          have written := TransportProtocol.toByte_of_fromByte known
          split at read
          · rename_i four
            have sized : size = 4 := UInt8.toNat_inj.mp four
            split at read
            · contradiction
            · rename_i long
              obtain rfl := Except.ok.inj read
              simp only [List.length_cons] at long
              have parts : rest.take 4 ++ beBytes16 (ofBeBytes16 ((rest.drop 4).take 2)) <+: rest :=
                address_port_prefix (by omega)
              simpa [ConnectRequest.encode, written, sized] using parts
          · split at read
            · rename_i sixteen
              have sized : size = 16 := UInt8.toNat_inj.mp sixteen
              split at read
              · contradiction
              · rename_i long
                obtain rfl := Except.ok.inj read
                simp only [List.length_cons] at long
                have parts : rest.take 16 ++ beBytes16 (ofBeBytes16 ((rest.drop 16).take 2)) <+:
                    rest := address_port_prefix (by omega)
                simpa [ConnectRequest.encode, written, sized] using parts
            · contradiction

/-- The byte strings that are read as requests. -/
theorem ConnectRequest.decode_isOk (buf : Bytes) :
    (∃ request, ConnectRequest.decode buf = .ok request) ↔ ∃ protocol size rest,
      buf = protocol :: size :: rest ∧ (protocol = 1 ∨ protocol = 2) ∧ (size = 4 ∨ size = 16) ∧
        size.toNat + 4 ≤ buf.length := by
  constructor
  · rintro ⟨request, read⟩
    have encoded := (ConnectRequest.exactPrefix.canonical buf request read).2
    have long := encoded.length_le
    rw [request.length_encode_eq] at long
    obtain ⟨suffix, rfl⟩ := encoded
    obtain ⟨protocol, address, port⟩ := request
    have byte : protocol.toByte = 1 ∨ protocol.toByte = 2 := by
      cases protocol
      · exact .inl rfl
      · exact .inr rfl
    cases address with
    | v4 v4 => exact ⟨_, _, _, rfl, byte, .inl rfl, long⟩
    | v6 v6 => exact ⟨_, _, _, rfl, byte, .inr rfl, long⟩
  · rintro ⟨protocolByte, size, rest, rfl, byte, sized, long⟩
    obtain ⟨protocol, known⟩ :=
      Option.isSome_iff_exists.mp ((TransportProtocol.fromByte_isSome protocolByte).mpr byte)
    unfold ConnectRequest.decode
    rcases sized with rfl | rfl
    · have enough : ¬ (protocolByte :: (4 : UInt8) :: rest).length < 4 := by
        simp only [UInt8.toNat_ofNat] at long
        omega
      have fits : ¬ (protocolByte :: (4 : UInt8) :: rest).length < 8 := Nat.not_lt_of_le long
      have four : ((protocolByte :: (4 : UInt8) :: rest).getD 1 0).toNat = 4 := rfl
      rw [if_neg enough, List.headD_cons, known]
      dsimp only
      rw [dif_pos four, dif_neg fits]
      exact ⟨_, rfl⟩
    · have enough : ¬ (protocolByte :: (16 : UInt8) :: rest).length < 4 := by
        simp only [UInt8.toNat_ofNat] at long
        omega
      have fits : ¬ (protocolByte :: (16 : UInt8) :: rest).length < 20 := Nat.not_lt_of_le long
      have notFour : ¬ ((protocolByte :: (16 : UInt8) :: rest).getD 1 0).toNat = 4 := by
        show ¬ (16 : UInt8).toNat = 4
        decide
      have sixteen : ((protocolByte :: (16 : UInt8) :: rest).getD 1 0).toNat = 16 := rfl
      rw [if_neg enough, List.headD_cons, known]
      dsimp only
      rw [dif_neg notFour, dif_pos sixteen, dif_neg fits]
      exact ⟨_, rfl⟩

/-- SYN payloads are read as they are written, whatever follows, by splitting them after the token;
where both parts are read, they were written with exactly the bytes read; and requests are read
from exactly the byte strings with a known protocol, a known address length and enough bytes. -/
theorem syn_payload_exact :
    (∀ token connect trailing,
      LicenseToken.fromBytes ((token.toBytes ++ connect.encode ++ trailing).take tokenLen) =
          .ok token ∧
        ConnectRequest.decode ((token.toBytes ++ connect.encode ++ trailing).drop tokenLen) =
          .ok connect) ∧
      (∀ (inner : Bytes) token connect, LicenseToken.fromBytes (inner.take tokenLen) = .ok token →
        ConnectRequest.decode (inner.drop tokenLen) = .ok connect →
        token.toBytes ++ connect.encode = inner.take (88 + connect.wireLen)) ∧
      ∀ buf, (∃ request, ConnectRequest.decode buf = .ok request) ↔ ∃ protocol size rest,
        buf = protocol :: size :: rest ∧ (protocol = 1 ∨ protocol = 2) ∧ (size = 4 ∨ size = 16) ∧
          size.toNat + 4 ≤ buf.length := by
  refine ⟨fun token connect trailing => ?_, fun inner token connect read readRest => ?_,
    ConnectRequest.decode_isOk⟩
  · exact split_append LicenseToken.exact ConnectRequest.exactPrefix LicenseToken.length_toBytes
      trivial trivial trailing
  · have whole := split_canonical LicenseToken.exact ConnectRequest.exactPrefix
      LicenseToken.length_toBytes read readRest
    rw [connect.length_encode_eq] at whole
    exact whole

end LowPing
