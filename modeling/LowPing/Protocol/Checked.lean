import LowPing.Library.Checked
import LowPing.Protocol.Syn

/-!
# Parsers with their run-time checks

The parsers a received datagram goes through, with every slice, index, array conversion, copy and
addition of the source as an operation that may panic. None of them does, on any bytes, and each
computes the parser of the model.
-/

namespace LowPing

open Library (Checked)
open Library.Checked (index slice toArray copyInto add require)

/-- Bits of a `usize`. -/
def usizeBits : Nat := 64

/-- `Header::decode`. -/
def Header.decodeChecked (buf : Bytes) : Checked (Except ProtocolError Header) :=
  if buf.length < headerLen then pure (.error (.truncated buf.length headerLen))
  else do
    let v := (← index buf 0) &&& 0x0F
    if v ≠ protoVersion then pure (.error (.unknownVersion v))
    else do
      let flags := Flags.fromBitsTruncate ((← index buf 0) &&& 0xF0)
      let connectionId ← toArray 4 (← slice buf 1 5)
      let sequence ← toArray 8 (← slice buf 5 13)
      pure (.ok ⟨v, flags, ofBeBytes32 connectionId.toList, ofBeBytes64 sequence.toList⟩)

/-- `derive_nonce` and `Nonce::from_slice` of its result. -/
def deriveNonceChecked (connectionId : UInt32) (sequence : UInt64) : Checked Nonce := do
  let n := List.replicate 12 0
  let n ← copyInto n 0 4 (beBytes32 connectionId)
  let n ← copyInto n 4 12 (beBytes64 sequence)
  toArray 12 n

/-- `decrypt_frame`. -/
def decryptFrameChecked (crypto : Crypto) (key : AeadKey) (wire : Bytes) :
    Checked (Except ProtocolError (Header × Bytes)) :=
  if wire.length < minFrameLen then pure (.error (.truncated wire.length minFrameLen))
  else do
    match ← Header.decodeChecked (← slice wire 0 headerLen) with
    | .error failure => pure (.error failure)
    | .ok header =>
      let nonce ← deriveNonceChecked header.connectionId header.sequence
      let msg ← slice wire headerLen wire.length
      let aad ← slice wire 0 headerLen
      match crypto.decrypt key nonce aad msg with
      | none => pure (.error .aeadFailed)
      | some payload => pure (.ok (header, payload))

/-- `parse_syn_front`. -/
def parseSynFrontChecked (wire : Bytes) : Checked (Except ProtocolError (Header × PublicKey)) :=
  if wire.length < minSynFrameLen then pure (.error (.truncated wire.length minSynFrameLen))
  else do
    match ← Header.decodeChecked (← slice wire 0 headerLen) with
    | .error failure => pure (.error failure)
    | .ok header =>
      let pk := List.replicate pubkeyLen 0
      let pk ← copyInto pk 0 pubkeyLen (← slice wire headerLen synHeaderLen)
      pure (.ok (header, ← toArray pubkeyLen pk))

/-- `pubkey_from_bytes` of an array, whose length check passes by its type. -/
def pubkeyFromBytesChecked (bytes : Block 32) : Checked PublicKey := do
  let arr := List.replicate 32 0
  let arr ← copyInto arr 0 32 bytes.toList
  toArray 32 arr

/-- `decrypt_syn_payload`. -/
def decryptSynPayloadChecked (crypto : Crypto) (key : AeadKey) (wire : Bytes) :
    Checked (Except ProtocolError Bytes) :=
  if wire.length < minSynFrameLen then pure (.error (.truncated wire.length minSynFrameLen))
  else do
    match ← Header.decodeChecked (← slice wire 0 headerLen) with
    | .error failure => pure (.error failure)
    | .ok header =>
      let nonce ← deriveNonceChecked header.connectionId header.sequence
      let msg ← slice wire synHeaderLen wire.length
      let aad ← slice wire 0 synHeaderLen
      match crypto.decrypt key nonce aad msg with
      | none => pure (.error .aeadFailed)
      | some payload => pure (.ok payload)

/-- `LicensePayload::encode`. -/
def LicensePayload.encodeChecked (payload : LicensePayload) : Checked Bytes := do
  let out := List.replicate payloadLen 0
  let out ← copyInto out 0 4 (beBytes32 payload.userId)
  let out ← copyInto out 4 12 (beBytesI64 payload.issuedAt)
  let out ← copyInto out 12 20 (beBytesI64 payload.expiresAt)
  copyInto out 20 24 (beBytes32 payload.scope)

/-- `LicensePayload::decode`, with its debug assertion. -/
def LicensePayload.decodeChecked (buf : Bytes) : Checked LicensePayload := do
  require (payloadLen ≤ buf.length)
  let userId ← toArray 4 (← slice buf 0 4)
  let issuedAt ← toArray 8 (← slice buf 4 12)
  let expiresAt ← toArray 8 (← slice buf 12 20)
  let scope ← toArray 4 (← slice buf 20 24)
  pure ⟨ofBeBytes32 userId.toList, ofBeBytesI64 issuedAt.toList, ofBeBytesI64 expiresAt.toList,
    ofBeBytes32 scope.toList⟩

/-- `LicenseToken::from_bytes`. -/
def LicenseToken.fromBytesChecked (bytes : Bytes) : Checked (Except LicenseError LicenseToken) :=
  if bytes.length ≠ tokenLen then pure (.error (.wrongLength bytes.length))
  else do
    let payload ← LicensePayload.decodeChecked (← slice bytes 0 payloadLen)
    let sigBytes := List.replicate sigLen 0
    let sigBytes ← copyInto sigBytes 0 sigLen (← slice bytes payloadLen bytes.length)
    pure (.ok ⟨payload, ← toArray sigLen sigBytes⟩)

/-- `LicenseToken::verify`. -/
def LicenseToken.verifyChecked (crypto : Crypto) (token : LicenseToken)
    (backendPubkey : VerifyingKey) (nowUnix : Int64) : Checked (Except LicenseError Unit) := do
  let payloadBytes ← token.payload.encodeChecked
  if crypto.verify backendPubkey payloadBytes token.signature = false then
    pure (.error .badSignature)
  else if nowUnix < token.payload.issuedAt then
    pure (.error (.notYetValid token.payload.issuedAt nowUnix))
  else if nowUnix ≥ token.payload.expiresAt then
    pure (.error (.expired token.payload.expiresAt nowUnix))
  else pure (.ok ())

/-- `ConnectRequest::decode`. -/
def ConnectRequest.decodeChecked (buf : Bytes) : Checked (Except ProtocolError ConnectRequest) :=
  if buf.length < 4 then pure (.error (.truncated buf.length 4))
  else do
    match TransportProtocol.fromByte (← index buf 0) with
    | none => pure (.error (.truncated buf.length 4))
    | some protocol =>
      let addrLen := (← index buf 1).toNat
      if ¬ (addrLen = 4 ∨ addrLen = 16) then
        pure (.error (.truncated buf.length (← add usizeBits 4 addrLen)))
      else
        let need ← add usizeBits (← add usizeBits 2 addrLen) 2
        if buf.length < need then pure (.error (.truncated buf.length need))
        else
          let destIp ← if addrLen = 4 then do
              let a ← copyInto (List.replicate 4 0) 0 4 (← slice buf 2 6)
              pure (IpAddr.v4 ⟨← toArray 4 a⟩)
            else do
              let a ← copyInto (List.replicate 16 0) 0 16 (← slice buf 2 18)
              pure (IpAddr.v6 ⟨← toArray 16 a⟩)
          let portOff ← add usizeBits 2 addrLen
          let portEnd ← add usizeBits portOff 2
          let destPort ← toArray 2 (← slice buf portOff portEnd)
          pure (.ok ⟨protocol, destIp, ofBeBytes16 destPort.toList⟩)

/-! ## No check fails -/

/-- A range in bounds becomes an array. -/
theorem slice_toArray (buf : Bytes) (start stop length : Nat) (exact : start + length = stop)
    (bound : stop ≤ buf.length) :
    slice buf start stop = .ok ((buf.drop start).take length) ∧
      ∃ size, toArray length ((buf.drop start).take length) =
        .ok ⟨(buf.drop start).take length, size⟩ := by
  subst exact
  have size : ((buf.drop start).take length).length = length := by
    rw [List.length_take, List.length_drop]
    omega
  refine ⟨?_, size, Checked.toArray_eq size⟩
  rw [Checked.slice_eq (Nat.le_add_right start length) bound, Nat.add_sub_cancel_left]

/-- `Header::decode` never panics. -/
theorem Header.decodeChecked_eq (buf : Bytes) : decodeChecked buf = .ok (decode buf) := by
  by_cases short : buf.length < headerLen
  · simp [decodeChecked, decode, short, pure, Except.pure]
  · have long : 13 ≤ buf.length := Nat.le_of_not_lt short
    have first : index buf 0 = .ok (buf.headD 0) := by
      cases buf with
      | nil => contradiction
      | cons byte rest => rfl
    obtain ⟨id, _, idBlock⟩ := slice_toArray buf 1 5 4 rfl (by omega)
    obtain ⟨counter, _, counterBlock⟩ := slice_toArray buf 5 13 8 rfl long
    simp only [decodeChecked, decode, short, ↓reduceIte, first, bind, Except.bind, pure,
      Except.pure, id, idBlock, counter, counterBlock, List.Vector.toList_mk]
    split <;> rfl

/-- `derive_nonce` never panics. -/
theorem deriveNonceChecked_eq (connectionId : UInt32) (sequence : UInt64) :
    deriveNonceChecked connectionId sequence = .ok (deriveNonce connectionId sequence) := by
  have id : copyInto (List.replicate 12 0) 0 4 (beBytes32 connectionId) =
      .ok (beBytes32 connectionId ++ List.replicate 8 0) :=
    Checked.copyInto_eq (by decide) (by decide) (by simp)
  have counter : copyInto (beBytes32 connectionId ++ List.replicate 8 0) 4 12
      (beBytes64 sequence) = .ok (beBytes32 connectionId ++ beBytes64 sequence) := by
    rw [Checked.copyInto_eq (by decide) (by simp) (by simp)]
    simp
  have size : (beBytes32 connectionId ++ beBytes64 sequence).length = 12 := by simp
  simp only [deriveNonceChecked, bind, Except.bind, id, counter, Checked.toArray_eq size,
    deriveNonce]

/-- `decrypt_frame` never panics. -/
theorem decryptFrameChecked_eq (crypto : Crypto) (key : AeadKey) (wire : Bytes) :
    decryptFrameChecked crypto key wire = .ok (decryptFrame crypto key wire) := by
  by_cases short : wire.length < minFrameLen
  · simp [decryptFrameChecked, decryptFrame, short, pure, Except.pure]
  · have long : headerLen ≤ wire.length := by
      simp only [minFrameLen] at short
      omega
    have front : slice wire 0 headerLen = .ok (wire.take headerLen) :=
      Checked.slice_eq (Nat.zero_le _) long
    have body : slice wire headerLen wire.length = .ok (wire.drop headerLen) := by
      rw [Checked.slice_eq long (Nat.le_refl _), ← List.length_drop, List.take_length]
    simp only [decryptFrameChecked, decryptFrame, short, ↓reduceIte, front, bind, Except.bind,
      Header.decodeChecked_eq, pure, Except.pure]
    cases Header.decode (wire.take headerLen) with
    | error failure => rfl
    | ok header =>
      simp only [deriveNonceChecked_eq, body]
      cases crypto.decrypt key (deriveNonce header.connectionId header.sequence)
          (wire.take headerLen) (wire.drop headerLen) with
      | none => rfl
      | some payload => rfl

/-- A block copied into as many zeros is the block. -/
theorem copyInto_replicate (length : Nat) {src : Bytes} (exact : src.length = length) :
    copyInto (List.replicate length 0) 0 length src = .ok src := by
  rw [Checked.copyInto_eq (Nat.zero_le _) (by simp) (by simp [exact])]
  simp

/-- `parse_syn_front` never panics. -/
theorem parseSynFrontChecked_eq (wire : Bytes) :
    parseSynFrontChecked wire = .ok (parseSynFront wire) := by
  by_cases short : wire.length < minSynFrameLen
  · simp [parseSynFrontChecked, parseSynFront, short, pure, Except.pure]
  · have long : synHeaderLen ≤ wire.length := by
      simp only [minSynFrameLen] at short
      omega
    have front : slice wire 0 headerLen = .ok (wire.take headerLen) :=
      Checked.slice_eq (Nat.zero_le _) (Nat.le_trans (by decide) long)
    obtain ⟨key, size, keyBlock⟩ := slice_toArray wire headerLen synHeaderLen pubkeyLen rfl long
    simp only [parseSynFrontChecked, parseSynFront, short, ↓reduceIte, ↓reduceDIte, front, bind,
      Except.bind, Header.decodeChecked_eq, pure, Except.pure]
    cases Header.decode (wire.take headerLen) with
    | error failure => rfl
    | ok header =>
      simp only [key, copyInto_replicate pubkeyLen size, keyBlock]
      rfl

/-- `pubkey_from_bytes` never panics. -/
theorem pubkeyFromBytesChecked_eq (bytes : Block 32) :
    pubkeyFromBytesChecked bytes = .ok bytes := by
  obtain ⟨own, size⟩ := bytes
  simp only [pubkeyFromBytesChecked, bind, Except.bind, List.Vector.toList_mk,
    copyInto_replicate 32 size, Checked.toArray_eq size]

/-- `decrypt_syn_payload` never panics. -/
theorem decryptSynPayloadChecked_eq (crypto : Crypto) (key : AeadKey) (wire : Bytes) :
    decryptSynPayloadChecked crypto key wire = .ok (decryptSynPayload crypto key wire) := by
  by_cases short : wire.length < minSynFrameLen
  · simp [decryptSynPayloadChecked, decryptSynPayload, short, pure, Except.pure]
  · have long : synHeaderLen ≤ wire.length := by
      simp only [minSynFrameLen] at short
      omega
    have front : slice wire 0 headerLen = .ok (wire.take headerLen) :=
      Checked.slice_eq (Nat.zero_le _) (Nat.le_trans (by decide) long)
    have aad : slice wire 0 synHeaderLen = .ok (wire.take synHeaderLen) :=
      Checked.slice_eq (Nat.zero_le _) long
    have body : slice wire synHeaderLen wire.length = .ok (wire.drop synHeaderLen) := by
      rw [Checked.slice_eq long (Nat.le_refl _), ← List.length_drop, List.take_length]
    simp only [decryptSynPayloadChecked, decryptSynPayload, short, ↓reduceIte, front, bind,
      Except.bind, Header.decodeChecked_eq, pure, Except.pure]
    cases Header.decode (wire.take headerLen) with
    | error failure => rfl
    | ok header =>
      simp only [deriveNonceChecked_eq, body, aad]
      cases crypto.decrypt key (deriveNonce header.connectionId header.sequence)
          (wire.take synHeaderLen) (wire.drop synHeaderLen) with
      | none => rfl
      | some payload => rfl

/-- Copying a block behind what is already written extends it. -/
theorem copyInto_append (written src : Bytes) {start stop left rest : Nat}
    (first : written.length = start) (exact : start + src.length = stop)
    (room : left = src.length + rest) :
    copyInto (written ++ List.replicate left 0) start stop src =
      .ok ((written ++ src) ++ List.replicate rest 0) := by
  subst first exact room
  rw [Checked.copyInto_eq (Nat.le_add_right _ _) (by simp) (by simp)]
  simp [List.drop_append, List.drop_of_length_le]

/-- `LicensePayload::encode` never panics. -/
theorem LicensePayload.encodeChecked_eq (payload : LicensePayload) :
    payload.encodeChecked = .ok payload.encode := by
  have user : copyInto (List.replicate payloadLen 0) 0 4 (beBytes32 payload.userId) =
      .ok (beBytes32 payload.userId ++ List.replicate 20 0) :=
    Checked.copyInto_eq (by decide) (by decide) (by simp)
  have issued : copyInto (beBytes32 payload.userId ++ List.replicate 20 0) 4 12
      (beBytesI64 payload.issuedAt) =
      .ok (beBytes32 payload.userId ++ beBytesI64 payload.issuedAt ++ List.replicate 12 0) :=
    copyInto_append _ _ (by simp) (by simp) (by simp)
  have expires : copyInto (beBytes32 payload.userId ++ beBytesI64 payload.issuedAt ++
      List.replicate 12 0) 12 20 (beBytesI64 payload.expiresAt) =
      .ok (beBytes32 payload.userId ++ beBytesI64 payload.issuedAt ++
        beBytesI64 payload.expiresAt ++ List.replicate 4 0) :=
    copyInto_append _ _ (by simp) (by simp) (by simp)
  have scope : copyInto (beBytes32 payload.userId ++ beBytesI64 payload.issuedAt ++
      beBytesI64 payload.expiresAt ++ List.replicate 4 0) 20 24 (beBytes32 payload.scope) =
      .ok (payload.encode ++ List.replicate 0 0) :=
    copyInto_append _ _ (by simp) (by simp) (by simp)
  simp only [encodeChecked, user, issued, expires, scope, bind, Except.bind,
    List.replicate_zero, List.append_nil]

/-- `LicensePayload::decode` never panics on as many bytes as its assertion asks for. -/
theorem LicensePayload.decodeChecked_eq {buf : Bytes} (long : payloadLen ≤ buf.length) :
    decodeChecked buf = .ok (decode buf) := by
  have bound : 24 ≤ buf.length := long
  obtain ⟨user, _, userBlock⟩ := slice_toArray buf 0 4 4 rfl (by omega)
  obtain ⟨issued, _, issuedBlock⟩ := slice_toArray buf 4 12 8 rfl (by omega)
  obtain ⟨expires, _, expiresBlock⟩ := slice_toArray buf 12 20 8 rfl (by omega)
  obtain ⟨scope, _, scopeBlock⟩ := slice_toArray buf 20 24 4 rfl bound
  simp only [decodeChecked, require, long, decide_true, ↓reduceIte, user, userBlock, issued,
    issuedBlock, expires, expiresBlock, scope, scopeBlock, bind, Except.bind]
  rfl

/-- `LicenseToken::from_bytes` never panics. -/
theorem LicenseToken.fromBytesChecked_eq (bytes : Bytes) :
    fromBytesChecked bytes = .ok (fromBytes bytes) := by
  by_cases exact : bytes.length = tokenLen
  · have long : payloadLen ≤ bytes.length := by
      rw [exact]
      decide
    have front : slice bytes 0 payloadLen = .ok (bytes.take payloadLen) :=
      Checked.slice_eq (Nat.zero_le _) long
    have payload : LicensePayload.decodeChecked (bytes.take payloadLen) =
        .ok (LicensePayload.decode (bytes.take payloadLen)) :=
      LicensePayload.decodeChecked_eq (by simp [long])
    have rest : slice bytes payloadLen tokenLen = .ok (bytes.drop payloadLen) := by
      rw [← exact, Checked.slice_eq long (Nat.le_refl _), ← List.length_drop, List.take_length]
    have size : (bytes.drop payloadLen).length = sigLen := by
      rw [List.length_drop, exact]
      rfl
    simp only [fromBytesChecked, fromBytes, exact, ne_eq, not_true_eq_false, ↓reduceIte,
      ↓reduceDIte, front, payload, rest, copyInto_replicate sigLen size, Checked.toArray_eq size,
      bind, Except.bind, pure, Except.pure]
    rfl
  · simp [fromBytesChecked, fromBytes, exact, pure, Except.pure]

/-- `LicenseToken::verify` never panics. -/
theorem LicenseToken.verifyChecked_eq (crypto : Crypto) (token : LicenseToken)
    (backendPubkey : VerifyingKey) (nowUnix : Int64) :
    token.verifyChecked crypto backendPubkey nowUnix =
      .ok (token.verify crypto backendPubkey nowUnix) := by
  simp only [verifyChecked, verify, LicensePayload.encodeChecked_eq, bind, Except.bind, pure,
    Except.pure]
  split
  · rfl
  · split
    · rfl
    · split <;> rfl

/-- `ConnectRequest::decode` never panics: it reads within the length its address byte asks for. -/
theorem ConnectRequest.decodeChecked_eq (buf : Bytes) :
    decodeChecked buf = .ok (decode buf) := by
  by_cases short : buf.length < 4
  · simp [decodeChecked, decode, short, pure, Except.pure]
  · have first : index buf 0 = .ok (buf.headD 0) := by
      cases buf with
      | nil => exact absurd (show 0 < 4 by decide) short
      | cons byte rest => rfl
    have second : index buf 1 = .ok (buf.getD 1 0) := by
      have bound : 1 < buf.length := by omega
      rw [Checked.index_eq bound, List.getD_eq_getElem?_getD, List.getElem?_eq_getElem bound,
        Option.getD_some]
    simp only [decodeChecked, decode, short, ↓reduceIte, first, second, bind, Except.bind, pure,
      Except.pure]
    cases TransportProtocol.fromByte (buf.headD 0) with
    | none => rfl
    | some protocol =>
      by_cases four : (buf.getD 1 0).toNat = 4
      · have header : add usizeBits 2 4 = .ok 6 := rfl
        have need : add usizeBits 6 2 = .ok 8 := rfl
        simp only [four, true_or, not_true_eq_false, ↓reduceIte, ↓reduceDIte, header, need]
        by_cases cut : buf.length < 8
        · simp only [cut, ↓reduceIte, ↓reduceDIte]
        · obtain ⟨address, size, addressBlock⟩ := slice_toArray buf 2 6 4 rfl (by omega)
          obtain ⟨port, _, portBlock⟩ := slice_toArray buf 6 8 2 rfl (by omega)
          simp only [cut, ↓reduceIte, ↓reduceDIte, address, copyInto_replicate 4 size,
            addressBlock, port, portBlock]
          rfl
      · by_cases sixteen : (buf.getD 1 0).toNat = 16
        · have header : add usizeBits 2 16 = .ok 18 := rfl
          have need : add usizeBits 18 2 = .ok 20 := rfl
          simp only [sixteen, Nat.reduceEqDiff, or_true, not_true_eq_false, ↓reduceIte,
            ↓reduceDIte, header, need]
          by_cases cut : buf.length < 20
          · simp only [cut, ↓reduceIte, ↓reduceDIte]
          · obtain ⟨address, size, addressBlock⟩ := slice_toArray buf 2 18 16 rfl (by omega)
            obtain ⟨port, _, portBlock⟩ := slice_toArray buf 18 20 2 rfl (by omega)
            simp only [cut, ↓reduceIte, ↓reduceDIte, address, copyInto_replicate 16 size,
              addressBlock, port, portBlock]
            rfl
        · have fits : add usizeBits 4 (buf.getD 1 0).toNat = .ok (4 + (buf.getD 1 0).toNat) := by
            have byte := (buf.getD 1 0).toNat_lt
            apply Checked.add_eq
            rw [usizeBits]
            omega
          simp only [four, sixteen, or_self, not_false_eq_true, ↓reduceIte, ↓reduceDIte, fits]

end LowPing
