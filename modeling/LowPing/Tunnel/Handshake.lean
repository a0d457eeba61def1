import LowPing.Bridge.Steps
import LowPing.Client.Tunnel

/-!
# The two ends of a handshake

What the bridge reads from the SYN a client built: the same header, and through the public key in
it the same session key. Admission decides more (token, scope, destination), but every SYN it
admits from `open_tunnel` gets the client's own key.
-/

namespace LowPing.Tunnel

open LowPing.Bridge LowPing.Client

/-- The front of a sealed SYN is its header and the client's public key. -/
theorem parseSynFront_encryptSynFrame {crypto : Crypto} (laws : CryptoLaws crypto) {key : AeadKey}
    {header : Header} {clientPubkey : PublicKey} {payload wire : Bytes}
    (current : header.version = protoVersion)
    (sealed : encryptSynFrame crypto key header clientPubkey payload = .ok wire) :
    Header.decode wire = .ok header ∧ parseSynFront wire = .ok (header, clientPubkey) := by
  unfold encryptSynFrame at sealed
  split at sealed
  · contradiction
  · simp only [Except.ok.injEq] at sealed
    subst sealed
    generalize body : crypto.encrypt key (deriveNonce header.connectionId header.sequence)
      (header.encode ++ clientPubkey.toList) payload = ciphertext
    have tagged : tagLen ≤ ciphertext.length := by
      rw [← body, laws.length_encrypt]
      omega
    have cut : headerLen = header.encode.length := header.length_encode.symm
    have keyLength : clientPubkey.toList.length = pubkeyLen := clientPubkey.toList_length
    have long : ¬ (header.encode ++ clientPubkey.toList ++ ciphertext).length < minSynFrameLen := by
      simp only [List.length_append, header.length_encode, keyLength, minSynFrameLen, synHeaderLen]
      omega
    have front : Header.decode header.encode = .ok header := by
      simpa using header.decode_encode current []
    have published : ((header.encode ++ (clientPubkey.toList ++ ciphertext)).drop
        header.encode.length).take pubkeyLen = clientPubkey.toList := by
      rw [List.drop_left, ← keyLength, List.take_left]
    constructor
    · rw [List.append_assoc]
      exact header.decode_encode current _
    · simp only [parseSynFront, long, ↓reduceDIte, cut]
      simp only [List.append_assoc, List.take_left, front, Except.ok.injEq]
      exact Prod.ext rfl (Subtype.ext published)

/-- The header the bridge routes a SYN datagram by. -/
theorem openTunnelTo_header {crypto : Crypto} (laws : CryptoLaws crypto) {text : TextCodec}
    {bridgePubkeyHex licenseToken : String} {connect : ConnectRequest} {clientSk : StaticSecret}
    {connectionId : UInt32} {tunnel : OpenedTunnel} {wire : Bytes}
    (opened : openTunnelTo crypto text bridgePubkeyHex licenseToken connect clientSk connectionId =
      .ok (tunnel, wire)) : Header.decode wire = .ok (synHeader connectionId) := by
  obtain ⟨_, _, _, _, _, sealed⟩ := openTunnelTo_ok opened
  exact (parseSynFront_encryptSynFrame laws rfl sealed).1

/-- Whatever the bridge admits of a SYN it uses the key derived from the public key in its front. -/
theorem admitSyn_key {env : BridgeEnv} {nowUnix : Int64} {pkt : Bytes} {aeadKey : AeadKey}
    {connect : ConnectRequest} (admitted : admitSyn env nowUnix pkt = .ok (aeadKey, connect)) :
    ∃ header clientPk, parseSynFront pkt = .ok (header, clientPk) ∧
      aeadKey = bridgeDeriveSessionKey env.crypto env.bridgeSecret clientPk := by
  obtain ⟨header, clientPk, _, _, front, derived, _⟩ := admitSyn_ok admitted
  exact ⟨header, clientPk, front, derived⟩

/-- A client that knows the bridge's public key and the bridge that admits its SYN share the key. -/
theorem admitted_key_shared {env : BridgeEnv} (laws : CryptoLaws env.crypto) {text : TextCodec}
    {bridgePubkeyHex licenseToken : String} {destination connect : ConnectRequest}
    {clientSk : StaticSecret} {connectionId : UInt32} {tunnel : OpenedTunnel} {wire : Bytes}
    {nowUnix : Int64} {aeadKey : AeadKey}
    (published : text.hexDecode bridgePubkeyHex =
      some (env.crypto.publicKey env.bridgeSecret).toList)
    (opened : openTunnelTo env.crypto text bridgePubkeyHex licenseToken destination clientSk
      connectionId = .ok (tunnel, wire))
    (admitted : admitSyn env nowUnix wire = .ok (aeadKey, connect)) :
    aeadKey = tunnel.aeadKey := by
  obtain ⟨bridgePk, token, decoded, _, rfl, sealed⟩ := openTunnelTo_ok opened
  obtain ⟨header, clientPk, front, rfl⟩ := admitSyn_key admitted
  obtain rfl : bridgePk = env.crypto.publicKey env.bridgeSecret :=
    Subtype.ext (Option.some.inj (decoded.symm.trans published))
  rw [(parseSynFront_encryptSynFrame laws rfl sealed).2] at front
  simp only [Except.ok.injEq, Prod.mk.injEq] at front
  obtain ⟨_, rfl⟩ := front
  exact derived_keys_agree laws env.bridgeSecret clientSk

/-! ## A deployment that computes

One bridge and one client rule under the checksum suite, with the rule's key and token as text. -/

/-- A bridge that accepts tokens of one backend, with the default idle timeout. -/
def sampleEnv (maxSessions : Nat) : BridgeEnv where
  crypto := checksumCrypto
  config := ⟨false, maxSessions, 300⟩
  bridgeSecret := List.Vector.replicate 32 7
  backendPubkey := List.Vector.replicate 32 9

/-- A token of that backend with scope bit 0. -/
def sampleToken : LicenseToken :=
  LicenseToken.sign checksumCrypto ⟨1, 0, 2000000000, 1⟩ (List.Vector.replicate 32 9)

/-- A rule for that bridge. -/
def sampleRule : Rule where
  bridge := ⟨.v4 (Ipv4Addr.new 203 0 113 5), 51820⟩
  bridgeX25519PubkeyHex := "0707070707070707070707070707070707070707070707070707070707070707"
  licenseToken := standardText.base64Encode sampleToken.toBytes
  destIp := .v4 (Ipv4Addr.new 1 2 3 4)
  destPort := 80

/-- A tunnel of that rule, with its SYN datagram; the client secret repeats one byte. -/
def sampleTunnel (secret : UInt8) (transport : TransportProtocol) (connectionId : UInt32) :
    OpenedTunnel × Bytes :=
  match sampleRule.openTunnel checksumCrypto standardText transport
    (List.Vector.replicate 32 secret) connectionId with
  | .ok opened => opened
  | .error _ => (⟨List.Vector.replicate 32 0, 0⟩, [])

/-- The suite of the deployment is lawful. -/
theorem sampleEnv_laws (maxSessions : Nat) : CryptoLaws (sampleEnv maxSessions).crypto :=
  checksumCrypto_laws

/-- The rule has the bridge's public key. -/
theorem sampleRule_published (maxSessions : Nat) :
    standardText.hexDecode sampleRule.bridgeX25519PubkeyHex =
      some ((sampleEnv maxSessions).crypto.publicKey
        (sampleEnv maxSessions).bridgeSecret).toList := by
  have decoded : standardText.hexDecode sampleRule.bridgeX25519PubkeyHex =
      some (checksumCrypto.publicKey (List.Vector.replicate 32 7)).toList := by decide +kernel
  exact decoded

/-- The rule has the token. -/
theorem sampleRule_licensed :
    LicenseToken.fromStringB64 standardText sampleRule.licenseToken = .ok sampleToken :=
  LicenseToken.fromStringB64_toStringB64 standardText_laws sampleToken

/-- A sample tunnel is what `open_tunnel` of the rule returns. -/
theorem sampleTunnel_opens (maxSessions : Nat) (secret : UInt8) (transport : TransportProtocol)
    (connectionId : UInt32) :
    sampleRule.openTunnel (sampleEnv maxSessions).crypto standardText transport
      (List.Vector.replicate 32 secret) connectionId =
        .ok ((sampleTunnel secret transport connectionId).1,
          (sampleTunnel secret transport connectionId).2) := by
  obtain ⟨opened, opens⟩ := openTunnelTo_opens checksumCrypto (sampleRule_published 0)
    sampleRule_licensed ⟨transport, sampleRule.destIp, sampleRule.destPort⟩
    (List.Vector.replicate 32 secret) connectionId
  have opens : sampleRule.openTunnel checksumCrypto standardText transport
      (List.Vector.replicate 32 secret) connectionId = .ok opened := opens
  unfold sampleTunnel
  rw [opens]
  exact opens

/-- The SYN of a sample tunnel, sealed without going through the rule's texts. -/
def sampleSyn (secret : UInt8) (transport : TransportProtocol) (connectionId : UInt32) : Bytes :=
  let clientSk : StaticSecret := List.Vector.replicate 32 secret
  match encryptSynFrame checksumCrypto
    (clientDeriveSessionKey checksumCrypto clientSk
      (checksumCrypto.publicKey (List.Vector.replicate 32 7)))
    (synHeader connectionId) (checksumCrypto.publicKey clientSk)
    (synPayload sampleToken ⟨transport, sampleRule.destIp, sampleRule.destPort⟩) with
  | .ok wire => wire
  | .error _ => []

/-- A sample tunnel has that SYN. Runs are computed with it: texts take long to decode. -/
theorem sampleTunnel_eq (secret : UInt8) (transport : TransportProtocol) (connectionId : UInt32) :
    sampleTunnel secret transport connectionId =
      (⟨clientDeriveSessionKey checksumCrypto (List.Vector.replicate 32 secret)
          (checksumCrypto.publicKey (List.Vector.replicate 32 7)), connectionId⟩,
        sampleSyn secret transport connectionId) := by
  obtain ⟨syn, sealed⟩ := encryptSynFrame_fits checksumCrypto
    (clientDeriveSessionKey checksumCrypto (List.Vector.replicate 32 secret)
      (checksumCrypto.publicKey (List.Vector.replicate 32 7)))
    (synHeader connectionId) (checksumCrypto.publicKey (List.Vector.replicate 32 secret))
    (synPayload_fits sampleToken ⟨transport, sampleRule.destIp, sampleRule.destPort⟩)
  have opens := (sampleTunnel_opens 0 secret transport connectionId).symm.trans
    (openTunnelTo_sealed (sampleRule_published 0) sampleRule_licensed sealed)
  generalize sampleTunnel secret transport connectionId = tunnel at opens ⊢
  simp only [sampleSyn, sealed]
  exact Except.ok.inj opens

/-- The first sample tunnel opens. -/
theorem sampleTunnel_opened (maxSessions : Nat) : openTunnelTo (sampleEnv maxSessions).crypto
    standardText sampleRule.bridgeX25519PubkeyHex sampleRule.licenseToken
    ⟨.udp, sampleRule.destIp, sampleRule.destPort⟩ (List.Vector.replicate 32 1) 5 =
      .ok ((sampleTunnel 1 .udp 5).1, (sampleTunnel 1 .udp 5).2) :=
  sampleTunnel_opens maxSessions 1 .udp 5

/-- A client address. -/
def samplePeer (port : UInt16) : SocketAddr := ⟨.v4 (Ipv4Addr.new 198 51 100 7), port⟩

/-- The events that bring one SYN into the table, as the datagram numbered `task`. -/
def sampleAccept (task : Nat) (peer : SocketAddr) (syn : Bytes) : List Event :=
  [.receive peer syn, .poll task 1000, .connected task, .insert task]

/-- The key of the first sample client. -/
def sampleKey : SessionKey := ⟨samplePeer 1, 5⟩

/-- The SYN of the first client is accepted. -/
def firstAccept : List Event := sampleAccept 0 (samplePeer 1) (sampleTunnel 1 .udp 5).2

/-- The destination answers, and the answer is sent to the client. -/
def firstAnswer : List Event :=
  [.drain 0 [1, 2, 3], .senderReceive, .senderLookup, .senderEncrypt, .senderSend true]

/-- A data frame of the first sample client after it has counted some frames. -/
def firstFrame (count : UInt64) (payload : Bytes) : Bytes :=
  match (Sender.encryptUpstream checksumCrypto ⟨(sampleTunnel 1 .udp 5).1, count⟩ payload).2 with
  | .ok wire => wire
  | .error _ => []

/-- The bridge's first frame to that client. -/
def firstReply (payload : Bytes) : Bytes :=
  let session := Session.new (sampleTunnel 1 .udp 5).1.aeadKey (.udp 0) 0
  match (session.encryptDownstream checksumCrypto 5 payload).2 with
  | .ok wire => wire
  | .error _ => []

/-- The bridge admits the SYN of every such tunnel, here one of each transport. -/
example : (admitSyn (sampleEnv 1) 1000 (sampleTunnel 1 .tcp 5).2).toOption =
      some ((sampleTunnel 1 .tcp 5).1.aeadKey, ⟨.tcp, .v4 (Ipv4Addr.new 1 2 3 4), 80⟩) ∧
    (admitSyn (sampleEnv 1) 1000 (sampleTunnel 2 .udp 6).2).toOption =
      some ((sampleTunnel 2 .udp 6).1.aeadKey, ⟨.udp, .v4 (Ipv4Addr.new 1 2 3 4), 80⟩) := by
  simp only [sampleTunnel_eq]
  decide +kernel

end LowPing.Tunnel
