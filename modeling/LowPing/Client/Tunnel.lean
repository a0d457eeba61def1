import LowPing.Protocol.Syn

/-!
# Client tunnels

What the client's forwarders do with one tunnel: derive the session key, build the SYN, count and
seal outgoing payloads, open incoming frames. `gr-client` has two copies of `open_tunnel`, which
differ in where the destination comes from, and three send loops, which agree on counter, header
and sealing.
-/

namespace LowPing.Client

/-- Why `open_tunnel` returns no tunnel. -/
inductive TunnelError where
  /-- Context `bridge_x25519_pubkey_hex`. -/
  | bridgePubkeyHex
  /-- `public key length must be 32, got {0}` -/
  | badPubkeyLength (got : Nat)
  /-- Context `license_token decode`. -/
  | license (error : LicenseError)
  /-- The SYN could not be sealed. -/
  | protocol (error : ProtocolError)
  deriving DecidableEq

/-- `OpenedTunnel`; the socket to the bridge is the environment's. -/
structure OpenedTunnel where
  /-- Derived once, used in both directions. -/
  aeadKey : AeadKey
  /-- Random. -/
  connectionId : UInt32
  deriving DecidableEq

/-- The header of a SYN frame. -/
def synHeader (connectionId : UInt32) : Header where
  version := protoVersion
  flags := Flags.syn
  connectionId
  sequence := 0

/-- The body shared by both `open_tunnel` copies, with the random secret and connection id as
arguments: the tunnel and the SYN datagram it sends. -/
def openTunnelTo (crypto : Crypto) (text : TextCodec) (bridgePubkeyHex licenseToken : String)
    (connect : ConnectRequest) (clientSk : StaticSecret) (connectionId : UInt32) :
    Except TunnelError (OpenedTunnel × Bytes) :=
  match text.hexDecode bridgePubkeyHex with
  | none => .error .bridgePubkeyHex
  | some bridgePkBytes =>
    if length : bridgePkBytes.length = 32 then
      let aeadKey := clientDeriveSessionKey crypto clientSk ⟨bridgePkBytes, length⟩
      match LicenseToken.fromStringB64 text licenseToken with
      | .error failure => .error (.license failure)
      | .ok token =>
        match encryptSynFrame crypto aeadKey (synHeader connectionId) (crypto.publicKey clientSk)
            (synPayload token connect) with
        | .error failure => .error (.protocol failure)
        | .ok wire => .ok (⟨aeadKey, connectionId⟩, wire)
    else .error (.badPubkeyLength bridgePkBytes.length)

/-- The fields of a forwarding `Rule` that its tunnels are opened with. -/
structure Rule where
  /-- Where the SYN is sent. -/
  bridge : SocketAddr
  /-- Hex text of the bridge's public key. -/
  bridgeX25519PubkeyHex : String
  /-- Base64 text of the licence token. -/
  licenseToken : String
  /-- Fixed destination of the rule. -/
  destIp : IpAddr
  /-- Fixed destination port of the rule. -/
  destPort : UInt16

/-- `open_tunnel` of the rule forwarder. -/
def Rule.openTunnel (crypto : Crypto) (text : TextCodec) (rule : Rule)
    (transport : TransportProtocol) (clientSk : StaticSecret) (connectionId : UInt32) :
    Except TunnelError (OpenedTunnel × Bytes) :=
  openTunnelTo crypto text rule.bridgeX25519PubkeyHex rule.licenseToken
    ⟨transport, rule.destIp, rule.destPort⟩ clientSk connectionId

/-- A tunnel and the counter of its outgoing data frames. -/
structure Sender where
  /-- The opened tunnel. -/
  tunnel : OpenedTunnel
  /-- Last sequence used; SYN used 0. -/
  txSequence : UInt64
  deriving DecidableEq

/-- Every send loop starts its counter at zero. -/
def OpenedTunnel.sender (tunnel : OpenedTunnel) : Sender := ⟨tunnel, 0⟩

/-- The header of the next data frame; the counter wraps. -/
def Sender.nextHeader (sender : Sender) : Header where
  version := protoVersion
  flags := Flags.empty
  connectionId := sender.tunnel.connectionId
  sequence := sender.txSequence + 1

/-- One turn of a send loop (`handle_tcp_local`, `run_udp_rule`, `run_bridge_listener`): count,
then seal. An oversized payload uses up its sequence. -/
def Sender.encryptUpstream (crypto : Crypto) (sender : Sender) (payload : Bytes) :
    Sender × Except ProtocolError Bytes :=
  ({ sender with txSequence := sender.txSequence + 1 },
    encryptFrame crypto sender.tunnel.aeadKey sender.nextHeader payload)

/-- One turn of a receive loop: the payload written to the local socket. The opened header is not
looked at. -/
def OpenedTunnel.receive (crypto : Crypto) (tunnel : OpenedTunnel) (wire : Bytes) :
    Option Bytes :=
  match decryptFrame crypto tunnel.aeadKey wire with
  | .error _ => none
  | .ok (_, payload) => some payload

/-- What an opened tunnel holds and sends. -/
theorem openTunnelTo_ok {crypto : Crypto} {text : TextCodec} {bridgePubkeyHex licenseToken : String}
    {connect : ConnectRequest} {clientSk : StaticSecret} {connectionId : UInt32}
    {tunnel : OpenedTunnel} {wire : Bytes}
    (opened : openTunnelTo crypto text bridgePubkeyHex licenseToken connect clientSk connectionId =
      .ok (tunnel, wire)) :
    ∃ (bridgePk : PublicKey) (token : LicenseToken),
      text.hexDecode bridgePubkeyHex = some bridgePk.toList ∧
      LicenseToken.fromStringB64 text licenseToken = .ok token ∧
      tunnel = ⟨clientDeriveSessionKey crypto clientSk bridgePk, connectionId⟩ ∧
      encryptSynFrame crypto tunnel.aeadKey (synHeader connectionId) (crypto.publicKey clientSk)
        (synPayload token connect) = .ok wire := by
  unfold openTunnelTo at opened
  split at opened
  · contradiction
  · rename_i bridgePkBytes decoded
    split at opened
    · rename_i length
      split at opened
      · contradiction
      · rename_i token read
        dsimp only at opened
        split at opened
        · contradiction
        · rename_i sealedWire sealed
          simp only [Except.ok.injEq, Prod.mk.injEq] at opened
          obtain ⟨rfl, rfl⟩ := opened
          exact ⟨⟨bridgePkBytes, length⟩, token, decoded, read, rfl, sealed⟩
    · contradiction

/-- With a readable key and token and a sealed SYN the tunnel opens. -/
theorem openTunnelTo_sealed {crypto : Crypto} {text : TextCodec}
    {bridgePubkeyHex licenseToken : String} {connect : ConnectRequest} {clientSk : StaticSecret}
    {connectionId : UInt32} {bridgePk : PublicKey} {token : LicenseToken} {wire : Bytes}
    (published : text.hexDecode bridgePubkeyHex = some bridgePk.toList)
    (read : LicenseToken.fromStringB64 text licenseToken = .ok token)
    (sealed : encryptSynFrame crypto (clientDeriveSessionKey crypto clientSk bridgePk)
      (synHeader connectionId) (crypto.publicKey clientSk) (synPayload token connect) = .ok wire) :
    openTunnelTo crypto text bridgePubkeyHex licenseToken connect clientSk connectionId =
      .ok (⟨clientDeriveSessionKey crypto clientSk bridgePk, connectionId⟩, wire) := by
  obtain ⟨bytes, length⟩ := bridgePk
  simp only [openTunnelTo, published, List.Vector.toList_mk, length, ↓reduceDIte, read, sealed]

/-- With a readable key and token every tunnel opens: its SYN always fits. -/
theorem openTunnelTo_opens (crypto : Crypto) {text : TextCodec}
    {bridgePubkeyHex licenseToken : String} {bridgePk : PublicKey} {token : LicenseToken}
    (published : text.hexDecode bridgePubkeyHex = some bridgePk.toList)
    (read : LicenseToken.fromStringB64 text licenseToken = .ok token) (connect : ConnectRequest)
    (clientSk : StaticSecret) (connectionId : UInt32) :
    ∃ opened, openTunnelTo crypto text bridgePubkeyHex licenseToken connect clientSk
      connectionId = .ok opened := by
  obtain ⟨wire, sealed⟩ := encryptSynFrame_fits crypto
    (clientDeriveSessionKey crypto clientSk bridgePk) (synHeader connectionId)
    (crypto.publicKey clientSk) (synPayload_fits token connect)
  exact ⟨_, openTunnelTo_sealed published read sealed⟩

end LowPing.Client
