import LowPing.Backend.Service
import LowPing.Bridge.Config
import LowPing.Tunnel.Completeness

/-!
# From generated keys to a served tunnel

An operator generates a key pair for the backend and one for the bridge, gives each program its
secret and the bridge the key that the backend publishes; clients get the bridge's public key and
sign up. All the text that passes between the programs fits together: whatever the backend serves
before and after, the token of a signup opens tunnels through the bridge from the signup until it
expires, and at no other time.
-/

namespace LowPing.Tunnel

open LowPing.Backend LowPing.Bridge LowPing.Client
open Library.Machine (run)

/-- The bridge refuses a SYN on account of its token. -/
def RefusesLicence (env : BridgeEnv) (nowUnix : Int64) (syn : Bytes) : Prop :=
  ∃ failure, admitSyn env nowUnix syn = .error (.license failure)

/-- A tunnel is opened at the client, and the bridge completes it within a span of time and refuses
it outside. -/
def OpensWithin (env : BridgeEnv) (issuedAt expiresAt : Int64) (connectionId : UInt32)
    (connect : ConnectRequest) (opened : Except TunnelError (OpenedTunnel × Bytes)) : Prop :=
  ∃ tunnel syn, opened = .ok (tunnel, syn) ∧ tunnel.connectionId = connectionId ∧
    ∀ nowUnix,
      (issuedAt ≤ nowUnix ∧ nowUnix < expiresAt → Completes env nowUnix tunnel syn connect) ∧
      (¬ (issuedAt ≤ nowUnix ∧ nowUnix < expiresAt) → RefusesLicence env nowUnix syn)

section

variable {crypto : Crypto} {codec : KeyCodec} {env : BridgeEnv}

/-- A sealed SYN with a token that does not verify is refused. -/
theorem refuses_encryptSynFrame (laws : CryptoLaws env.crypto) {clientSk : StaticSecret}
    {connectionId : UInt32} {aeadKey : AeadKey} {token : LicenseToken} {syn : Bytes}
    {nowUnix : Int64} {connect : ConnectRequest}
    (derived : aeadKey = bridgeDeriveSessionKey env.crypto env.bridgeSecret
      (env.crypto.publicKey clientSk))
    (invalid : token.verify env.crypto env.backendPubkey nowUnix ≠ .ok ())
    (sealed : encryptSynFrame env.crypto aeadKey (synHeader connectionId)
      (env.crypto.publicKey clientSk) (synPayload token connect) = .ok syn) :
    RefusesLicence env nowUnix syn := by
  have front := (parseSynFront_encryptSynFrame laws rfl sealed).2
  have opened := decryptSynPayload_encryptSynFrame laws rfl sealed
  have carried : LicenseToken.fromBytes ((synPayload token connect).take tokenLen) = .ok token :=
    token.fromBytes_take connect.encode
  have long : ¬ (synPayload token connect).length < tokenLen + 4 := by
    have request := connect.length_encode
    rw [synPayload, List.length_append, token.length_toBytes]
    omega
  subst derived
  cases verdict : token.verify env.crypto env.backendPubkey nowUnix with
  | ok valid => exact absurd verdict invalid
  | error failure =>
    refine ⟨failure, ?_⟩
    simp only [admitSyn, front, opened, if_neg long, carried, verdict]

/-- The body both copies of `open_tunnel` share opens a tunnel for as long as its token is valid. -/
theorem openTunnelTo_within (laws : CryptoLaws env.crypto) {text : TextCodec}
    {signingKey : SigningKey}
    (backend : env.backendPubkey = env.crypto.verifyingKey signingKey) {licence : LicensePayload}
    (scope : licence.scope &&& 1 = 1) {bridgePubkeyHex licenseToken : String}
    (published : text.hexDecode bridgePubkeyHex =
      some (env.crypto.publicKey env.bridgeSecret).toList)
    {token : LicenseToken} (read : LicenseToken.fromStringB64 text licenseToken = .ok token)
    (signed : token = LicenseToken.sign env.crypto licence signingKey)
    (clientSk : StaticSecret) (connectionId : UInt32) (connect : ConnectRequest) :
    OpensWithin env licence.issuedAt licence.expiresAt connectionId connect
      (openTunnelTo env.crypto text bridgePubkeyHex licenseToken connect clientSk
        connectionId) := by
  obtain ⟨syn, sealed⟩ := encryptSynFrame_fits env.crypto
    (clientDeriveSessionKey env.crypto clientSk (env.crypto.publicKey env.bridgeSecret))
    (synHeader connectionId) (env.crypto.publicKey clientSk) (synPayload_fits token connect)
  have opened := openTunnelTo_sealed published read sealed
  have derived := (derived_keys_agree laws env.bridgeSecret clientSk).symm
  have validity (nowUnix : Int64) : token.verify env.crypto env.backendPubkey nowUnix = .ok () ↔
      licence.issuedAt ≤ nowUnix ∧ nowUnix < licence.expiresAt := by
    rw [signed, backend]
    exact LicenseToken.verify_sign_iff laws signingKey licence nowUnix
  have routed := (parseSynFront_encryptSynFrame laws rfl sealed).1
  refine ⟨_, syn, opened, rfl, fun nowUnix => ⟨fun within => ?_, fun outside => ?_⟩⟩
  · have granted : token.payload.scope &&& 1 = 1 := by
      rw [signed]
      exact scope
    have admitted := admitSyn_encryptSynFrame laws derived ((validity nowUnix).mpr within) granted
      sealed
    exact {
      accepted := accepted_of_admitSyn routed rfl syn_contains_syn admitted
      upstream := fun sequence payload fits => upstream_opened laws sequence fits
      downstream := fun state queued session point fits own free =>
        downstream_opened laws point fits own free }
  · exact refuses_encryptSynFrame laws derived (mt (validity nowUnix).mp outside) sealed

end

/-- The clients of a bridge can use a token from one time until another, in either mode. -/
structure Usable (env : BridgeEnv) (text : TextCodec) (bridgePubkeyHex licenseToken : String)
    (issuedAt expiresAt : Int64) (clientSk : StaticSecret) (connectionId : UInt32) : Prop where
  /-- A forwarding rule, in both transports. -/
  rules : ∀ (rule : Rule) transport, rule.bridgeX25519PubkeyHex = bridgePubkeyHex →
    rule.licenseToken = licenseToken →
    OpensWithin env issuedAt expiresAt connectionId ⟨transport, rule.destIp, rule.destPort⟩
      (rule.openTunnel env.crypto text transport clientSk connectionId)
  /-- A bridge of smart mode. -/
  entries : ∀ (bridge : Client.BridgeEntry) (dest : SocketAddr),
    bridge.bridgeX25519PubkeyHex = bridgePubkeyHex → bridge.licenseToken = licenseToken →
    OpensWithin env issuedAt expiresAt connectionId ⟨.udp, dest.ip, dest.port⟩
      (bridge.openTunnel env.crypto text dest clientSk connectionId)

/-- With generated keys backend and bridge start, and every token the backend hands out in a run
opens tunnels through the bridge from the signup until it expires, and not outside. -/
theorem deployment_opens {crypto : Crypto} {codec : KeyCodec} {format : DirectoryFormat}
    (laws : CryptoLaws crypto) (keyLaws : KeyLaws crypto codec) (round : format.RoundTrips)
    (signingKey : SigningKey) (bridgeSecret : StaticSecret) (tokenTtlSecs : UInt64)
    (directories : DirectoryConfig) (config : BridgeConfig) :
    ∃ app env,
      AppState.new crypto codec.toTextCodec
        ⟨(backendGenKey crypto codec signingKey).seckeyHex, tokenTtlSecs⟩ = .ok app ∧
      BridgeEnv.load crypto codec config ⟨(bridgeGenKey crypto codec bridgeSecret).seckeyHex,
        (app.info codec).backendPubkeyHex⟩ = .ok env ∧
      ∀ (requests : List (Request format.DateTime)) final,
        run (BackendState.step codec.toTextCodec format) (BackendState.start app directories)
          requests = some final →
        ∀ (i : Nat) (now : Int64) (response : SignupResponse), requests[i]? = some (.signup now) →
          final.responses[i]? = some (.signup response) →
          ∀ clientSk connectionId, Usable env codec.toTextCodec
            (bridgeGenKey crypto codec bridgeSecret).pubkeyHex response.licenseToken now
            response.expiresAtUnix clientSk connectionId := by
  have decoded : codec.hexDecode (backendGenKey crypto codec signingKey).seckeyHex =
      some signingKey.toList := keyLaws.hex _
  obtain ⟨app, started⟩ : ∃ app, AppState.new crypto codec.toTextCodec
      ⟨(backendGenKey crypto codec signingKey).seckeyHex, tokenTtlSecs⟩ = .ok app := by
    simp only [AppState.new, decoded, signingKey.toList_length, ↓reduceDIte]
    exact ⟨_, rfl⟩
  obtain ⟨_, own, fresh⟩ := AppState.new_ok started
  have key : app.signingKey = signingKey := by
    rw [decoded] at own
    exact (Subtype.ext (Option.some.inj own)).symm
  have published : (app.info codec).backendPubkeyHex =
      (backendGenKey crypto codec signingKey).pubkeyHex := by
    rw [AppState.info, app.paired, key]
    rfl
  refine ⟨app, ⟨crypto, config, bridgeSecret, crypto.verifyingKey signingKey⟩, started, ?_, ?_⟩
  · rw [published]
    exact BridgeEnv.load_printed keyLaws config bridgeSecret signingKey
  · intro requests final reached i now response asked given clientSk connectionId
    have serves := serves_run laws keyLaws.toTextLaws round fresh reached
    have answer := serves.answered.2 i _ _ asked given
    obtain ⟨_, expires, token, read, signed, _⟩ := answer
    rw [key] at signed
    have bit : (1 : UInt32) &&& 1 = 1 := by decide
    have either (connect : ConnectRequest) :
        OpensWithin ⟨crypto, config, bridgeSecret, crypto.verifyingKey signingKey⟩ now
          response.expiresAtUnix connectionId connect
          (openTunnelTo crypto codec.toTextCodec (bridgeGenKey crypto codec bridgeSecret).pubkeyHex
            response.licenseToken connect clientSk connectionId) := by
      rw [expires]
      exact openTunnelTo_within
        (show CryptoLaws (BridgeEnv.mk crypto config bridgeSecret
          (crypto.verifyingKey signingKey)).crypto from laws)
        rfl bit (keyLaws.hex _) read signed clientSk connectionId connect
    constructor
    · intro rule transport sameKey sameToken
      rw [Rule.openTunnel, sameKey, sameToken]
      exact either _
    · intro bridge dest sameKey sameToken
      rw [BridgeEntry.openTunnel, sameKey, sameToken]
      exact either _

/-- The sample backend's keys as its `gen-key` prints them. -/
theorem sampleKeys_started : AppState.new checksumCrypto standardKeys.toTextCodec
    ⟨(backendGenKey checksumCrypto standardKeys (List.Vector.replicate 32 9)).seckeyHex,
      defaultTokenTtl⟩ = .ok (sampleBackend defaultTokenTtl) := by
  rfl

/-- With sample keys everything starts, and the token of the first signup opens tunnels for a
week. -/
theorem sampleDeployment_opens : ∃ env,
    BridgeEnv.load checksumCrypto standardKeys ⟨false, defaultMaxSessions, defaultIdleTimeout⟩
      ⟨(bridgeGenKey checksumCrypto standardKeys (List.Vector.replicate 32 7)).seckeyHex,
        ((sampleBackend defaultTokenTtl).info standardKeys).backendPubkeyHex⟩ = .ok env ∧
    Usable env standardText
      (bridgeGenKey checksumCrypto standardKeys (List.Vector.replicate 32 7)).pubkeyHex
      (firstSignup defaultTokenTtl 1000).licenseToken 1000 605800 (List.Vector.replicate 32 1)
      5 := by
  obtain ⟨app, env, started, loaded, usable⟩ := deployment_opens checksumCrypto_laws
    standardKeys_laws noonFormat_roundTrips (List.Vector.replicate 32 9)
    (List.Vector.replicate 32 7) defaultTokenTtl ⟨[dallas true], 1800⟩
    ⟨false, defaultMaxSessions, defaultIdleTimeout⟩
  obtain rfl := Except.ok.inj (sampleKeys_started.symm.trans started)
  refine ⟨env, loaded, ?_⟩
  exact usable [.signup 1000] _ rfl 0 1000 (firstSignup defaultTokenTtl 1000) rfl rfl
    (List.Vector.replicate 32 1) 5

end LowPing.Tunnel
