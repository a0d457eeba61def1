import Mathlib.Data.List.Nodup
import LowPing.Library.Machine
import LowPing.Tunnel.Handshake

/-!
# Nonces of one tunnel

One tunnel as its two endpoints run it: the client's SYN and data frames, the bridge's accept and
downstream frames. Each endpoint counts from one on its own and the key serves both directions, so
the nonces of two sealings coincide exactly when the payloads at one position of either direction
are both sealed.
-/

namespace LowPing.Tunnel

open LowPing.Bridge LowPing.Client Library.Machine

/-- The key and the nonce of one AEAD sealing. -/
structure Sealing where
  /-- Key it was made with. -/
  aeadKey : AeadKey
  /-- Nonce it was made with. -/
  nonce : Nonce
  deriving DecidableEq

/-- The sealing of a frame with a header. -/
def sealing (aeadKey : AeadKey) (header : Header) : Sealing :=
  ⟨aeadKey, deriveNonce header.connectionId header.sequence⟩

/-- What an encryption adds to the sealings: nothing when it fails. -/
def recorded (aeadKey : AeadKey) (header : Header) : Except ProtocolError Bytes → List Sealing
  | .ok _ => [sealing aeadKey header]
  | .error _ => []

/-- Both endpoints of one tunnel. -/
structure Endpoints where
  /-- The client's send loop. -/
  client : Sender
  /-- The bridge's session and its key, once accepted. -/
  session : Option (SessionKey × Session)
  /-- History: the payloads given to the client's send loop. -/
  upstream : List Bytes
  /-- History: the payloads given to the bridge's sender. -/
  downstream : List Bytes
  /-- History: the sealings of both endpoints. -/
  sealings : List Sealing

/-- One turn of an endpoint. -/
inductive EndpointEvent where
  /-- The client sends a payload. -/
  | clientSend (payload : Bytes)
  /-- The bridge accepts the SYN. -/
  | accept (nowUnix : Int64)
  /-- The bridge sends a payload. -/
  | bridgeSend (payload : Bytes)

/-- A tunnel whose SYN was just sealed. -/
def Endpoints.start (tunnel : OpenedTunnel) : Endpoints where
  client := tunnel.sender
  session := none
  upstream := []
  downstream := []
  sealings := [sealing tunnel.aeadKey (synHeader tunnel.connectionId)]

/-- `accept_new_session` of the tunnel's SYN, received from `peer`. -/
def Endpoints.accept (env : BridgeEnv) (peer : SocketAddr) (syn : Bytes) (state : Endpoints)
    (nowUnix : Int64) : Option Endpoints :=
  match state.session, Header.decode syn, admitSyn env nowUnix syn with
  | none, .ok header, .ok (aeadKey, connect) => some { state with
      session := some (⟨peer, header.connectionId⟩, Session.new aeadKey (openDest connect 0) 0) }
  | _, _, _ => none

/-- The endpoints as a machine. -/
def Endpoints.step (env : BridgeEnv) (peer : SocketAddr) (syn : Bytes) (state : Endpoints) :
    EndpointEvent → Option Endpoints
  | .clientSend payload =>
    let sent := state.client.encryptUpstream env.crypto payload
    some { state with
      client := sent.1
      upstream := state.upstream ++ [payload]
      sealings := state.sealings ++
        recorded state.client.tunnel.aeadKey state.client.nextHeader sent.2 }
  | .accept nowUnix => state.accept env peer syn nowUnix
  | .bridgeSend payload =>
    match state.session with
    | none => none
    | some (key, session) =>
      let sent := session.encryptDownstream env.crypto key.connectionId payload
      some { state with
        session := some (key, sent.1)
        downstream := state.downstream ++ [payload]
        sealings := state.sealings ++
          recorded session.aeadKey (session.nextHeader key.connectionId) sent.2 }

/-- A payload fits one frame. -/
def fits (payload : Bytes) : Bool := decide (payload.length ≤ maxPayloadLen)

/-- The sequences one direction sealed frames with: positions of payloads that fit. -/
def sealedSequences (payloads : List Bytes) : List Nat := payloads.findIdxs fits 1

/-- The sealing of a tunnel with a sequence. -/
def sealingAt (tunnel : OpenedTunnel) (sequence : Nat) : Sealing :=
  ⟨tunnel.aeadKey, deriveNonce tunnel.connectionId (UInt64.ofNat sequence)⟩

/-- Encryption records a sealing exactly when the payload fits. -/
theorem recorded_encryptFrame (crypto : Crypto) (aeadKey : AeadKey) (header : Header)
    (payload : Bytes) : recorded aeadKey header (encryptFrame crypto aeadKey header payload) =
      if fits payload then [sealing aeadKey header] else [] := by
  by_cases long : maxPayloadLen < payload.length
  · have oversized : fits payload = false := by
      unfold fits
      rw [decide_eq_false_iff_not]
      omega
    simp only [encryptFrame, if_pos long, recorded, oversized, Bool.false_eq_true, ↓reduceIte]
  · have short : fits payload = true := by
      unfold fits
      rw [decide_eq_true_eq]
      omega
    simp only [encryptFrame, if_neg long, recorded, short, ↓reduceIte]

/-- One more payload adds its position if it fits. -/
theorem sealedSequences_concat (payloads : List Bytes) (payload : Bytes) :
    sealedSequences (payloads ++ [payload]) = sealedSequences payloads ++
      if fits payload then [payloads.length + 1] else [] := by
  unfold sealedSequences
  rw [List.findIdxs_append, List.findIdxs_singleton, Nat.add_comm]

/-- Both counters and all sealings in terms of the payloads sent. -/
structure Counted (tunnel : OpenedTunnel) (state : Endpoints) : Prop where
  /-- The client's loop is the tunnel's. -/
  client : state.client.tunnel = tunnel
  /-- It has counted its payloads. -/
  counter : state.client.txSequence = UInt64.ofNat state.upstream.length
  /-- Without a session the bridge has sent nothing. -/
  waiting : state.session = none → state.downstream = []
  /-- The session shares the key and connection id and has counted its payloads. -/
  session : ∀ key session, state.session = some (key, session) →
    session.aeadKey = tunnel.aeadKey ∧ key.connectionId = tunnel.connectionId ∧
      session.txSequence = UInt64.ofNat state.downstream.length
  /-- The sealings are the SYN's and one for each payload that fits, under its position. -/
  sealings : state.sealings.Perm ((0 :: (sealedSequences state.upstream ++
    sealedSequences state.downstream)).map (sealingAt tunnel))

/-- Before the first turn only the SYN is sealed. -/
theorem counted_start (tunnel : OpenedTunnel) : Counted tunnel (.start tunnel) where
  client := rfl
  counter := rfl
  waiting _ := rfl
  session key session found := by contradiction
  sealings := List.Perm.refl _

/-- The sealing one more payload adds, under its position. -/
theorem recorded_next (crypto : Crypto) (tunnel : OpenedTunnel) (header : Header)
    (payloads : List Bytes) (payload : Bytes) (id : header.connectionId = tunnel.connectionId)
    (counted : header.sequence = UInt64.ofNat (payloads.length + 1)) :
    recorded tunnel.aeadKey header (encryptFrame crypto tunnel.aeadKey header payload) =
      (if fits payload then [payloads.length + 1] else []).map (sealingAt tunnel) := by
  rw [recorded_encryptFrame]
  by_cases short : fits payload = true
  · rw [if_pos short, if_pos short, List.map_singleton, sealing, sealingAt, id, counted]
  · rw [if_neg short, if_neg short, List.map_nil]

/-- A sealing by the client, moved to the client's sequences. -/
theorem perm_upstream (f : Nat → Sealing) {sealings : List Sealing} {ups downs : List Nat}
    (added : List Nat) (held : sealings.Perm ((0 :: (ups ++ downs)).map f)) :
    (sealings ++ added.map f).Perm ((0 :: ((ups ++ added) ++ downs)).map f) := by
  have moved : (0 :: (ups ++ downs) ++ added).Perm (0 :: ((ups ++ added) ++ downs)) := by
    rw [List.cons_append, List.append_assoc, List.append_assoc]
    exact (List.perm_append_comm.append_left ups).cons 0
  calc (sealings ++ added.map f).Perm ((0 :: (ups ++ downs)).map f ++ added.map f) :=
        held.append_right _
    _ = (0 :: (ups ++ downs) ++ added).map f := List.map_append.symm
    List.Perm _ ((0 :: ((ups ++ added) ++ downs)).map f) := moved.map f

/-- A sealing by the bridge, at the end of the bridge's sequences. -/
theorem perm_downstream (f : Nat → Sealing) {sealings : List Sealing} {ups downs : List Nat}
    (added : List Nat) (held : sealings.Perm ((0 :: (ups ++ downs)).map f)) :
    (sealings ++ added.map f).Perm ((0 :: (ups ++ (downs ++ added))).map f) := by
  rw [← List.append_assoc, ← List.cons_append, List.map_append]
  exact held.append_right _

section

variable {env : BridgeEnv} {text : TextCodec} {bridgePubkeyHex licenseToken : String}
  {destination : ConnectRequest} {clientSk : StaticSecret} {connectionId : UInt32}
  {tunnel : OpenedTunnel} {syn : Bytes} {peer : SocketAddr}

/-- An accepted tunnel has the tunnel's key and connection id and a counter at zero. -/
theorem accept_ok (laws : CryptoLaws env.crypto)
    (published : text.hexDecode bridgePubkeyHex =
      some (env.crypto.publicKey env.bridgeSecret).toList)
    (opened : openTunnelTo env.crypto text bridgePubkeyHex licenseToken destination clientSk
      connectionId = .ok (tunnel, syn))
    {state next : Endpoints} {nowUnix : Int64}
    (taken : state.accept env peer syn nowUnix = some next) :
    state.session = none ∧ ∃ key session, next = { state with session := some (key, session) } ∧
      session.aeadKey = tunnel.aeadKey ∧ key.connectionId = tunnel.connectionId ∧
      session.txSequence = 0 := by
  unfold Endpoints.accept at taken
  split at taken
  · rename_i header aeadKey connect absent front admitted
    have shared := admitted_key_shared laws published opened admitted
    have sent := openTunnelTo_header laws opened
    obtain ⟨_, _, _, _, rfl, _⟩ := openTunnelTo_ok opened
    obtain rfl := Except.ok.inj (front.symm.trans sent)
    exact ⟨absent, _, _, (Option.some.inj taken).symm, shared, rfl, rfl⟩
  · contradiction

/-- Every turn counts. -/
theorem counted_step (laws : CryptoLaws env.crypto)
    (published : text.hexDecode bridgePubkeyHex =
      some (env.crypto.publicKey env.bridgeSecret).toList)
    (opened : openTunnelTo env.crypto text bridgePubkeyHex licenseToken destination clientSk
      connectionId = .ok (tunnel, syn))
    {state next : Endpoints} {event : EndpointEvent}
    (held : Counted tunnel state) (taken : state.step env peer syn event = some next) :
    Counted tunnel next := by
  cases event with
  | clientSend payload =>
    obtain rfl := Option.some.inj taken
    have successor : state.client.txSequence + 1 = UInt64.ofNat (state.upstream.length + 1) := by
      rw [held.counter, UInt64.ofNat_add]
      rfl
    refine ⟨held.client, ?_, held.waiting, held.session, ?_⟩
    · rw [List.length_append, List.length_singleton]
      exact successor
    · have id : state.client.nextHeader.connectionId = tunnel.connectionId := by
        rw [← held.client]
        rfl
      have added := recorded_next env.crypto tunnel state.client.nextHeader state.upstream payload
        id successor
      simp only [Sender.encryptUpstream, held.client, added, sealedSequences_concat]
      exact perm_upstream (sealingAt tunnel) _ held.sealings
  | accept nowUnix =>
    obtain ⟨absent, key, session, rfl, shared, id, zero⟩ := accept_ok laws published opened taken
    refine ⟨held.client, held.counter, fun missing => by contradiction, ?_, held.sealings⟩
    intro otherKey other found
    obtain ⟨rfl, rfl⟩ := Prod.mk.inj (Option.some.inj found)
    refine ⟨shared, id, ?_⟩
    rw [zero, held.waiting absent]
    rfl
  | bridgeSend payload =>
    simp only [Endpoints.step] at taken
    split at taken
    · contradiction
    · rename_i key session live
      obtain ⟨shared, id, counter⟩ := held.session key session live
      obtain rfl := Option.some.inj taken
      have successor : session.txSequence + 1 =
          UInt64.ofNat (state.downstream.length + 1) := by
        rw [counter, UInt64.ofNat_add]
        rfl
      refine ⟨held.client, held.counter, fun missing => by contradiction, ?_, ?_⟩
      · intro otherKey other found
        obtain ⟨rfl, rfl⟩ := Prod.mk.inj (Option.some.inj found)
        refine ⟨shared, id, ?_⟩
        rw [List.length_append, List.length_singleton]
        exact successor
      · have added := recorded_next env.crypto tunnel (session.nextHeader key.connectionId)
          state.downstream payload id successor
        simp only [Session.encryptDownstream, shared, added, sealedSequences_concat]
        exact perm_downstream (sealingAt tunnel) _ held.sealings

/-- Different sequences below 2⁶⁴ have different nonces. -/
theorem sealingAt_inj {left right : Nat} (leftBound : left < 2 ^ 64) (rightBound : right < 2 ^ 64)
    (same : sealingAt tunnel left = sealingAt tunnel right) : left = right := by
  have nonces := congrArg Sealing.nonce same
  have words := (deriveNonce_injective nonces).2
  have values := congrArg UInt64.toNat words
  rwa [UInt64.toNat_ofNat_of_lt' leftBound, UInt64.toNat_ofNat_of_lt' rightBound] at values

/-- A sequence is sealed in a direction when the payload at its position fits. -/
theorem mem_sealedSequences {payloads : List Bytes} {sequence : Nat} :
    sequence ∈ sealedSequences payloads ↔ 1 ≤ sequence ∧
      ∃ payload, payloads[sequence - 1]? = some payload ∧ fits payload = true := by
  unfold sealedSequences
  rw [List.mem_findIdxs_iff_getElem_sub_pos]
  constructor
  · rintro ⟨positive, bound, fit⟩
    exact ⟨positive, _, List.getElem?_eq_getElem bound, fit⟩
  · rintro ⟨positive, payload, present, fit⟩
    obtain ⟨bound, rfl⟩ := List.getElem?_eq_some_iff.mp present
    exact ⟨positive, bound, fit⟩

/-- A sealed sequence is at most the number of payloads. -/
theorem sealedSequences_le {payloads : List Bytes} {sequence : Nat}
    (member : sequence ∈ sealedSequences payloads) : sequence ≤ payloads.length := by
  obtain ⟨positive, payload, present, _⟩ := mem_sealedSequences.mp member
  have bound := (List.getElem?_eq_some_iff.mp present).1
  omega

/-- The sequences of the SYN and both directions are distinct exactly when no position is sealed in
both. -/
theorem sequences_nodup_iff {upstream downstream : List Bytes} :
    (0 :: (sealedSequences upstream ++ sealedSequences downstream)).Nodup ↔
      ∀ (position : Nat) (up down : Bytes), upstream[position]? = some up →
        downstream[position]? = some down →
        ¬ (up.length ≤ maxPayloadLen ∧ down.length ≤ maxPayloadLen) := by
  constructor
  · intro distinct position up down upPresent downPresent short
    have sentUp : position + 1 ∈ sealedSequences upstream :=
      mem_sealedSequences.mpr ⟨by omega, up, upPresent, decide_eq_true short.1⟩
    have sentDown : position + 1 ∈ sealedSequences downstream :=
      mem_sealedSequences.mpr ⟨by omega, down, downPresent, decide_eq_true short.2⟩
    have both := (List.nodup_append.mp (List.nodup_cons.mp distinct).2).2.2
    exact both _ sentUp _ sentDown rfl
  · intro apart
    refine List.nodup_cons.mpr ⟨?_, List.nodup_append.mpr
      ⟨List.nodup_findIdxs, List.nodup_findIdxs, ?_⟩⟩
    · intro member
      rcases List.mem_append.mp member with up | down
      · have positive := (mem_sealedSequences.mp up).1
        omega
      · have positive := (mem_sealedSequences.mp down).1
        omega
    · rintro sequence sentUp _ sentDown rfl
      obtain ⟨_, up, upPresent, upShort⟩ := mem_sealedSequences.mp sentUp
      obtain ⟨_, down, downPresent, downShort⟩ := mem_sealedSequences.mp sentDown
      exact apart _ up down upPresent downPresent
        ⟨of_decide_eq_true upShort, of_decide_eq_true downShort⟩

/-- In every run of a tunnel with fewer than 2⁶⁴ frames in each direction, all sealings have
different nonces if and only if at no position the payloads of both directions fit a frame. -/
theorem nonces_distinct_iff (laws : CryptoLaws env.crypto)
    (published : text.hexDecode bridgePubkeyHex =
      some (env.crypto.publicKey env.bridgeSecret).toList)
    (opened : openTunnelTo env.crypto text bridgePubkeyHex licenseToken destination clientSk
      connectionId = .ok (tunnel, syn))
    {events : List EndpointEvent} {final : Endpoints}
    (reached : run (Endpoints.step env peer syn) (.start tunnel) events = some final)
    (upstreamShort : final.upstream.length < 2 ^ 64)
    (downstreamShort : final.downstream.length < 2 ^ 64) :
    final.sealings.Nodup ↔ ∀ (position : Nat) (up down : Bytes),
      final.upstream[position]? = some up → final.downstream[position]? = some down →
      ¬ (up.length ≤ maxPayloadLen ∧ down.length ≤ maxPayloadLen) := by
  have counted : Counted tunnel final :=
    run_invariant_always (fun state event next held taken =>
      counted_step laws published opened held taken) (counted_start tunnel) reached
  have bound : ∀ sequence ∈ 0 :: (sealedSequences final.upstream ++
      sealedSequences final.downstream), sequence < 2 ^ 64 := by
    intro sequence member
    rcases List.mem_cons.mp member with rfl | sent
    · decide
    · rcases List.mem_append.mp sent with up | down
      · have below := sealedSequences_le up
        omega
      · have below := sealedSequences_le down
        omega
  rw [counted.sealings.nodup_iff, ← sequences_nodup_iff]
  constructor
  · exact List.Nodup.of_map _
  · exact List.Nodup.map_on fun left leftMember right rightMember same =>
      sealingAt_inj (bound left leftMember) (bound right rightMember) same

end

/-- The client sends twice and is not answered. -/
def unanswered : List EndpointEvent := [.clientSend [1], .accept 1000, .clientSend [2]]

/-- All sealings of the run without answers have different nonces. -/
theorem unanswered_distinct : ∃ final,
    run (Endpoints.step (sampleEnv 1) (samplePeer 1) (sampleTunnel 1 .udp 5).2)
      (.start (sampleTunnel 1 .udp 5).1) unanswered = some final ∧ final.sealings.Nodup := by
  have sent : ((run (Endpoints.step (sampleEnv 1) (samplePeer 1) (sampleTunnel 1 .udp 5).2)
      (.start (sampleTunnel 1 .udp 5).1) unanswered).map fun final =>
      (final.upstream, final.downstream)) = some ([[1], [2]], []) := by
    simp only [sampleTunnel_eq]
    decide +kernel
  obtain ⟨final, reached, payloads⟩ := Option.map_eq_some_iff.mp sent
  obtain ⟨ups, downs⟩ := Prod.mk.inj payloads
  have upShort : final.upstream.length < 2 ^ 64 := by
    rw [ups]
    decide
  have downShort : final.downstream.length < 2 ^ 64 := by
    rw [downs]
    decide
  refine ⟨final, reached, (nonces_distinct_iff (sampleEnv_laws 1) (sampleRule_published 1)
    (sampleTunnel_opened 1) reached upShort downShort).mpr ?_⟩
  intro position up down _ downPresent
  rw [downs, List.getElem?_nil] at downPresent
  cases downPresent

/-- One small payload in each direction. -/
def answeredOnce : List EndpointEvent := [.clientSend [1], .accept 1000, .bridgeSend [2]]

/-- Some run of a tunnel uses a nonce twice. -/
theorem nonce_reused : ¬ ∀ (env : BridgeEnv) (text : TextCodec)
    (bridgePubkeyHex licenseToken : String) (destination : ConnectRequest)
    (clientSk : StaticSecret) (connectionId : UInt32) (tunnel : OpenedTunnel) (syn : Bytes)
    (peer : SocketAddr) (events : List EndpointEvent) (final : Endpoints),
    CryptoLaws env.crypto →
    text.hexDecode bridgePubkeyHex = some (env.crypto.publicKey env.bridgeSecret).toList →
    openTunnelTo env.crypto text bridgePubkeyHex licenseToken destination clientSk connectionId =
      .ok (tunnel, syn) →
    run (Endpoints.step env peer syn) (.start tunnel) events = some final →
    final.upstream.length < 2 ^ 64 → final.downstream.length < 2 ^ 64 →
    final.sealings.Nodup := by
  intro distinct
  have repeated : ((run (Endpoints.step (sampleEnv 1) (samplePeer 1) (sampleTunnel 1 .udp 5).2)
      (.start (sampleTunnel 1 .udp 5).1) answeredOnce).map fun final =>
      (final.upstream.length, final.downstream.length, decide final.sealings.Nodup)) =
      some (1, 1, false) := by
    simp only [sampleTunnel_eq]
    decide +kernel
  obtain ⟨final, reached, outcome⟩ := Option.map_eq_some_iff.mp repeated
  obtain ⟨up, rest⟩ := Prod.mk.inj outcome
  obtain ⟨down, verdict⟩ := Prod.mk.inj rest
  have upShort : final.upstream.length < 2 ^ 64 := by
    rw [up]
    decide
  have downShort : final.downstream.length < 2 ^ 64 := by
    rw [down]
    decide
  exact of_decide_eq_false verdict (distinct (sampleEnv 1) standardText _ _ _ _ _ _ _ (samplePeer 1)
    answeredOnce final (sampleEnv_laws 1) (sampleRule_published 1) (sampleTunnel_opened 1) reached
    upShort downShort)

end LowPing.Tunnel
