import LowPing.Bridge.Server
import LowPing.Protocol.Checked

/-!
# Handling a datagram never panics

`handle_packet` and what it calls, with every run-time check of the source. On every datagram, in
every state of the bridge and for whatever the datagram decrypts to, no check fails and the checked
handling is that of the server.
-/

namespace LowPing.Bridge

open Library (Checked)
open Library.Checked (slice)

/-- `accept_new_session` from the decrypted payload to `open_dest`. -/
def admitInnerChecked (env : BridgeEnv) (nowUnix : Int64) (aeadKey : AeadKey) (inner : Bytes) :
    Checked (Except BridgeError (AeadKey × ConnectRequest)) :=
  if inner.length < tokenLen + 4 then pure (.error .shortPayload)
  else do
    match ← LicenseToken.fromBytesChecked (← slice inner 0 tokenLen) with
    | .error failure => pure (.error (.license failure))
    | .ok token =>
      match ← token.verifyChecked env.crypto env.backendPubkey nowUnix with
      | .error failure => pure (.error (.license failure))
      | .ok () =>
        if env.config.allowAnyScope = false ∧ token.payload.scope &&& 1 = 0 then
          pure (.error .missingScope)
        else do
          match ← ConnectRequest.decodeChecked (← slice inner tokenLen inner.length) with
          | .error failure => pure (.error (.protocol failure))
          | .ok connect => pure (.ok (aeadKey, connect))

/-- `accept_new_session` between the table check and `open_dest`. -/
def admitSynChecked (env : BridgeEnv) (nowUnix : Int64) (pkt : Bytes) :
    Checked (Except BridgeError (AeadKey × ConnectRequest)) := do
  match ← parseSynFrontChecked pkt with
  | .error failure => pure (.error (.protocol failure))
  | .ok (_, clientPkBytes) =>
    let clientPk ← pubkeyFromBytesChecked clientPkBytes
    let aeadKey := bridgeDeriveSessionKey env.crypto env.bridgeSecret clientPk
    match ← decryptSynPayloadChecked env.crypto aeadKey pkt with
    | .error failure => pure (.error (.protocol failure))
    | .ok inner => admitInnerChecked env nowUnix aeadKey inner

/-- `accept_new_session` up to its first await. -/
def acceptNewSessionChecked (env : BridgeEnv) (state : BridgeState) (nowUnix : Int64)
    (key : SessionKey) (pkt : Bytes) : Checked PacketTask :=
  if env.config.maxSessions ≤ state.sessionCount then pure (.returned (some .tableFull))
  else do
    match ← admitSynChecked env nowUnix pkt with
    | .error failure => pure (.returned (some failure))
    | .ok (aeadKey, connect) => pure (.connecting key aeadKey connect)

/-- `handle_packet` up to its first await. -/
def handlePacketChecked (env : BridgeEnv) (state : BridgeState) (nowUnix : Int64)
    (peer : SocketAddr) (pkt : Bytes) : Checked PacketTask := do
  match ← Header.decodeChecked pkt with
  | .error failure => pure (.returned (some (.protocol failure)))
  | .ok header =>
    if header.version ≠ protoVersion then
      pure (.returned (some (.badVersion header.version)))
    else if header.flags.contains Flags.syn then
      acceptNewSessionChecked env state nowUnix ⟨peer, header.connectionId⟩ pkt
    else pure (forwardData state ⟨peer, header.connectionId⟩ pkt)

/-- First poll of a packet task. -/
def pollChecked (env : BridgeEnv) (state : BridgeState) (task : Nat) (nowUnix : Int64) :
    Checked (Option BridgeState) :=
  match state.tasks[task]? with
  | some (.spawned peer pkt) => do
    pure (some (state.setTask task (← handlePacketChecked env state nowUnix peer pkt)))
  | _ => pure none

/-- `forward_data` with the mutex. -/
def lockChecked (env : BridgeEnv) (state : BridgeState) (task : Nat) :
    Checked (Option BridgeState) :=
  match state.tasks[task]? with
  | some (.locking key session pkt) =>
    match state.cells[session]? with
    | none => pure none
    | some cell =>
      if cell.locked then pure none
      else do
        match ← decryptFrameChecked env.crypto cell.session.aeadKey pkt with
        | .error failure => pure (some (state.setTask task (.returned (some (.protocol failure)))))
        | .ok (header, payload) => pure (some { state with
            cells := state.cells.set session
              ⟨{ cell.session with lastActive := state.clock }, true⟩
            tasks := state.tasks.set task (.writing key session header payload)
            trace := state.trace ++ [.write key session header payload state.clock] })
  | _ => pure none

/-- What `accept_new_session` makes of a decrypted payload. -/
def admitInner (env : BridgeEnv) (nowUnix : Int64) (aeadKey : AeadKey) (inner : Bytes) :
    Except BridgeError (AeadKey × ConnectRequest) :=
  if inner.length < tokenLen + 4 then .error .shortPayload
  else match LicenseToken.fromBytes (inner.take tokenLen) with
    | .error failure => .error (.license failure)
    | .ok token =>
      match token.verify env.crypto env.backendPubkey nowUnix with
      | .error failure => .error (.license failure)
      | .ok () =>
        if env.config.allowAnyScope = false ∧ token.payload.scope &&& 1 = 0 then
          .error .missingScope
        else match ConnectRequest.decode (inner.drop tokenLen) with
          | .error failure => .error (.protocol failure)
          | .ok connect => .ok (aeadKey, connect)

variable (env : BridgeEnv) (state : BridgeState) (nowUnix : Int64)

/-- No check fails on a decrypted payload, whatever its length. -/
theorem admitInnerChecked_eq (aeadKey : AeadKey) (inner : Bytes) :
    admitInnerChecked env nowUnix aeadKey inner = .ok (admitInner env nowUnix aeadKey inner) := by
  by_cases short : inner.length < tokenLen + 4
  · simp only [admitInnerChecked, admitInner, short, ↓reduceIte]
    rfl
  · have long : tokenLen ≤ inner.length := by omega
    have front : slice inner 0 tokenLen = .ok (inner.take tokenLen) :=
      Checked.slice_eq (Nat.zero_le _) long
    have rest : slice inner tokenLen inner.length = .ok (inner.drop tokenLen) := by
      rw [Checked.slice_eq long (Nat.le_refl _), ← List.length_drop, List.take_length]
    simp only [admitInnerChecked, admitInner, short, ↓reduceIte, front, bind, Except.bind,
      LicenseToken.fromBytesChecked_eq, pure, Except.pure]
    cases LicenseToken.fromBytes (inner.take tokenLen) with
    | error failure => rfl
    | ok token =>
      simp only [LicenseToken.verifyChecked_eq]
      cases token.verify env.crypto env.backendPubkey nowUnix with
      | error failure => rfl
      | ok valid =>
        simp only [rest, ConnectRequest.decodeChecked_eq]
        split
        · rfl
        · cases ConnectRequest.decode (inner.drop tokenLen) with
          | error failure => rfl
          | ok connect => rfl

/-- No check fails on a SYN. -/
theorem admitSynChecked_eq (pkt : Bytes) :
    admitSynChecked env nowUnix pkt = .ok (admitSyn env nowUnix pkt) := by
  simp only [admitSynChecked, admitSyn, parseSynFrontChecked_eq, bind, Except.bind, pure,
    Except.pure]
  cases parseSynFront pkt with
  | error failure => rfl
  | ok front =>
    simp only [pubkeyFromBytesChecked_eq, decryptSynPayloadChecked_eq]
    cases decryptSynPayload env.crypto
        (bridgeDeriveSessionKey env.crypto env.bridgeSecret front.2) pkt with
    | error failure => rfl
    | ok inner => exact admitInnerChecked_eq env nowUnix _ inner

/-- No check fails up to the first await. -/
theorem handlePacketChecked_eq (peer : SocketAddr) (pkt : Bytes) :
    handlePacketChecked env state nowUnix peer pkt =
      .ok (handlePacket env state nowUnix peer pkt) := by
  simp only [handlePacketChecked, handlePacket, Header.decodeChecked_eq, bind, Except.bind, pure,
    Except.pure]
  cases Header.decode pkt with
  | error failure => rfl
  | ok header =>
    simp only [acceptNewSessionChecked, acceptNewSession, admitSynChecked_eq, bind, Except.bind,
      pure, Except.pure]
    split
    · rfl
    · split
      · split
        · rfl
        · cases admitSyn env nowUnix pkt with
          | error failure => rfl
          | ok admitted => rfl
      · rfl

/-- No check fails on the frame of a session. -/
theorem lockChecked_eq (task : Nat) : lockChecked env state task = .ok (lock env state task) := by
  unfold lockChecked lock
  cases state.tasks[task]? with
  | none => rfl
  | some point =>
    cases point with
    | locking key session pkt =>
      dsimp only
      cases state.cells[session]? with
      | none => rfl
      | some cell =>
        by_cases held : cell.locked
        · simp only [held, ↓reduceIte, pure, Except.pure]
        · simp only [held, decryptFrameChecked_eq, Bool.false_eq_true, ↓reduceIte, bind,
            Except.bind, pure, Except.pure]
          cases decryptFrame env.crypto cell.session.aeadKey pkt with
          | error failure => rfl
          | ok opened => rfl
    | _ => rfl

/-- No datagram panics the bridge. Up to its first await and with the session mutex, its task
computes the server's step with every check passed, in every state; so it does on any bytes that a
datagram decrypts to, and on any frame under any session key. -/
theorem datagram_never_panics :
    (∀ peer pkt, handlePacketChecked env state nowUnix peer pkt =
      .ok (handlePacket env state nowUnix peer pkt)) ∧
    (∀ aeadKey inner, admitInnerChecked env nowUnix aeadKey inner =
      .ok (admitInner env nowUnix aeadKey inner)) ∧
    (∀ aeadKey pkt, decryptFrameChecked env.crypto aeadKey pkt =
      .ok (decryptFrame env.crypto aeadKey pkt)) ∧
    (∀ task, pollChecked env state task nowUnix = .ok (poll env state task nowUnix)) ∧
    ∀ task, lockChecked env state task = .ok (lock env state task) := by
  refine ⟨handlePacketChecked_eq env state nowUnix, admitInnerChecked_eq env nowUnix,
    decryptFrameChecked_eq env.crypto, fun task => ?_, lockChecked_eq env state⟩
  unfold pollChecked poll
  cases state.tasks[task]? with
  | none => rfl
  | some point =>
    cases point with
    | spawned peer pkt => simp only [handlePacketChecked_eq, bind, Except.bind, pure, Except.pure]
    | _ => rfl

end LowPing.Bridge
