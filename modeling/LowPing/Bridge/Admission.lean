import LowPing.Library.Machine
import LowPing.Library.Update
import LowPing.Bridge.Ownership
import LowPing.Tunnel.Handshake

/-!
# Admission

Every session and every destination socket goes back to one SYN datagram of the run that passed all
the checks of `accept_new_session` when it was first polled: front, key agreement, decryption,
token, scope, connect request.
-/

namespace LowPing.Bridge

open LowPing.Tunnel Library Library.Machine

/-- A SYN datagram that is admitted at a wall-clock second, with what it carries and the checks it
passes. -/
structure Admission (env : BridgeEnv) (nowUnix : Int64) (pkt : Bytes) where
  /-- Its header. -/
  header : Header
  /-- The client's ephemeral public key. -/
  clientPk : PublicKey
  /-- Both are read from its front. -/
  front : parseSynFront pkt = .ok (header, clientPk)
  /-- It is a SYN. -/
  syn : header.flags.contains Flags.syn = true
  /-- Its payload. -/
  inner : Bytes
  /-- The payload opens under the key derived from the bridge secret and the public key. -/
  opened : decryptSynPayload env.crypto
    (bridgeDeriveSessionKey env.crypto env.bridgeSecret clientPk) pkt = .ok inner
  /-- The licence token. -/
  token : LicenseToken
  /-- The token is the first part of the payload. -/
  carried : LicenseToken.fromBytes (inner.take tokenLen) = .ok token
  /-- The backend signed it. -/
  signed : env.crypto.verify env.backendPubkey token.payload.encode token.signature = true
  /-- It is valid already. -/
  begun : token.payload.issuedAt ≤ nowUnix
  /-- It is valid still. -/
  unexpired : nowUnix < token.payload.expiresAt
  /-- Scope bit 0 is set, unless any scope is allowed. -/
  granted : env.config.allowAnyScope = true ∨ token.payload.scope &&& 1 = 1
  /-- The requested destination. -/
  connect : ConnectRequest
  /-- The request is the rest of the payload. -/
  requested : ConnectRequest.decode (inner.drop tokenLen) = .ok connect

/-- The AEAD key of the session an admission leads to. -/
def Admission.aeadKey {env : BridgeEnv} {nowUnix : Int64} {pkt : Bytes}
    (admission : Admission env nowUnix pkt) : AeadKey :=
  bridgeDeriveSessionKey env.crypto env.bridgeSecret admission.clientPk

variable {env : BridgeEnv} {nowUnix : Int64} {pkt : Bytes} {aeadKey : AeadKey}
  {connect : ConnectRequest}

/-- An admitted SYN has an admission. -/
theorem admission_of_admitSyn {header : Header} (routed : Header.decode pkt = .ok header)
    (syn : header.flags.contains Flags.syn = true)
    (admitted : admitSyn env nowUnix pkt = .ok (aeadKey, connect)) :
    ∃ admission : Admission env nowUnix pkt, admission.header = header ∧
      admission.aeadKey = aeadKey ∧ admission.connect = connect := by
  obtain ⟨own, clientPk, inner, token, front, rfl, opened, _, carried, verified, granted,
    requested⟩ := admitSyn_ok admitted
  obtain ⟨signed, begun, unexpired⟩ := verify_ok verified
  obtain rfl : own = header := Except.ok.inj ((parseSynFront_header front).symm.trans routed)
  exact ⟨⟨own, clientPk, front, syn, inner, opened, token, carried, signed, begun, unexpired,
    granted, connect, requested⟩, rfl, rfl, rfl⟩

/-! ## Sessions and destinations of a run -/

/-- The datagrams of a schedule, by arrival. -/
def received (events : List Event) : List (SocketAddr × Bytes) := events.filterMap Event.datagram

/-- A datagram of the schedule was admitted when its task was first polled: under this key, with
this AEAD key, for this destination. -/
def Granted (env : BridgeEnv) (events : List Event) (key : SessionKey) (aeadKey : AeadKey)
    (connect : ConnectRequest) : Prop :=
  ∃ task pkt nowUnix, (received events)[task]? = some (key.clientAddr, pkt) ∧
    .poll task nowUnix ∈ events ∧ ∃ admission : Admission env nowUnix pkt,
      admission.header.connectionId = key.connectionId ∧ admission.aeadKey = aeadKey ∧
      admission.connect = connect

/-- A session writes to a socket that was opened as it was granted. -/
def GrantedSession (env : BridgeEnv) (events : List Event) (destinations : List ConnectRequest)
    (key : SessionKey) (session : Session) : Prop :=
  ∃ socket connect, Granted env events key session.aeadKey connect ∧
    destinations[socket]? = some connect ∧ session.destWriter = openDest connect socket

/-- Whatever is being accepted, was accepted or was opened had been granted. -/
structure AllGranted (env : BridgeEnv) (past : List Event) (state : BridgeState) : Prop where
  /-- Tasks are numbered by arrival. -/
  counted : (received past).length = state.tasks.length
  /-- A task that was not polled holds its datagram. -/
  spawned : ∀ (task : Nat) (peer : SocketAddr) (pkt : Bytes),
    state.tasks[task]? = some (.spawned peer pkt) → (received past)[task]? = some (peer, pkt)
  /-- A destination is being opened. -/
  connecting : ∀ (task : Nat) (key : SessionKey) (aeadKey : AeadKey) (connect : ConnectRequest),
    state.tasks[task]? = some (.connecting key aeadKey connect) →
      Granted env past key aeadKey connect
  /-- A session is about to enter the table. -/
  inserting : ∀ (task : Nat) (key : SessionKey) (session : Session),
    state.tasks[task]? = some (.inserting key session) →
    GrantedSession env past state.destinations key session
  /-- A session was inserted. -/
  accepted : ∀ key session, .accepted key session ∈ state.trace → ∃ cell,
    state.cells[session]? = some cell ∧ GrantedSession env past state.destinations key cell.session
  /-- A socket was opened. -/
  opened : ∀ connect ∈ state.destinations, ∃ key aeadKey, Granted env past key aeadKey connect

variable {state next : BridgeState} {past : List Event} {event : Event} {key : SessionKey}

/-- What was granted stays granted. -/
theorem Granted.later (granted : Granted env past key aeadKey connect) :
    Granted env (past ++ [event]) key aeadKey connect := by
  obtain ⟨task, pkt, nowUnix, arrived, polled, admission⟩ := granted
  refine ⟨task, pkt, nowUnix, ?_, List.mem_append_left _ polled, admission⟩
  have bound := (List.getElem?_eq_some_iff.mp arrived).1
  rw [received, List.filterMap_append, ← received, List.getElem?_append_left bound, arrived]

/-- A granted session stays granted while sockets are only added. -/
theorem GrantedSession.later {destinations : List ConnectRequest} {session : Session}
    (granted : GrantedSession env past destinations key session)
    (grown : destinations <+: next.destinations) :
    GrantedSession env (past ++ [event]) next.destinations key session := by
  obtain ⟨socket, connect, source, present, writer⟩ := granted
  obtain ⟨added, same⟩ := grown
  have bound := (List.getElem?_eq_some_iff.mp present).1
  refine ⟨socket, connect, source.later, ?_, writer⟩
  rw [← same, List.getElem?_append_left bound, present]

/-- Sockets are only added. -/
theorem destinations_grow (taken : step env state event = some next) :
    state.destinations <+: next.destinations := by
  rcases destinations_step taken with same | ⟨_, _, _, connect, _, _, added⟩
  · exact ⟨[], by rw [same, List.append_nil]⟩
  · exact ⟨[connect], added.symm⟩

/-- Tasks and datagrams stay numbered alike. -/
theorem counted_step (held : AllGranted env past state)
    (taken : step env state event = some next) :
    (received (past ++ [event])).length = next.tasks.length := by
  have counted := held.counted
  rw [received, List.filterMap_append, ← received, List.length_append, counted]
  rcases arrivals_step taken with ⟨peer, pkt, rfl, tasks⟩ |
    ⟨silent, tasks | ⟨task, before, after, _, _, tasks⟩⟩
  · rw [tasks, List.length_append]
    rfl
  · rw [tasks, List.filterMap_cons, silent]
    rfl
  · rw [tasks, List.filterMap_cons, silent, List.length_set]
    rfl

/-- A task that was not polled holds its datagram still. -/
theorem spawned_step (held : AllGranted env past state)
    (taken : step env state event = some next) (task : Nat) (peer : SocketAddr) (pkt : Bytes)
    (present : next.tasks[task]? = some (.spawned peer pkt)) :
    (received (past ++ [event]))[task]? = some (peer, pkt) := by
  cases task_before taken present with
  | stayed _ _ before =>
    have arrived := held.spawned task peer pkt before
    have bound := (List.getElem?_eq_some_iff.mp arrived).1
    rw [received, List.filterMap_append, ← received, List.getElem?_append_left bound, arrived]
  | spawned peer pkt last =>
    rw [last, received, List.filterMap_append, ← received, ← held.counted]
    exact List.getElem?_concat_length
  | moved _ before _ point move => cases move

/-- A destination is being opened only for what was granted. -/
theorem connecting_step (held : AllGranted env past state)
    (taken : step env state event = some next) (task : Nat) (key : SessionKey) (aeadKey : AeadKey)
    (connect : ConnectRequest)
    (present : next.tasks[task]? = some (.connecting key aeadKey connect)) :
    Granted env (past ++ [event]) key aeadKey connect := by
  cases task_before taken present with
  | stayed _ _ before => exact (held.connecting task key aeadKey connect before).later
  | moved _ before _ point move =>
    cases move with
    | admitted nowUnix peer pkt header aeadKey connect front syn room admitted =>
      obtain ⟨admission, same, derived, requested⟩ := admission_of_admitSyn front syn admitted
      have arrived := held.spawned task peer pkt point
      have bound := (List.getElem?_eq_some_iff.mp arrived).1
      refine ⟨task, pkt, nowUnix, ?_, List.mem_append_right _ List.mem_cons_self, admission,
        congrArg Header.connectionId same, derived, requested⟩
      rw [received, List.filterMap_append, ← received, List.getElem?_append_left bound, arrived]

/-- A session is about to be inserted only as it was granted. -/
theorem inserting_step (held : AllGranted env past state)
    (taken : step env state event = some next) (task : Nat) (key : SessionKey) (session : Session)
    (present : next.tasks[task]? = some (.inserting key session)) :
    GrantedSession env (past ++ [event]) next.destinations key session := by
  cases task_before taken present with
  | stayed _ _ before =>
    exact (held.inserting task key session before).later (destinations_grow taken)
  | moved _ before _ point move =>
    cases move with
    | connected key aeadKey connect =>
      obtain ⟨_, _, _, here, rfl⟩ := connected_ok taken
      have same := Option.some.inj (point.symm.trans here)
      obtain ⟨rfl, rfl, rfl⟩ := PacketTask.connecting.inj same
      exact ⟨state.destinations.length, connect,
        (held.connecting task key aeadKey connect point).later, List.getElem?_concat_length, rfl⟩

/-- Every step keeps everything granted. -/
theorem allGranted_step (held : AllGranted env past state)
    (taken : step env state event = some next) : AllGranted env (past ++ [event]) next where
  counted := counted_step held taken
  spawned := spawned_step held taken
  connecting := connecting_step held taken
  inserting := inserting_step held taken
  accepted key session recorded := by
    rcases accepted_step taken recorded with before | ⟨task, created, rfl, point, rfl⟩
    · obtain ⟨cell, present, granted⟩ := held.accepted key session before
      obtain ⟨last, found, moved⟩ := cell_step taken present
      refine ⟨last, found, ?_⟩
      have later : GrantedSession env (past ++ [event]) next.destinations key cell.session :=
        granted.later (destinations_grow taken)
      obtain ⟨socket, connect, source, bound, writer⟩ := later
      rw [← moved.aeadKey] at source
      exact ⟨socket, connect, source, bound, moved.destWriter.trans writer⟩
    · have granted : GrantedSession env (past ++ [.insert task]) next.destinations key created :=
        (held.inserting task key created point).later (destinations_grow taken)
      obtain ⟨_, _, here, _, rfl⟩ := insert_ok taken
      obtain ⟨rfl, rfl⟩ := PacketTask.inserting.inj (Option.some.inj (point.symm.trans here))
      exact ⟨_, List.getElem?_concat_length, granted⟩
  opened connect member := by
    rcases destinations_step taken with same | ⟨task, key, aeadKey, added, rfl, point, grown⟩
    · rw [same] at member
      obtain ⟨key, aeadKey, granted⟩ := held.opened connect member
      exact ⟨key, aeadKey, granted.later⟩
    · rw [grown] at member
      rcases List.mem_append.mp member with before | new
      · obtain ⟨key, aeadKey, granted⟩ := held.opened connect before
        exact ⟨key, aeadKey, granted.later⟩
      · obtain rfl := List.mem_singleton.mp new
        exact ⟨key, aeadKey, (held.connecting task key aeadKey connect point).later⟩

/-- Nothing is granted before the first datagram. -/
theorem allGranted_start (clock : Instant) : AllGranted env [] (.start clock) where
  counted := rfl
  spawned := nofun
  connecting := nofun
  inserting := nofun
  accepted := nofun
  opened := nofun

/-- In every run, every session ever inserted and every socket ever opened was granted: a SYN
datagram of the run passed every check at the clock reading of its first poll. -/
theorem sessions_and_sockets_granted {clock : Instant} {events : List Event} {final : BridgeState}
    (reached : run (step env) (.start clock) events = some final) :
    (∀ key session,
      .accepted key session ∈ final.trace ∨ final.sessions.lookup key = some session →
      ∃ cell, final.cells[session]? = some cell ∧
        GrantedSession env events final.destinations key cell.session) ∧
    ∀ connect ∈ final.destinations, ∃ key aeadKey, Granted env events key aeadKey connect := by
  have held : AllGranted env events final := run_history_invariant
    (fun _ _ _ _ held taken => allGranted_step held taken) (allGranted_start clock) reached
  have keyed : Keyed final := run_invariant_always
    (fun _ _ _ held taken => keyed_step held taken) (keyed_start clock) reached
  refine ⟨fun key session inserted => held.accepted key session ?_, held.opened⟩
  rcases inserted with recorded | live
  · exact recorded
  · exact keyed.live key session live

/-- The first sample client is accepted and its session granted. -/
theorem firstAccept_granted : ∃ final,
    run (step (sampleEnv 8)) (.start 0) firstAccept = some final ∧
    final.sessions.lookup sampleKey = some 0 ∧
    ∃ cell, final.cells[0]? = some cell ∧
      GrantedSession (sampleEnv 8) firstAccept final.destinations sampleKey cell.session := by
  have outcome : (run (step (sampleEnv 8)) (.start 0) firstAccept).map (fun final =>
      final.sessions.lookup sampleKey) = some (some 0) := by
    simp only [firstAccept, sampleTunnel_eq]
    decide +kernel
  obtain ⟨final, reached, live⟩ := Option.map_eq_some_iff.mp outcome
  exact ⟨final, reached, live,
    (sessions_and_sockets_granted reached).1 sampleKey 0 (.inr live)⟩

end LowPing.Bridge
