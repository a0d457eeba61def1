import LowPing.Tunnel.Lifetime

/-!
# Receive tasks without a session

A UDP session has a responder task and a TCP connection a receive task. Each holds what it needs to
deliver a payload and ends by an error of its own or, some time after it, by an abort; what drops
its session or its connection need not end it. Which steps of a client leave such a task behind is
decided here: they are the only ways to one, and every one of them is.
-/

namespace LowPing.Tunnel

open LowPing.Client Library Library.Machine
open Library.Update (getElem?_set_cases forall_set_iff)

/-- Whether a responder may still deliver a payload. -/
def mayAnswer (responder : Responder) : Bool :=
  match responder.stage with
  | .returned => false
  | _ => true

/-- Every responder that may still answer is the one of the session its source has, and no source
has two. -/
structure RuleAttended (state : RuleState) : Prop where
  /-- Its session is in the map. -/
  mapped : ∀ responder ∈ state.responders, mayAnswer responder = true →
    state.sessions.lookup responder.src = some responder.session
  /-- It is the only one of its source. -/
  single : ∀ src, state.responders.countP
    (fun responder => mayAnswer responder && decide (responder.src = src)) ≤ 1

/-- While the receive task runs, `handle_tcp_local` has not returned. -/
def ConnectionAttended (connection : TcpConnection) : Prop :=
  connection.receiver.live = true → connection.handler ≠ .returned

/-- No task of a rule is without its session or connection. -/
def Attended : Forwarder → Prop
  | .udp _ state => RuleAttended state
  | .tcp _ connections => ∀ connection ∈ connections, ConnectionAttended connection
  | .smart _ => True

/-- Whether the reaper is about to remove a session whose responder may still answer. -/
def reapsAnswering (state : RuleState) : Bool :=
  match state.reaper with
  | .removing toDrop =>
    state.responders.any fun responder => mayAnswer responder && decide (responder.src ∈ toDrop)
  | _ => false

/-- Whether a step of a UDP rule leaves a task behind. -/
def ruleOrphans (state : RuleState) : RuleEvent → Bool
  | .remove => reapsAnswering state
  | _ => false

/-- Whether a step of a connection does: while the receive task still runs, a chunk cannot be sealed
or sent, or the function returns after the abort. -/
def connectionOrphans (crypto : Crypto) (connection : TcpConnection) : ConnectionEvent → Bool
  | .read chunk success => connection.receiver.live &&
    match (connection.sender.encryptUpstream crypto chunk).2 with
    | .ok _ => !success
    | .error _ => true
  | .finish => connection.receiver.live
  | _ => false

/-- Whether a step of a rule does. -/
def orphans (crypto : Crypto) : Forwarder → ForwarderEvent → Bool
  | .udp _ state, .udp event => ruleOrphans state event
  | .tcp _ connections, .tcp (.connection position event) =>
    match connections[position]? with
    | some connection => connectionOrphans crypto connection event
    | none => false
  | _, _ => false

/-- The rules and the smart mode of a client. -/
abbrev ClientState := List Forwarder

/-- A client that has just started. -/
def ClientState.start (configs : List ForwarderConfig) : ClientState :=
  configs.map (·.start)

/-- One step of one of them. -/
structure ClientEvent where
  /-- Which. -/
  position : Nat
  /-- Its step. -/
  event : ForwarderEvent

/-- One step of a client. -/
def ClientState.step (crypto : Crypto) (text : TextCodec) (client : ClientState)
    (event : ClientEvent) : Option ClientState :=
  match client[event.position]? with
  | none => none
  | some forwarder => (forwarder.step crypto text event.event).map (client.set event.position)

/-- A step that leaves no task behind. -/
def ClientState.LeavesNoTask (crypto : Crypto) (client : ClientState) (event : ClientEvent) :
    Prop :=
  ∀ forwarder ∈ client[event.position]?, orphans crypto forwarder event.event = false

instance (crypto : Crypto) (client : ClientState) (event : ClientEvent) :
    Decidable (client.LeavesNoTask crypto event) :=
  inferInstanceAs (Decidable (∀ forwarder ∈ client[event.position]?, _))

/-! ## UDP rules -/

/-- What a rule's tasks keep of each other: the listener opens a tunnel only for a source without a
session, and each responder has a session of its own. -/
structure Tasked (state : RuleState) : Prop where
  /-- A tunnel is being opened. -/
  opening : ∀ src payload, state.listener = .opening src payload →
    state.sessions.lookup src = none
  /-- A session is being inserted. -/
  inserting : ∀ src session payload, state.listener = .inserting src session payload →
    state.sessions.lookup src = none ∧ session < state.cells.length ∧
      session ∉ state.responders.map Responder.session
  /-- Sessions of responders exist. -/
  created : ∀ session ∈ state.responders.map Responder.session, session < state.cells.length
  /-- No two are the same. -/
  distinct : (state.responders.map Responder.session).Nodup

section

variable {crypto : Crypto} {text : TextCodec} {config : UdpRule} {state next : RuleState}
  {event : RuleEvent}

/-- A responder that moves on keeps its session. -/
theorem sessions_set {responders : List Responder} {position session : Nat} {src : SocketAddr}
    {stage : ResponderStage} (point : responders[position]? = some ⟨session, src, stage⟩)
    (later : ResponderStage) :
    (responders.set position ⟨session, src, later⟩).map Responder.session =
      responders.map Responder.session := by
  obtain ⟨bound, before⟩ := List.getElem?_eq_some_iff.mp point
  have inside : position < (responders.map Responder.session).length := by
    rw [List.length_map]
    exact bound
  have same : session = (responders.map Responder.session)[position] := by
    rw [List.getElem_map, before]
  rw [List.map_set]
  show (responders.map Responder.session).set position session = _
  rw [same, List.set_getElem_self]

/-- A rule that has just become active. -/
theorem tasked_start (clock : ClientInstant) : Tasked (.start clock) :=
  ⟨nofun, nofun, nofun, List.nodup_nil⟩

/-- Every step keeps it. -/
theorem tasked_step (tasked : Tasked state)
    (taken : state.step crypto text config event = some next) : Tasked next := by
  have moved {position session : Nat} {src : SocketAddr} {stage : ResponderStage}
      (point : state.responders[position]? = some ⟨session, src, stage⟩) (later : ResponderStage)
      (cells : List RuleSession) (trace : List RuleOutput)
      (grown : cells.length = state.cells.length) :
      Tasked { state with
        cells, trace, responders := state.responders.set position ⟨session, src, later⟩ } := by
    have same := sessions_set point later
    refine ⟨tasked.opening, fun src session payload point => ?_, fun session member => ?_, ?_⟩
    · show _ ∧ session < cells.length ∧ session ∉ (state.responders.set _ _).map _
      rw [grown, same]
      exact tasked.inserting src session payload point
    · show session < cells.length
      have member : session ∈ (state.responders.set _ _).map Responder.session := member
      rw [same] at member
      rw [grown]
      exact tasked.created session member
    · show ((state.responders.set _ _).map Responder.session).Nodup
      rw [same]
      exact tasked.distinct
  cases rule_step taken with
  | received src payload free => exact ⟨nofun, nofun, tasked.created, tasked.distinct⟩
  | found src payload session point live => exact ⟨nofun, nofun, tasked.created, tasked.distinct⟩
  | missed src payload point absent =>
    refine ⟨fun other _ same => ?_, nofun, tasked.created, tasked.distinct⟩
    obtain ⟨rfl, -⟩ := RuleStage.opening.inj same
    exact absent
  | opened src payload clientSk connectionId tunnel wire point opens =>
    have longer : (state.cells ++ [RuleSession.mk tunnel.sender state.clock]).length =
        state.cells.length + 1 := List.length_append
    refine ⟨nofun, fun other session _ same => ?_, fun session member => ?_, tasked.distinct⟩
    · obtain ⟨rfl, rfl, -⟩ := RuleStage.inserting.inj same
      refine ⟨tasked.opening src payload point, ?_, fun member => ?_⟩
      · show state.cells.length < (state.cells ++ [_]).length
        omega
      · exact absurd (tasked.created _ member) (Nat.lt_irrefl _)
    · have old := tasked.created session member
      show session < (state.cells ++ [_]).length
      omega
  | openFailed src payload point => exact ⟨nofun, nofun, tasked.created, tasked.distinct⟩
  | inserted src session payload point free =>
    obtain ⟨-, bound, fresh⟩ := tasked.inserting src session payload point
    have sessions : (state.responders ++ [Responder.mk session src .receiving]).map
        Responder.session = state.responders.map Responder.session ++ [session] := List.map_append
    refine ⟨nofun, nofun, fun other member => ?_, ?_⟩
    · have member : other ∈ (state.responders ++ [_]).map Responder.session := member
      rw [sessions] at member
      rcases List.mem_append.mp member with old | added
      · exact tasked.created other old
      · rw [List.mem_singleton.mp added]
        exact bound
    · show ((state.responders ++ [_]).map Responder.session).Nodup
      rw [sessions, List.nodup_append]
      refine ⟨tasked.distinct, List.nodup_singleton _, fun other old last added => ?_⟩
      rw [List.mem_singleton.mp added]
      exact fun same => fresh (same ▸ old)
  | forwarded session payload cell success frames point present sends =>
    refine ⟨nofun, nofun, fun other member => ?_, tasked.distinct⟩
    show other < (state.cells.set _ _).length
    rw [List.length_set]
    exact tasked.created other member
  | answering position wire payload session src cell point present opens =>
    exact moved point _ state.cells state.trace rfl
  | returned _ position session src stage ends point =>
    exact moved point _ state.cells state.trace rfl
  | answered position session src payload point =>
    exact moved point _ _ _ (List.length_modify _ _ _)
  | removed toDrop point =>
    have dropped {src : SocketAddr} (absent : state.sessions.lookup src = none) :
        (Table.eraseAll state.sessions toDrop).lookup src = none := by
      cases found : (Table.eraseAll state.sessions toDrop).lookup src with
      | none => rfl
      | some session =>
        have before := (Table.lookup_of_lookup_eraseAll found).2
        rw [absent] at before
        cases before
    refine ⟨fun src payload point => dropped (tasked.opening src payload point),
      fun src session payload point => ?_, tasked.created, tasked.distinct⟩
    obtain ⟨absent, rest⟩ := tasked.inserting src session payload point
    exact ⟨dropped absent, rest⟩
  | _ => exact ⟨tasked.opening, tasked.inserting, tasked.created, tasked.distinct⟩

/-- Where every responder that may answer has its session in the map, no source has two. -/
theorem attended_iff_mapped (tasked : Tasked state) : RuleAttended state ↔
    ∀ responder ∈ state.responders, mayAnswer responder = true →
      state.sessions.lookup responder.src = some responder.session := by
  refine ⟨RuleAttended.mapped, fun mapped => ⟨mapped, fun src => ?_⟩⟩
  rw [List.countP_eq_length_filter]
  have nodup : ((state.responders.filter fun responder =>
      mayAnswer responder && decide (responder.src = src)).map Responder.session).Nodup :=
    tasked.distinct.sublist (List.filter_sublist.map Responder.session)
  have owned : ∀ responder ∈ state.responders.filter (fun responder =>
      mayAnswer responder && decide (responder.src = src)),
      state.sessions.lookup src = some responder.session := by
    intro responder member
    obtain ⟨old, chosen⟩ := List.mem_filter.mp member
    obtain ⟨live, same⟩ := (Bool.and_eq_true _ _).mp chosen
    rw [← of_decide_eq_true same]
    exact mapped responder old live
  cases filtered : state.responders.filter fun responder =>
      mayAnswer responder && decide (responder.src = src) with
  | nil => exact Nat.zero_le _
  | cons first rest =>
    rw [filtered] at nodup owned
    cases rest with
    | nil => exact Nat.le_refl _
    | cons second rest =>
      have one := owned first List.mem_cons_self
      have two := owned second (List.mem_cons_of_mem _ List.mem_cons_self)
      have same : first.session = second.session := Option.some.inj (one.symm.trans two)
      have apart := (List.nodup_cons.mp nodup).1
      exact absurd (same ▸ List.mem_cons_self) apart

/-- A step of a rule leaves no responder behind exactly when it is no removal of a session whose
responder may still answer. -/
theorem ruleAttended_step (tasked : Tasked state) (attended : RuleAttended state)
    (taken : state.step crypto text config event = some next) :
    ruleOrphans state event = false ↔ RuleAttended next := by
  rw [attended_iff_mapped (tasked_step tasked taken)]
  have mapped := attended.mapped
  have moved {position session : Nat} {src : SocketAddr} {stage : ResponderStage}
      (point : state.responders[position]? = some ⟨session, src, stage⟩) {later : ResponderStage}
      (live : mayAnswer ⟨session, src, later⟩ = true → mayAnswer ⟨session, src, stage⟩ = true) :
      ∀ responder ∈ state.responders.set position ⟨session, src, later⟩,
        mayAnswer responder = true →
          state.sessions.lookup responder.src = some responder.session := by
    intro responder member answers
    obtain ⟨other, present⟩ := List.mem_iff_getElem?.mp member
    rcases getElem?_set_cases present with ⟨-, same⟩ | ⟨-, old⟩
    · rw [same] at answers ⊢
      exact mapped ⟨session, src, stage⟩ (List.mem_of_getElem? point) (live answers)
    · exact mapped responder (List.mem_of_getElem? old) answers
  cases rule_step taken with
  | inserted src session payload point free =>
    obtain ⟨absent, -, -⟩ := tasked.inserting src session payload point
    refine iff_of_true rfl fun responder member answers => ?_
    rcases List.mem_append.mp member with old | added
    · have before := mapped responder old answers
      by_cases same : responder.src = src
      · rw [same, absent] at before
        cases before
      · show (state.sessions.insert src session).lookup responder.src = _
        rw [AList.lookup_insert_ne same]
        exact before
    · rw [List.mem_singleton.mp added]
      exact AList.lookup_insert _
  | answering position wire payload session src cell point present opens =>
    exact iff_of_true rfl (moved point fun _ => rfl)
  | returned _ position session src stage ends point =>
    refine iff_of_true ?_ (moved point nofun)
    rcases ends with rfl | rfl <;> rfl
  | answered position session src payload point =>
    exact iff_of_true rfl (moved point fun _ => rfl)
  | removed toDrop point =>
    simp only [ruleOrphans, reapsAnswering, point]
    constructor
    · intro spared responder member answers
      have unlisted : responder.src ∉ toDrop := by
        intro listed
        have found := List.any_eq_false.mp spared responder member
        simp [answers, listed] at found
      rw [Table.lookup_eraseAll_of_notMem _ unlisted]
      exact mapped responder member answers
    · intro after
      refine List.any_eq_false.mpr fun responder member chosen => ?_
      obtain ⟨answers, listed⟩ := (Bool.and_eq_true _ _).mp chosen
      have kept := after responder member answers
      rw [Table.lookup_eraseAll_of_mem _ (of_decide_eq_true listed)] at kept
      cases kept
  | _ => exact iff_of_true rfl mapped

end

/-! ## TCP connections -/

section

variable {crypto : Crypto} {text : TextCodec}

/-- A step of a connection leaves its receive task behind exactly when, while the task still runs, a
chunk cannot be sealed or sent or the function returns after the abort. -/
theorem connectionAttended_step {connection next : TcpConnection} {event : ConnectionEvent}
    (attended : ConnectionAttended connection)
    (taken : connection.step crypto event = some next) :
    connectionOrphans crypto connection event = false ↔ ConnectionAttended next := by
  cases connection_step taken with
  | refused chunk success failure reading refused =>
    simp only [connectionOrphans, refused, ConnectionAttended]
    cases connection.receiver.live <;> decide
  | sealed chunk wire success reading sealed =>
    simp only [connectionOrphans, sealed, ConnectionAttended]
    cases connection.receiver.live <;> cases success <;> decide
  | signalled reading live => exact iff_of_true rfl fun _ => nofun
  | ended reading => exact iff_of_true rfl fun _ => nofun
  | yielded signalled =>
    refine iff_of_true rfl fun live => ?_
    rw [ReceiveStage.live_abort] at live
    cases live
  | finished leaving =>
    simp only [connectionOrphans, ConnectionAttended]
    cases connection.receiver.live <;> decide
  | dropped wire point =>
    exact iff_of_true rfl attended
  | received wire payload point opens =>
    exact iff_of_true rfl fun _ => attended (by rw [point]; rfl)
  | failed event fails live =>
    have spared : connectionOrphans crypto connection event = false := by
      rcases fails with rfl | rfl <;> rfl
    exact iff_of_true spared nofun
  | wrote count rest point =>
    exact iff_of_true rfl fun _ => attended (by rw [point]; rfl)
  | written point =>
    exact iff_of_true rfl fun _ => attended (by rw [point]; rfl)

/-! ## The client -/

/-- What the tasks of a forwarder keep of each other. -/
def ForwarderTasked : Forwarder → Prop
  | .udp _ state => Tasked state
  | _ => True

/-- Every step of a forwarder keeps it. -/
theorem forwarderTasked_step {forwarder next : Forwarder} {event : ForwarderEvent}
    (tasked : ForwarderTasked forwarder)
    (taken : forwarder.step crypto text event = some next) : ForwarderTasked next := by
  cases forwarder with
  | udp config state =>
    cases event with
    | udp event =>
      obtain ⟨after, moved, rfl⟩ := Option.map_eq_some_iff.mp taken
      exact tasked_step tasked moved
    | _ => cases taken
  | tcp rule connections =>
    cases event with
    | tcp event =>
      obtain ⟨after, moved, rfl⟩ := Option.map_eq_some_iff.mp taken
      trivial
    | _ => cases taken
  | smart state =>
    cases event with
    | smart event =>
      obtain ⟨after, moved, rfl⟩ := Option.map_eq_some_iff.mp taken
      trivial
    | _ => cases taken

/-- A step of a forwarder leaves no task behind exactly when it is none of those that do. -/
theorem attended_step {forwarder next : Forwarder} {event : ForwarderEvent}
    (tasked : ForwarderTasked forwarder) (attended : Attended forwarder)
    (taken : forwarder.step crypto text event = some next) :
    orphans crypto forwarder event = false ↔ Attended next := by
  cases forwarder with
  | udp config state =>
    cases event with
    | udp event =>
      obtain ⟨after, moved, rfl⟩ := Option.map_eq_some_iff.mp taken
      exact ruleAttended_step tasked attended moved
    | _ => cases taken
  | tcp rule connections =>
    cases event with
    | tcp event =>
      obtain ⟨after, moved, rfl⟩ := Option.map_eq_some_iff.mp taken
      cases event with
      | opened clientSk connectionId =>
        simp only [Rule.tcpStep] at moved
        split at moved
        · cases moved
        · obtain rfl := Option.some.inj moved
          refine iff_of_true rfl fun connection member => ?_
          rcases List.mem_append.mp member with old | added
          · exact attended connection old
          · rw [List.mem_singleton.mp added]
            intro _ returned
            contradiction
      | connection position event =>
        simp only [Rule.tcpStep] at moved
        split at moved
        · cases moved
        · rename_i connection present
          obtain ⟨later, stepped, rfl⟩ := Option.map_eq_some_iff.mp moved
          simp only [orphans, present]
          have before := attended connection (List.mem_of_getElem? present)
          rw [connectionAttended_step before stepped]
          exact (forall_set_iff present attended later).symm
    | _ => cases taken
  | smart state =>
    cases event with
    | smart event =>
      obtain ⟨after, moved, rfl⟩ := Option.map_eq_some_iff.mp taken
      exact iff_of_true rfl trivial
    | _ => cases taken

variable {client next final : ClientState} {event : ClientEvent} {events : List ClientEvent}

/-- A step of a client is one of a forwarder. -/
theorem client_step (taken : client.step crypto text event = some next) :
    ∃ before after, client[event.position]? = some before ∧
      before.step crypto text event.event = some after ∧
      next = client.set event.position after := by
  unfold ClientState.step at taken
  split at taken
  · cases taken
  · rename_i before present
    obtain ⟨after, moved, rfl⟩ := Option.map_eq_some_iff.mp taken
    exact ⟨before, after, present, moved, rfl⟩

/-- No task of a client is without its session or connection. -/
def ClientState.Attended (client : ClientState) : Prop :=
  ∀ forwarder ∈ client, Tunnel.Attended forwarder

/-- The tasks of its forwarders know of each other. -/
def ClientState.Tasked (client : ClientState) : Prop :=
  ∀ forwarder ∈ client, ForwarderTasked forwarder

/-- Every step keeps it. -/
theorem clientTasked_step (tasked : client.Tasked)
    (taken : client.step crypto text event = some next) : next.Tasked := by
  obtain ⟨before, after, present, moved, rfl⟩ := client_step taken
  have held := tasked before (List.mem_of_getElem? present)
  exact (forall_set_iff present tasked after).mpr (forwarderTasked_step held moved)

/-- A step of a client leaves no task behind exactly when it is none of those that do. -/
theorem clientAttended_step (tasked : client.Tasked) (attended : client.Attended)
    (taken : client.step crypto text event = some next) :
    client.LeavesNoTask crypto event ↔ next.Attended := by
  obtain ⟨before, after, present, moved, rfl⟩ := client_step taken
  have stepped := attended_step (tasked before (List.mem_of_getElem? present))
    (attended before (List.mem_of_getElem? present)) moved
  have here : client.LeavesNoTask crypto event ↔ orphans crypto before event.event = false := by
    unfold ClientState.LeavesNoTask
    rw [present]
    exact ⟨fun all => all before rfl, fun one forwarder same => Option.some.inj same ▸ one⟩
  rw [here, stepped]
  exact (forall_set_iff present attended after).symm

/-- In every run of a client, no state on the way has a receive task without its session or
connection, or two for one UDP source, exactly when no step reaps a session whose responder may
still answer and, while a receive task still runs, none fails on a chunk of its connection or
returns after aborting it. -/
theorem no_orphans_iff (configs : List ForwarderConfig)
    (reached : run (ClientState.step crypto text) (.start configs) events = some final) :
    (∀ past middle, past <+: events →
        run (ClientState.step crypto text) (.start configs) past = some middle →
        middle.Attended) ↔
      Along (ClientState.step crypto text) (ClientState.LeavesNoTask crypto) (.start configs)
        events := by
  have tasked : (ClientState.start configs).Tasked := by
    intro forwarder member
    obtain ⟨config, -, rfl⟩ := List.mem_map.mp member
    cases config with
    | udp config clock => exact tasked_start clock
    | _ => trivial
  have attended : (ClientState.start configs).Attended := by
    intro forwarder member
    obtain ⟨config, -, rfl⟩ := List.mem_map.mp member
    cases config with
    | udp config clock => exact ⟨nofun, fun src => Nat.zero_le 1⟩
    | tcp rule => exact nofun
    | smart bridges => trivial
  exact (along_iff_reached (fun _ _ _ held taken => clientTasked_step held taken)
    (fun _ _ _ held fine taken => clientAttended_step held fine taken) tasked attended
    reached).symm

end

/-! ## Sample runs -/

/-- A client with the sample rule over UDP and over TCP. -/
def sampleClient : List ForwarderConfig := [sampleForwarder, .tcp sampleRule]

/-- The state a run of it leads to. -/
def sampleClientAfter (events : List ClientEvent) : Option ClientState :=
  run (ClientState.step checksumCrypto standardText) (.start sampleClient) events

/-- The UDP rule forwards a datagram through a new tunnel. -/
def datagramOpens (secret : UInt8) (connectionId : UInt32) : List ClientEvent :=
  [.receive sampleSource [1], .lookup, .opened (List.Vector.replicate 32 secret) connectionId,
    .insert, .forward true].map fun event => ⟨0, .udp event⟩

/-- The datagram's source is idle for 121 seconds and its session is reaped. -/
def datagramReaps : List ClientEvent :=
  [.advance 121000000000, .tick, .scan sampleSource, .scanned, .remove].map fun event =>
    ⟨0, .udp event⟩

/-- A TCP connection is accepted and its first chunk sent, if that succeeds. -/
def chunkSent (success : Bool) : List ClientEvent :=
  [⟨1, .tcp (.opened (List.Vector.replicate 32 3) 7)⟩,
    ⟨1, .tcp (.connection 0 (.read [1] success))⟩]

/-- The responder's `recv` fails before its session is reaped; the local side of the connection ends
while the receive task runs, and the task stops before the function returns. -/
def tidyRun : List ClientEvent :=
  datagramOpens 1 5 ++ [⟨0, .udp (.bridgeError 0)⟩] ++ datagramReaps ++ datagramOpens 2 6 ++
    chunkSent true ++ [.readEnd true, .yielded, .finish].map fun event =>
      ⟨1, .tcp (.connection 0 event)⟩

/-- Every receive task of that run is attended at all times. -/
theorem tidyRun_attended : (sampleClientAfter tidyRun).isSome = true ∧
    ∀ past middle, past <+: tidyRun → sampleClientAfter past = some middle →
      middle.Attended := by
  have sample : (sampleClientAfter tidyRun).isSome = true ∧
      Along (ClientState.step checksumCrypto standardText)
        (ClientState.LeavesNoTask checksumCrypto) (.start sampleClient) tidyRun := by
    decide +kernel
  obtain ⟨completes, tidy⟩ := sample
  obtain ⟨final, reached⟩ := Option.isSome_iff_exists.mp completes
  exact ⟨completes, (no_orphans_iff sampleClient reached).mpr tidy⟩

/-- A session is reaped and its source comes back, while its responder waits; a chunk of one
connection cannot be sent, and another ends while its receive task runs. -/
def orphanRun : List ClientEvent :=
  datagramOpens 1 5 ++ datagramReaps ++ datagramOpens 2 6 ++ chunkSent false ++
    [⟨1, .tcp (.opened (List.Vector.replicate 32 4) 8)⟩] ++
    [.readEnd true, .finish].map fun event => ⟨1, .tcp (.connection 1 event)⟩

/-- The responders of the UDP rules that may still answer. -/
def ClientState.answering (client : ClientState) : List Responder :=
  client.flatMap fun
    | .udp _ state => state.responders.filter mayAnswer
    | _ => []

/-- The TCP connections that have returned and may still deliver. -/
def ClientState.returned (client : ClientState) : List TcpConnection :=
  client.flatMap fun
    | .tcp _ connections => connections.filter fun connection =>
      connection.receiver.live && decide (connection.handler = .returned)
    | _ => []

/-- Where every task is attended, no connection that has returned may deliver. -/
theorem returned_attended {client : ClientState} (attended : client.Attended) :
    client.returned = [] := by
  refine List.flatMap_eq_nil_iff.mpr fun forwarder member => ?_
  have held := attended forwarder member
  cases forwarder with
  | tcp rule connections =>
    refine List.filter_eq_nil_iff.mpr fun connection present chosen => ?_
    obtain ⟨live, returned⟩ := (Bool.and_eq_true _ _).mp chosen
    exact held connection present live (of_decide_eq_true returned)
  | _ => rfl

/-- After the run with connections and datagrams the source has two responders, and both connections
that returned a receive task. -/
theorem orphans_left : ∃ final, sampleClientAfter orphanRun = some final ∧
    final.answering.map Responder.src = [sampleSource, sampleSource] ∧
    final.returned.length = 2 ∧ ¬ final.Attended := by
  have outcome : (sampleClientAfter orphanRun).map (fun final =>
      (final.answering.map Responder.src, final.returned.length)) =
      some ([sampleSource, sampleSource], 2) := by
    decide +kernel
  obtain ⟨final, reached, record⟩ := Option.map_eq_some_iff.mp outcome
  obtain ⟨answering, returned⟩ := Prod.mk.inj record
  refine ⟨final, reached, answering, returned, fun attended => ?_⟩
  rw [returned_attended attended] at returned
  cases returned

end LowPing.Tunnel
