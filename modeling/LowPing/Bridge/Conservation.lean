import LowPing.Bridge.Ownership
import LowPing.Bridge.Outflow

/-!
# Every chunk of a session

All sessions share one channel and one sender, and a packet whose session is gone is dropped from
the middle. Under a key with one session, what was encrypted, what the sender holds and what still
waits for its lookup make up what was read, in order, for as long as the session is in the table;
once it is gone the first two are a prefix.
-/

namespace LowPing.Bridge

open Library

variable {env : BridgeEnv} {state next : BridgeState} {event : Event} {key : SessionKey}

/-- The packet a sender is about to look up. -/
def SenderTask.waits : SenderTask → List Queued
  | .looking queued => [queued]
  | _ => []

/-- Payloads of a key before their lookup, oldest first. -/
def BridgeState.waiting (state : BridgeState) (key : SessionKey) : List Bytes :=
  ((state.sender.waits ++ state.downstream).filter fun queued =>
    decide (queued.packet.sessionKey = key)).map fun queued => queued.packet.payload

/-- The payload about to be encrypted for a session. -/
def BridgeState.inHand (state : BridgeState) (session : SessionId) : List Bytes :=
  match state.sender with
  | .locking queued target => if target = session then [queued.packet.payload] else []
  | _ => []

/-- The payloads encrypted for a session, oldest first. -/
def BridgeState.encrypted (state : BridgeState) (session : SessionId) : List Bytes :=
  (state.frames session).map fun frame => frame.2

/-- Whether an effect is an accept under a key. -/
def Output.accepts (key : SessionKey) : Output → Bool
  | .accepted other _ => decide (other = key)
  | _ => false

/-- No session is inserted under a key that had one. -/
def acceptsOnce (key : SessionKey) (state : BridgeState) : Event → Bool
  | .insert task =>
    match state.tasks[task]? with
    | some (.inserting other _) => decide (other ≠ key) || !state.trace.any (Output.accepts key)
    | _ => true
  | _ => true

/-- Whoever works downstream for a session came by the key it was accepted under. -/
structure Attributed (state : BridgeState) : Prop where
  /-- Sessions have one key each. -/
  keyed : Keyed state
  /-- Drain tasks and packets name keys of their own sessions. -/
  named : ∀ other origin, state.names other origin → .accepted other origin ∈ state.trace
  /-- The sender found its session under its packet's key. -/
  sender : ∀ queued session, (state.sender = .locking queued session ∨
      ∃ wire, state.sender = .sending queued session wire) →
    .accepted queued.packet.sessionKey session ∈ state.trace
  /-- Only accepted sessions read and send. -/
  recorded : ∀ session, (∀ other, .accepted other session ∉ state.trace) →
    state.chunks session = [] ∧ state.frames session = []

/-- What is conserved under a key with one session. -/
structure Conserved (state : BridgeState) (key : SessionKey) : Prop where
  /-- The key has one session. -/
  unique : ∀ left right, .accepted key left ∈ state.trace → .accepted key right ∈ state.trace →
    left = right
  /-- While it is in the table nothing is lost. -/
  live : ∀ session, state.sessions.lookup key = some session →
    state.encrypted session ++ state.inHand session ++ state.waiting key = state.chunks session
  /-- Whatever is sent was read, in order. -/
  settled : ∀ session, .accepted key session ∈ state.trace →
    state.encrypted session ++ state.inHand session <+: state.chunks session

/-- Every step goes on attributing. -/
theorem attributed_step (held : Attributed state) (taken : step env state event = some next) :
    Attributed next := by
  have grows := (step_footprint taken).trace_grows
  refine ⟨keyed_step held.keyed taken, ?_, ?_, ?_⟩
  · intro other origin named
    rcases names_step taken named with before | ⟨task, created, rfl, present, rfl⟩
    · exact grows.subset (held.named other origin before)
    · obtain ⟨_, _, point, _, rfl⟩ := insert_ok taken
      obtain ⟨rfl, _⟩ := PacketTask.inserting.inj (Option.some.inj (present.symm.trans point))
      exact List.mem_append_right _ List.mem_cons_self
  · intro queued session holds
    have footprint := (step_footprint taken).downstream
    generalize next.drains = drains at footprint
    generalize next.downstream = downstream at footprint
    generalize next.sender = sender at footprint holds
    cases footprint with
    | found packet target point live =>
      rcases holds with locking | ⟨_, impossible⟩
      · obtain ⟨rfl, rfl⟩ := SenderTask.locking.inj locking
        exact grows.subset (held.keyed.live _ _ live)
      · contradiction
    | encrypted packet target wire point =>
      rcases holds with impossible | ⟨_, sending⟩
      · contradiction
      · obtain ⟨rfl, rfl, _⟩ := SenderTask.sending.inj sending
        exact grows.subset (held.sender _ _ (.inl point))
    | received | finished => rcases holds with impossible | ⟨_, impossible⟩ <;> contradiction
    | _ => exact grows.subset (held.sender queued session holds)
  · intro session unaccepted
    obtain ⟨chunks, frames⟩ := held.recorded session fun other recorded =>
      unaccepted other (grows.subset recorded)
    constructor
    · by_cases reads : ∃ task bytes, event = .drain task bytes
      · obtain ⟨task, bytes, rfl⟩ := reads
        obtain ⟨other, origin, reader, payload, running, _, rfl⟩ := drain_ok taken
        have accepted := held.named other origin
          (.drain _ (List.mem_of_getElem? running) rfl rfl rfl)
        have different : origin ≠ session := by
          rintro rfl
          exact unaccepted other (grows.subset accepted)
        rw [chunks_concat rfl session, chunks]
        simp [Output.chunkFor, different]
      · rw [chunks_kept taken fun task bytes same => reads ⟨task, bytes, same⟩, chunks]
    · by_cases encrypts : event = .senderEncrypt
      · subst encrypts
        obtain ⟨queued, target, cell, point, _, _, ⟨_, _, rfl⟩ | ⟨wire, _, rfl⟩⟩ :=
          senderEncrypt_ok taken
        · exact frames
        · have different : target ≠ session := by
            rintro rfl
            exact unaccepted _ (grows.subset (held.sender queued target (.inl point)))
          rw [frames_concat rfl session, frames]
          simp [Output.frameFor, different]
      · rw [frames_kept taken encrypts, frames]

/-- Before the first datagram there is nothing to attribute. -/
theorem attributed_start (clock : Instant) : Attributed (.start clock) where
  keyed := keyed_start clock
  named other origin named := by
    rcases named with ⟨_, member⟩ | ⟨_, member⟩ | ⟨_, point⟩ <;> contradiction
  sender queued session holds := by
    rcases holds with impossible | ⟨_, impossible⟩ <;> contradiction
  recorded session _ := ⟨rfl, rfl⟩

/-! ## One key -/

/-- A session that was never accepted has nothing on its way. -/
theorem inHand_of_unaccepted (held : Attributed state) {session : SessionId}
    (unaccepted : ∀ other, .accepted other session ∉ state.trace) :
    state.inHand session = [] := by
  unfold BridgeState.inHand
  split
  · rename_i queued target point
    have different : target ≠ session := by
      rintro rfl
      exact unaccepted _ (held.sender queued target (.inl point))
    simp only [different, ↓reduceIte]
  · rfl

/-- Under a key without sessions nothing waits. -/
theorem waiting_of_unaccepted (held : Attributed state)
    (unaccepted : ∀ session, .accepted key session ∉ state.trace) : state.waiting key = [] := by
  have foreign : ∀ queued ∈ state.sender.waits ++ state.downstream,
      ¬ decide (queued.packet.sessionKey = key) = true := by
    intro queued member keyed
    have same := of_decide_eq_true keyed
    apply unaccepted queued.origin
    apply held.named
    rcases List.mem_append.mp member with looking | channel
    · cases point : state.sender with
      | looking other =>
        rw [point] at looking
        obtain rfl := List.mem_singleton.mp looking
        exact .looking queued point same rfl
      | _ =>
        rw [point] at looking
        contradiction
    · exact .queued queued channel same rfl
  rw [BridgeState.waiting, List.filter_eq_nil_iff.mpr foreign, List.map_nil]

/-- What a step outside the way downstream leaves in place. -/
theorem outflow_still (taken : step env state event = some next) (other : event.outflow = false) :
    (∀ session, next.chunks session = state.chunks session ∧
      next.encrypted session = state.encrypted session ∧
      next.inHand session = state.inHand session) ∧
    ∀ key, next.waiting key = state.waiting key := by
  obtain ⟨channel, sender⟩ := channel_kept taken other
  constructor
  · intro session
    refine ⟨chunks_kept taken (fun task bytes same => ?_) session, ?_, ?_⟩
    · subst same
      contradiction
    · rw [BridgeState.encrypted, frames_kept taken _ session]
      · rfl
      · rintro rfl
        contradiction
    · rw [BridgeState.inHand, sender]
      rfl
  · intro key
    rw [BridgeState.waiting, channel, sender]
    rfl

/-- A session in the table after a step was there before or is the next one. -/
theorem lookup_step {session : SessionId} (taken : step env state event = some next)
    (found : next.sessions.lookup key = some session) :
    state.sessions.lookup key = some session ∨ session = state.cells.length := by
  have footprint := (step_footprint taken).sessions
  generalize next.sessions = table at footprint found
  cases footprint with
  | kept => exact .inl found
  | removed toDrop listed => exact .inl (Table.lookup_of_lookup_eraseAll found).2
  | inserted task other created present =>
    by_cases same : key = other
    · rw [same, AList.lookup_insert] at found
      exact .inr (Option.some.inj found).symm
    · rw [AList.lookup_insert_ne same] at found
      exact .inl found

/-- A step outside the way downstream conserves what is on it. -/
theorem conserved_still (attributed : Attributed state) (held : Conserved state key)
    (once : acceptsOnce key state event = true) (taken : step env state event = some next)
    (other : event.outflow = false) : Conserved next key := by
  obtain ⟨still, waiting⟩ := outflow_still taken other
  -- A session inserted under the key is the first there, and nothing has happened to it yet.
  have inserted {session : SessionId} (accepted : .accepted key session ∈ next.trace)
      (new : .accepted key session ∉ state.trace) :
      next.chunks session = [] ∧ next.encrypted session = [] ∧ next.inHand session = [] ∧
        next.waiting key = [] ∧ ∀ before, .accepted key before ∉ state.trace := by
    rcases accepted_step taken accepted with before | ⟨task, created, rfl, point, rfl⟩
    · exact absurd before new
    · have unaccepted : ∀ any, .accepted any state.cells.length ∉ state.trace := fun any recorded =>
        absurd (attributed.keyed.bound any _ recorded) (Nat.lt_irrefl _)
      have first : ∀ before, .accepted key before ∉ state.trace := by
        intro before recorded
        simp only [acceptsOnce, point, ne_eq, not_true_eq_false, decide_false, Bool.false_or,
          Bool.not_eq_true', List.any_eq_false] at once
        exact once _ recorded (by simp [Output.accepts])
      obtain ⟨chunks, frames⟩ := attributed.recorded _ unaccepted
      obtain ⟨readSame, sentSame, handSame⟩ := still state.cells.length
      refine ⟨readSame.trans chunks, ?_,
        handSame.trans (inHand_of_unaccepted attributed unaccepted),
        (waiting key).trans (waiting_of_unaccepted attributed first), first⟩
      rw [sentSame, BridgeState.encrypted, frames, List.map_nil]
  refine ⟨?_, ?_, ?_⟩
  · intro left right leftAccepted rightAccepted
    by_cases leftOld : .accepted key left ∈ state.trace
    · by_cases rightOld : .accepted key right ∈ state.trace
      · exact held.unique left right leftOld rightOld
      · exact absurd leftOld ((inserted rightAccepted rightOld).2.2.2.2 left)
    · rcases accepted_step taken leftAccepted with before | ⟨_, _, rfl, _, rfl⟩
      · exact absurd before leftOld
      · rcases accepted_step taken rightAccepted with before | ⟨_, _, _, _, rfl⟩
        · exact absurd before ((inserted leftAccepted leftOld).2.2.2.2 right)
        · rfl
  · intro session found
    by_cases old : state.sessions.lookup key = some session
    · obtain ⟨readSame, sentSame, handSame⟩ := still session
      rw [readSame, sentSame, handSame, waiting]
      exact held.live session old
    · have accepted := (keyed_step attributed.keyed taken).live key session found
      have new : .accepted key session ∉ state.trace := by
        rcases lookup_step taken found with before | rfl
        · exact absurd before old
        · exact fun recorded => absurd (attributed.keyed.bound key _ recorded) (Nat.lt_irrefl _)
      obtain ⟨chunks, sent, hand, waits, _⟩ := inserted accepted new
      rw [chunks, sent, hand, waits]
      rfl
  · intro session accepted
    obtain ⟨readSame, sentSame, handSame⟩ := still session
    by_cases old : .accepted key session ∈ state.trace
    · rw [readSame, sentSame, handSame]
      exact held.settled session old
    · obtain ⟨chunks, sent, hand, _⟩ := inserted accepted old
      rw [chunks, sent, hand]
      exact List.nil_prefix

/-- A read puts its chunk behind everything waiting under its key. -/
theorem drain_conserved (attributed : Attributed state) (held : Conserved state key) {task : Nat}
    {bytes : Bytes} (taken : drain state task bytes = some next) : Conserved next key := by
  obtain ⟨other, origin, reader, payload, running, _, rfl⟩ := drain_ok taken
  have own : .accepted other origin ∈ state.trace :=
    attributed.named other origin (.drain _ (List.mem_of_getElem? running) rfl rfl rfl)
  have old {session : SessionId} (recorded : .accepted key session ∈
      state.trace ++ [.read origin payload]) : .accepted key session ∈ state.trace := by
    rcases List.mem_append.mp recorded with before | impossible
    · exact before
    · cases List.mem_singleton.mp impossible
  refine ⟨fun left right leftAccepted rightAccepted =>
    held.unique left right (old leftAccepted) (old rightAccepted), ?_, ?_⟩
  · intro session found
    have accepted := attributed.keyed.live key session found
    have conserved := held.live session found
    rw [chunks_concat rfl session, ← conserved]
    by_cases same : other = key
    · subst same
      obtain rfl := held.unique origin session own accepted
      simp [BridgeState.encrypted, BridgeState.frames, BridgeState.inHand, BridgeState.waiting,
        Output.chunkFor, Output.frameFor]
    · have different : origin ≠ session := by
        rintro rfl
        exact same (attributed.keyed.functional other key origin own accepted)
      simp [BridgeState.encrypted, BridgeState.frames, BridgeState.inHand, BridgeState.waiting,
        Output.chunkFor, Output.frameFor, same, different]
  · intro session accepted
    have conserved := held.settled session (old accepted)
    rw [chunks_concat rfl session]
    have sent : BridgeState.encrypted { state with
        downstream := state.downstream ++ [⟨⟨other, payload⟩, origin⟩]
        trace := state.trace ++ [.read origin payload] } session = state.encrypted session := by
      simp [BridgeState.encrypted, BridgeState.frames, Output.frameFor]
    rw [sent]
    exact conserved.trans (List.prefix_append _ _)

/-- The sender takes the oldest packet before its lookup. -/
theorem receive_conserved (held : Conserved state key) (taken : senderReceive state = some next) :
    Conserved next key := by
  obtain ⟨queued, later, idle, channel, rfl⟩ := senderReceive_ok taken
  have hand (session : SessionId) : state.inHand session = [] := by
    rw [BridgeState.inHand, idle]
  have waiting : BridgeState.waiting { state with downstream := later, sender := .looking queued }
      key = state.waiting key := by
    rw [BridgeState.waiting, BridgeState.waiting, idle, channel]
    rfl
  refine ⟨held.unique, fun session found => ?_, fun session accepted => ?_⟩
  · rw [waiting]
    have conserved := held.live session found
    rw [hand] at conserved
    exact conserved
  · have conserved := held.settled session accepted
    rw [hand] at conserved
    exact conserved

/-- A packet leaves the channel for its session, or for nowhere if the key has none. -/
theorem lookup_conserved (attributed : Attributed state) (held : Conserved state key)
    (taken : senderLookup state = some next) : Conserved next key := by
  obtain ⟨queued, looking, ⟨absent, rfl⟩ | ⟨target, present, rfl⟩⟩ := senderLookup_ok taken
  · have hand (session : SessionId) : state.inHand session = [] := by
      rw [BridgeState.inHand, looking]
    refine ⟨held.unique, fun session found => ?_, fun session accepted => ?_⟩
    · have different : queued.packet.sessionKey ≠ key := by
        rintro rfl
        rw [absent] at found
        contradiction
      have conserved := held.live session found
      rw [hand, BridgeState.waiting, looking] at conserved
      simp only [SenderTask.waits, List.singleton_append, List.filter_cons, different,
        decide_false, Bool.false_eq_true, ↓reduceIte] at conserved
      exact conserved
    · have conserved := held.settled session accepted
      rw [hand] at conserved
      exact conserved
  · have hand (session : SessionId) : state.inHand session = [] := by
      rw [BridgeState.inHand, looking]
    have owner := attributed.keyed.live _ _ present
    -- For the sessions of other keys the packet was never in the way.
    have apart {session : SessionId} (accepted : .accepted key session ∈ state.trace)
        (different : queued.packet.sessionKey ≠ key) : target ≠ session := by
      rintro rfl
      exact different (attributed.keyed.functional _ key target owner accepted)
    have live (session : SessionId) (found : state.sessions.lookup key = some session) :
        BridgeState.encrypted state session ++
          BridgeState.inHand { state with sender := .locking queued target } session ++
          BridgeState.waiting { state with sender := .locking queued target } key =
            state.chunks session := by
      have conserved := held.live session found
      rw [hand, BridgeState.waiting, looking] at conserved
      by_cases same : queued.packet.sessionKey = key
      · subst same
        obtain rfl := Option.some.inj (present.symm.trans found)
        simpa [BridgeState.inHand, BridgeState.waiting, SenderTask.waits] using conserved
      · have other := apart (attributed.keyed.live key session found) same
        simpa [BridgeState.inHand, BridgeState.waiting, SenderTask.waits, same, other]
          using conserved
    refine ⟨held.unique, live, fun session accepted => ?_⟩
    by_cases same : target = session
    · subst same
      have found : state.sessions.lookup key = some target := by
        rw [attributed.keyed.functional key _ target accepted owner, present]
      have conserved : _ = state.chunks target := live target found
      exact ⟨_, conserved⟩
    · have conserved := held.settled session accepted
      rw [hand] at conserved
      have empty : BridgeState.inHand { state with sender := .locking queued target } session =
          [] := by
        simp only [BridgeState.inHand, same, ↓reduceIte]
      rw [empty]
      exact conserved

/-- What neither reads, accepts nor removes conserves, if it moves payloads only from one place on
the way to the next. -/
theorem conserved_of_same (held : Conserved state key) (sessions : next.sessions = state.sessions)
    (accepted : ∀ session, .accepted key session ∈ next.trace →
      .accepted key session ∈ state.trace)
    (chunks : ∀ session, next.chunks session = state.chunks session)
    (sent : ∀ session, next.encrypted session ++ next.inHand session =
      state.encrypted session ++ state.inHand session)
    (waiting : next.waiting key = state.waiting key) : Conserved next key where
  unique left right leftAccepted rightAccepted :=
    held.unique left right (accepted left leftAccepted) (accepted right rightAccepted)
  live session found := by
    rw [sent, waiting, chunks]
    rw [sessions] at found
    exact held.live session found
  settled session recorded := by
    rw [sent, chunks]
    exact held.settled session (accepted session recorded)

/-- An encryption moves the payload in hand behind those encrypted before. -/
theorem encrypt_conserved (numbered : Numbered state) (held : Conserved state key)
    (taken : senderEncrypt env state = some next) : Conserved next key := by
  obtain ⟨queued, target, cell, wire, locking, _, _, rfl⟩ := encrypt_numbered numbered taken
  refine conserved_of_same held (by rfl) ?_ ?_ ?_ ?_
  · intro session recorded
    rcases List.mem_append.mp recorded with before | impossible
    · exact before
    · cases List.mem_singleton.mp impossible
  · intro session
    rw [chunks_concat rfl session]
    simp [Output.chunkFor]
  · intro session
    rw [BridgeState.encrypted, frames_concat rfl session]
    by_cases same : target = session
    · simp [BridgeState.encrypted, BridgeState.inHand, locking, Output.frameFor, same]
    · simp [BridgeState.encrypted, BridgeState.inHand, locking, Output.frameFor, same]
  · simp only [BridgeState.waiting, locking, SenderTask.waits]

/-- A send ends with nothing in hand, as it started. -/
theorem send_conserved (held : Conserved state key) {success : Bool}
    (taken : senderSend state success = some next) : Conserved next key := by
  obtain ⟨queued, target, wire, sending, rfl⟩ := senderSend_ok taken
  refine conserved_of_same held (by rfl) ?_ ?_ ?_ ?_
  · intro session recorded
    cases success with
    | false => exact recorded
    | true =>
      rcases List.mem_append.mp recorded with before | impossible
      · exact before
      · cases List.mem_singleton.mp impossible
  · intro session
    cases success with
    | false => rfl
    | true =>
      rw [chunks_concat rfl session]
      simp [Output.chunkFor]
  · intro session
    cases success <;>
      simp [BridgeState.encrypted, BridgeState.frames, BridgeState.inHand, sending,
        Output.frameFor]
  · simp only [BridgeState.waiting, sending, SenderTask.waits]

/-- Every step of a bridge that accepts once under a key conserves what was read there. -/
theorem conserved_step (attributed : Attributed state) (numbered : Numbered state)
    (held : Conserved state key) (once : acceptsOnce key state event = true)
    (taken : step env state event = some next) : Conserved next key := by
  cases outward : event.outflow with
  | false => exact conserved_still attributed held once taken outward
  | true =>
    cases event with
    | drain => exact drain_conserved attributed held taken
    | senderReceive => exact receive_conserved held taken
    | senderLookup => exact lookup_conserved attributed held taken
    | senderEncrypt => exact encrypt_conserved numbered held taken
    | senderSend => exact send_conserved held taken
    | _ => contradiction

/-- Nothing is read before the first datagram. -/
theorem conserved_start (clock : Instant) (key : SessionKey) : Conserved (.start clock) key where
  unique left right recorded := by contradiction
  live session found := by simp [BridgeState.start] at found
  settled session recorded := by contradiction

end LowPing.Bridge
