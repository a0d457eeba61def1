import LowPing.Library.Settling
import LowPing.Client.RuleIdle

/-!
# A UDP rule comes to rest

The listener of a rule waits for the map's write lock while its reaper scans; the reaper waits for
nobody, and the responders only for the socket. Each datagram that was received is therefore dealt
with after a bounded number of steps, whatever order the listener, the reaper and the responders
take them in.
-/

namespace LowPing.Client

open Library Library.Machine LowPing.Tunnel
open Library.Update (getElem?_set_cases getElem?_concat_cases)

/-- Whether an event goes on with what the rule has begun. The others bring something new: a
datagram from either side, a tick, time. -/
def RuleEvent.own : RuleEvent → Bool
  | .receive .. => false
  | .bridgeFrame .. => false
  | .bridgeError _ => false
  | .tick => false
  | .advance _ => false
  | _ => true

/-- Whether a task goes on without a failed send to the bridge or to a local source. A tunnel that
fails to open counts, although it may have failed in the send of its SYN: the listener drops the
datagram and goes on. -/
def RuleEvent.favourable : RuleEvent → Bool
  | .forward success => success
  | .answer _ success => success
  | event => event.own

/-- How many steps the listener may still take for the datagram it has. -/
def RuleStage.work : RuleStage → Nat
  | .receiving => 0
  | .looking .. => 4
  | .opening .. => 3
  | .inserting .. => 2
  | .forwarding .. => 1

/-- How many steps a responder may still take for the payload it has. -/
def Responder.work (responder : Responder) : Nat :=
  match responder.stage with
  | .answering _ => 1
  | _ => 0

/-- How many steps the reaper may still take before it waits for its next tick. -/
def RuleReaper.work : RuleReaper → Nat
  | .ticking => 0
  | .scanning _ left _ => left.length + 2
  | .removing _ => 1

/-- How many steps a rule may still take if nothing new arrives. -/
def RuleState.work (state : RuleState) : Nat :=
  (state.responders.map Responder.work).sum + state.listener.work + state.reaper.work

/-- Nothing is under way. -/
structure RuleState.Settled (state : RuleState) : Prop where
  /-- The listener awaits a datagram. -/
  listener : state.listener = .receiving
  /-- No responder has a payload to deliver. -/
  responders : ∀ responder ∈ state.responders, ∀ payload, responder.stage ≠ .answering payload
  /-- The reaper awaits its tick. -/
  reaper : state.reaper = .ticking

/-- Sessions that are used exist. -/
structure RuleBacked (state : RuleState) : Prop where
  /-- In the map. -/
  mapped : ∀ src session, state.sessions.lookup src = some session → session < state.cells.length
  /-- By the listener. -/
  listener : (∀ src session payload, state.listener = .inserting src session payload →
      session < state.cells.length) ∧
    ∀ session payload, state.listener = .forwarding session payload → session < state.cells.length

section

variable {crypto : Crypto} {text : TextCodec} {config : UdpRule} {state next : RuleState}
  {event : RuleEvent}

/-- A rule that has just become active. -/
theorem ruleBacked_start (clock : ClientInstant) : RuleBacked (.start clock) :=
  ⟨nofun, nofun, nofun⟩

/-- Every step keeps it. -/
theorem ruleBacked_step (held : RuleBacked state)
    (taken : state.step crypto text config event = some next) : RuleBacked next := by
  cases rule_step taken with
  | received => exact ⟨held.mapped, nofun, nofun⟩
  | found src payload session point live =>
    refine ⟨held.mapped, nofun, fun other _ same => ?_⟩
    obtain ⟨rfl, -⟩ := RuleStage.forwarding.inj same
    exact held.mapped src session live
  | missed => exact ⟨held.mapped, nofun, nofun⟩
  | opened src payload clientSk connectionId tunnel wire point opens =>
    have longer : (state.cells ++ [RuleSession.mk tunnel.sender state.clock]).length =
        state.cells.length + 1 := List.length_append
    refine ⟨fun src session live => ?_, fun other session _ same => ?_, nofun⟩
    · have old := held.mapped src session live
      show session < (state.cells ++ [_]).length
      omega
    · obtain ⟨-, rfl, -⟩ := RuleStage.inserting.inj same
      show state.cells.length < (state.cells ++ [_]).length
      omega
  | openFailed => exact ⟨held.mapped, nofun, nofun⟩
  | inserted src session payload point free =>
    have bound := held.listener.1 src session payload point
    refine ⟨fun other target live => ?_, nofun, fun other _ same => ?_⟩
    · by_cases same : other = src
      · subst same
        rw [AList.lookup_insert] at live
        obtain rfl := Option.some.inj live
        exact bound
      · rw [AList.lookup_insert_ne same] at live
        exact held.mapped other target live
    · obtain ⟨rfl, -⟩ := RuleStage.forwarding.inj same
      exact bound
  | forwarded session payload cell success frames point present sends =>
    refine ⟨fun src target live => ?_, nofun, nofun⟩
    show target < (state.cells.set _ _).length
    rw [List.length_set]
    exact held.mapped src target live
  | answered position session src payload point =>
    have same : (state.cells.modify session fun cell =>
        { cell with lastActive := state.clock }).length = state.cells.length :=
      List.length_modify _ _ _
    refine ⟨fun src target live => ?_, fun src target payload point => ?_,
      fun target payload point => ?_⟩
    · exact same ▸ held.mapped src target live
    · exact same ▸ held.listener.1 src target payload point
    · exact same ▸ held.listener.2 target payload point
  | removed toDrop point =>
    exact ⟨fun src session live => held.mapped src session (Table.lookup_of_lookup_eraseAll live).2,
      held.listener⟩
  | _ => exact ⟨held.mapped, held.listener⟩

/-- A responder whose send returns was answering. -/
theorem answering_of_step {position session : Nat} {src : SocketAddr} {stage : ResponderStage}
    {success : Bool} (point : state.responders[position]? = some ⟨session, src, stage⟩)
    (taken : state.step crypto text config (.answer position success) = some next) :
    ∃ payload, stage = .answering payload := by
  simp only [RuleState.step, RuleState.answer, point] at taken
  split at taken
  · rename_i held same
    obtain ⟨_, _, rfl⟩ := Responder.mk.inj (Option.some.inj same)
    exact ⟨_, rfl⟩
  · contradiction

/-- What a rule does by itself lowers its work. -/
theorem ruleWork_step (own : event.own = true)
    (taken : state.step crypto text config event = some next) : next.work < state.work := by
  have moved {position session : Nat} {src : SocketAddr} {payload : Bytes}
      (point : state.responders[position]? = some ⟨session, src, .answering payload⟩)
      (after : ResponderStage) (done : Responder.work ⟨session, src, after⟩ = 0) :
      ((state.responders.set position ⟨session, src, after⟩).map Responder.work).sum <
        (state.responders.map Responder.work).sum := by
    have exchanged := sum_map_set_add Responder.work point ⟨session, src, after⟩
    have one : Responder.work ⟨session, src, .answering payload⟩ = 1 := rfl
    omega
  cases rule_step taken with
  | received | dropped | answering | ticked | advanced => contradiction
  | found src payload session point live =>
    simp only [RuleState.work, point, RuleStage.work]
    omega
  | missed src payload point absent =>
    simp only [RuleState.work, point, RuleStage.work]
    omega
  | opened src payload clientSk connectionId tunnel wire point opens =>
    simp only [RuleState.work, point, RuleStage.work]
    omega
  | openFailed src payload point =>
    simp only [RuleState.work, point, RuleStage.work]
    omega
  | inserted src session payload point free =>
    simp only [RuleState.work, point, RuleStage.work, List.map_append, List.map_cons, List.map_nil,
      List.sum_append, List.sum_cons, List.sum_nil, Responder.work]
    omega
  | forwarded session payload cell success frames point present sends =>
    simp only [RuleState.work, point, RuleStage.work]
    omega
  | returned _ position session src stage ends point =>
    rcases ends with rfl | rfl
    · contradiction
    · obtain ⟨payload, rfl⟩ := answering_of_step point taken
      have less := moved point .returned rfl
      simp only [RuleState.work]
      omega
  | answered position session src payload point =>
    have less := moved point .receiving rfl
    simp only [RuleState.work]
    omega
  | scanned src cutoff left toDrop session point first =>
    have shorter := List.length_erase_of_mem (List.mem_of_find?_eq_some first)
    have inhabited := List.length_pos_of_mem (List.mem_of_find?_eq_some first)
    simp only [RuleState.work, point, RuleReaper.work, shorter]
    omega
  | finished cutoff toDrop point =>
    have less : (if toDrop = [] then RuleReaper.ticking else .removing toDrop).work ≤ 1 := by
      split <;> simp [RuleReaper.work]
    have examined : (RuleReaper.scanning cutoff [] toDrop).work = 2 := rfl
    simp only [RuleState.work, point, examined]
    omega
  | removed toDrop point =>
    simp only [RuleState.work, point, RuleReaper.work]
    omega

/-- Outside a settled state the listener, the reaper or a responder can go on. -/
theorem rule_continues (held : RuleBacked state) (busy : ¬ state.Settled) :
    ∃ event next, event.favourable = true ∧ state.step crypto text config event = some next := by
  cases reaping : state.reaper with
  | scanning cutoff left toDrop =>
    cases left with
    | nil =>
      exact ⟨.scanned, _, rfl, by simp only [RuleState.step, RuleState.scanned, reaping]; rfl⟩
    | cons entry left =>
      have first : (entry :: left).find? (fun one => one.1 = entry.1) = some entry :=
        List.find?_cons_of_pos (by simp)
      exact ⟨.scan entry.1, _, rfl, by
        simp only [RuleState.step, RuleState.scan, reaping, first]
        rfl⟩
  | removing toDrop =>
    exact ⟨.remove, _, rfl, by simp only [RuleState.step, RuleState.remove, reaping]; rfl⟩
  | ticking =>
    cases point : state.listener with
    | looking src payload =>
      exact ⟨.lookup, _, rfl, by simp only [RuleState.step, RuleState.lookup, point]; rfl⟩
    | opening src payload =>
      exact ⟨.openFailed, _, rfl, by simp only [RuleState.step, RuleState.openFailed, point]; rfl⟩
    | inserting src session payload =>
      exact ⟨.insert, _, rfl, by
        simp only [RuleState.step, RuleState.insert, point, reaping, RuleReaper.reading,
          Bool.false_eq_true, ↓reduceIte]
        rfl⟩
    | forwarding session payload =>
      have bound := held.listener.2 session payload point
      obtain ⟨cell, found⟩ : ∃ cell, state.cells[session]? = some cell :=
        ⟨_, List.getElem?_eq_getElem bound⟩
      exact ⟨.forward true, _, rfl, by
        simp only [RuleState.step, RuleState.forward, point, found]
        rfl⟩
    | receiving =>
      obtain ⟨responder, member, payload, answering⟩ : ∃ responder ∈ state.responders, ∃ payload,
          responder.stage = .answering payload := by
        by_contra none
        refine busy ⟨point, fun responder member payload answering => ?_, reaping⟩
        exact none ⟨responder, member, payload, answering⟩
      obtain ⟨position, bound, rfl⟩ := List.mem_iff_getElem.mp member
      have present : state.responders[position]? = some ⟨state.responders[position].session,
          state.responders[position].src, .answering payload⟩ := by
        rw [List.getElem?_eq_getElem bound, ← answering]
      exact ⟨.answer position true, _, rfl, by
        simp only [RuleState.step, RuleState.answer, present, ↓reduceIte]
        rfl⟩

/-- In a settled state none of them can by itself. -/
theorem rule_rests (settled : state.Settled) (own : event.own = true) :
    state.step crypto text config event = none := by
  by_contra goes
  obtain ⟨next, taken⟩ := Option.ne_none_iff_exists'.mp goes
  have silent {position session : Nat} {src : SocketAddr} {payload : Bytes}
      (point : state.responders[position]? = some ⟨session, src, .answering payload⟩) : False :=
    settled.responders _ (List.mem_of_getElem? point) payload rfl
  cases rule_step taken with
  | received | dropped | answering | ticked | advanced => contradiction
  | found src payload session point =>
    rw [settled.listener] at point
    contradiction
  | missed src payload point =>
    rw [settled.listener] at point
    contradiction
  | opened src payload clientSk connectionId tunnel wire point =>
    rw [settled.listener] at point
    contradiction
  | openFailed src payload point =>
    rw [settled.listener] at point
    contradiction
  | inserted src session payload point =>
    rw [settled.listener] at point
    contradiction
  | forwarded session payload cell success frames point =>
    rw [settled.listener] at point
    contradiction
  | returned _ position session src stage ends point =>
    rcases ends with rfl | rfl
    · contradiction
    · obtain ⟨payload, rfl⟩ := answering_of_step point taken
      exact silent point
  | answered position session src payload point => exact silent point
  | scanned src cutoff left toDrop session point =>
    rw [settled.reaper] at point
    contradiction
  | finished cutoff toDrop point =>
    rw [settled.reaper] at point
    contradiction
  | removed toDrop point =>
    rw [settled.reaper] at point
    contradiction

/-- A rule settles by itself. -/
theorem rule_settles_step :
    Settles (RuleState.step crypto text config) RuleBacked RuleState.Settled RuleEvent.own
      RuleEvent.favourable RuleState.work where
  kept _ _ _ held _ taken := ruleBacked_step held taken
  included event good := by
    cases event with
    | receive | bridgeFrame | bridgeError | tick | advance => contradiction
    | _ => rfl
  lowers _ _ _ _ own taken := ruleWork_step own taken
  continues _ held busy := rule_continues held busy
  rests _ _ _ settled own := rule_rests settled own

end

/-- From every state that a UDP rule can reach, whatever its tasks do next if nothing new arrives
comes to an end after at most `work` steps; where they cannot go on, every datagram received has
been forwarded or dropped, every opened payload delivered and the reaper waits; and whatever they
have done so far can be finished without a failed send. -/
theorem rule_settles {crypto : Crypto} {text : TextCodec} {config : UdpRule}
    {clock : ClientInstant} {events schedule : List RuleEvent} {state final : RuleState}
    (reached : run (RuleState.step crypto text config) (.start clock) events = some state)
    (own : ∀ event ∈ schedule, event.own = true)
    (continued : run (RuleState.step crypto text config) state schedule = some final) :
    schedule.length + final.work ≤ state.work ∧
      (final.Settled ↔
        ∀ event, event.own = true → final.step crypto text config event = none) ∧
      ∃ rest last, (∀ event ∈ rest, event.favourable = true) ∧
        run (RuleState.step crypto text config) state (schedule ++ rest) = some last ∧
        last.Settled := by
  have settles := @rule_settles_step crypto text config
  have held : RuleBacked state :=
    run_invariant_always (fun _ _ _ held taken => ruleBacked_step held taken)
      (ruleBacked_start clock) reached
  exact settles.left_alone held own continued

/-- A tunnel has just been opened: its session, the datagram and nothing else are left. -/
theorem openedSource_settles : ∃ state final,
    sampleUdpRuleAfter [.receive sampleSource [1], .lookup,
      .opened (List.Vector.replicate 32 1) 5] = some state ∧
    run (RuleState.step checksumCrypto standardText sampleUdpRule) state [.insert] = some final ∧
    1 + final.work ≤ state.work ∧
    (final.Settled ↔ ∀ event, event.own = true →
      final.step checksumCrypto standardText sampleUdpRule event = none) ∧
    ∃ rest last, (∀ event ∈ rest, event.favourable = true) ∧
      run (RuleState.step checksumCrypto standardText sampleUdpRule) state ([.insert] ++ rest) =
        some last ∧ last.Settled := by
  have sample : (sampleUdpRuleAfter [.receive sampleSource [1], .lookup,
        .opened (List.Vector.replicate 32 1) 5]).isSome ∧
      (sampleUdpRuleAfter ([.receive sampleSource [1], .lookup,
        .opened (List.Vector.replicate 32 1) 5] ++ [.insert])).isSome := by
    decide +kernel
  obtain ⟨state, reached⟩ := Option.isSome_iff_exists.mp sample.1
  obtain ⟨final, whole⟩ := Option.isSome_iff_exists.mp sample.2
  have continued : run (RuleState.step checksumCrypto standardText sampleUdpRule) state
      [.insert] = some final := by
    rw [sampleUdpRuleAfter, run_append] at whole
    rw [sampleUdpRuleAfter] at reached
    rw [reached] at whole
    exact whole
  exact ⟨state, final, reached, continued, rule_settles reached (by decide) continued⟩

end LowPing.Client
