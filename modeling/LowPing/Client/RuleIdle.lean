import LowPing.Tunnel.Orphans

/-!
# Idle sessions of a UDP rule

The reaper of `run_udp_rule` lists idle sources under the read lock and removes them under the write
lock. In between it holds neither, and the listener and the responders go on touching the sessions
they hold. A run in which no listed session is touched removes only sessions that were idle; a
single datagram between the scan and the removal breaks it.
-/

namespace LowPing.Client

open Library Library.Machine Tunnel
open Library.Update (getElem?_set_cases getElem?_concat_cases)

/-- A removed session was last touched more than the idle time before. -/
def touchedBefore (idle : Nat) (earlier later : RuleOutput) : Prop :=
  match earlier, later with
  | .touched toucher touched, .reaped _ session time => toucher = session → touched + idle < time
  | _, _ => True

instance decidableTouchedBefore (idle : Nat) (earlier later : RuleOutput) :
    Decidable (touchedBefore idle earlier later) := by
  unfold touchedBefore
  split <;> infer_instance

/-- `udp_idle_secs`, in nanoseconds. -/
def UdpRule.idleNanos (config : UdpRule) : Nat := config.udpIdleSecs.toNat * 1000000000

/-- The sources the reaper has listed. -/
def RuleReaper.toDrop : RuleReaper → List SocketAddr
  | .ticking => []
  | .scanning _ _ toDrop => toDrop
  | .removing toDrop => toDrop

/-- A session is under a listed source. -/
def RuleState.listed (state : RuleState) (session : Nat) : Bool :=
  state.reaper.toDrop.any fun src => decide (state.sessions.lookup src = some session)

/-- The session a step touches: that of the listener's datagram or of a delivered reply. -/
def RuleState.touching (state : RuleState) : RuleEvent → Option Nat
  | .forward _ =>
    match state.listener with
    | .forwarding session _ => some session
    | _ => none
  | .answer responder true => (state.responders[responder]?).map Responder.session
  | _ => none

/-- A step touches no listed session. -/
def RuleState.sparesListed (state : RuleState) (event : RuleEvent) : Bool :=
  (state.touching event).all fun session => !state.listed session

/-- A session was last touched more than the idle time ago. -/
def RuleState.Untouched (idle : Nat) (state : RuleState) (session : Nat) : Prop :=
  ∀ time, .touched session time ∈ state.trace → time + idle < state.clock

/-- What the reaper relies on. -/
structure ReapsUntouched (idle : Nat) (state : RuleState) : Prop where
  /-- Nothing was touched in the future. -/
  past : ∀ session time, .touched session time ∈ state.trace → time ≤ state.clock
  /-- A session's stamp is that of its last touch, or later. -/
  stamped : ∀ session time cell, .touched session time ∈ state.trace →
    state.cells[session]? = some cell → time ≤ cell.lastActive
  /-- A scan works on the live map with a cutoff one idle time back. -/
  scanning : ∀ cutoff left toDrop, state.reaper = .scanning cutoff left toDrop →
    cutoff + idle ≤ state.clock ∧
      ∀ src session, (src, session) ∈ left → state.sessions.lookup src = some session
  /-- Listed sources have a session, and it is untouched. -/
  listed : ∀ src ∈ state.reaper.toDrop, ∃ session, state.sessions.lookup src = some session ∧
    state.Untouched idle session
  /-- Removed sessions were. -/
  reaped : state.trace.Pairwise (touchedBefore idle)

section

variable {crypto : Crypto} {text : TextCodec} {config : UdpRule} {state next : RuleState}
  {event : RuleEvent} {idle : Nat}

/-- The clock does not go back. -/
theorem rule_clock (taken : state.step crypto text config event = some next) :
    state.clock ≤ next.clock := by
  cases rule_step taken with
  | advanced nanos => exact Nat.le_add_right _ _
  | _ => exact Nat.le_refl _

/-- What a step adds to the history: touches happen now and to the session the step touches,
removals now and to the sessions of listed sources. -/
structure HistoryAfter (state : RuleState) (event : RuleEvent) (idle : Nat)
    (outputs : List RuleOutput) : Prop where
  /-- Touches. -/
  touched : ∀ session time, .touched session time ∈ outputs →
    time = state.clock ∧ state.touching event = some session
  /-- Removals. -/
  reaped : ∀ src session time, .reaped src session time ∈ outputs →
    time = state.clock ∧ src ∈ state.reaper.toDrop ∧ state.sessions.lookup src = some session
  /-- No step does both. -/
  apart : outputs.Pairwise (touchedBefore idle)

/-- A history without removals is in order. -/
theorem pairwise_unreaped {outputs : List RuleOutput}
    (unreaped : ∀ src session time, .reaped src session time ∉ outputs) :
    outputs.Pairwise (touchedBefore idle) := by
  refine List.pairwise_of_forall_mem_list fun earlier _ later member => ?_
  cases later with
  | reaped src session time => exact absurd member (unreaped src session time)
  | _ => cases earlier <;> trivial

/-- Every step does. -/
theorem history_step (idle : Nat) (taken : state.step crypto text config event = some next) :
    ∃ outputs, next.trace = state.trace ++ outputs ∧ HistoryAfter state event idle outputs := by
  have nothing : HistoryAfter state event idle [] := ⟨nofun, nofun, .nil⟩
  cases rule_step taken with
  | forwarded session payload cell success frames point present sends =>
    have unreaped (src : SocketAddr) (other time : Nat) :
        .reaped src other time ∉ .touched session state.clock :: frames := by
      intro member
      rcases List.mem_cons.mp member with same | sent
      · contradiction
      · obtain ⟨_, impossible⟩ := sends _ sent
        contradiction
    refine ⟨.touched session state.clock :: frames, by simp, fun toucher time member => ?_,
      fun src other time member => absurd member (unreaped src other time),
      pairwise_unreaped unreaped⟩
    rcases List.mem_cons.mp member with same | sent
    · obtain ⟨rfl, rfl⟩ := RuleOutput.touched.inj same
      refine ⟨rfl, ?_⟩
      rw [RuleState.touching, point]
    · obtain ⟨_, impossible⟩ := sends _ sent
      contradiction
  | answered position session src payload point =>
    have unreaped (other : SocketAddr) (removed time : Nat) : .reaped other removed time ∉
        [RuleOutput.answered src session payload, .touched session state.clock] := by
      simp
    refine ⟨_, List.append_assoc _ _ _, fun toucher time member => ?_,
      fun other removed time member => absurd member (unreaped other removed time),
      pairwise_unreaped unreaped⟩
    obtain ⟨rfl, rfl⟩ : toucher = session ∧ time = state.clock := by simpa using member
    refine ⟨rfl, ?_⟩
    rw [RuleState.touching, point]
    rfl
  | removed toDrop point =>
    have each (output : RuleOutput) (member : output ∈ toDrop.filterMap fun src =>
        (state.sessions.lookup src).map fun session => .reaped src session state.clock) :
        ∃ src ∈ toDrop, ∃ session, state.sessions.lookup src = some session ∧
          output = .reaped src session state.clock := by
      obtain ⟨src, listed, found⟩ := List.mem_filterMap.mp member
      obtain ⟨session, live, rfl⟩ := Option.map_eq_some_iff.mp found
      exact ⟨src, listed, session, live, rfl⟩
    refine ⟨_, rfl, fun toucher time member => ?_, fun src session time member => ?_, ?_⟩
    · obtain ⟨_, _, _, _, impossible⟩ := each _ member
      contradiction
    · obtain ⟨_, listed, _, live, same⟩ := each _ member
      obtain ⟨rfl, rfl, rfl⟩ := RuleOutput.reaped.inj same
      refine ⟨rfl, ?_, live⟩
      rw [point]
      exact listed
    · refine List.pairwise_of_forall_mem_list fun earlier member later _ => ?_
      obtain ⟨_, _, _, _, rfl⟩ := each _ member
      trivial
  | _ => exact ⟨[], (List.append_nil _).symm, nothing⟩

/-- The stamp of a session is the one from before, or it is now; a touch renews it. -/
theorem stamp_before {session : Nat} {last : RuleSession}
    (taken : state.step crypto text config event = some next)
    (present : next.cells[session]? = some last) :
    last.lastActive = state.clock ∨ ∃ cell, state.cells[session]? = some cell ∧
      cell.lastActive = last.lastActive ∧ state.touching event ≠ some session := by
  cases rule_step taken with
  | opened src payload clientSk connectionId tunnel wire point opens =>
    rcases getElem?_concat_cases present with ⟨rfl, rfl⟩ | old
    · exact .inl rfl
    · exact .inr ⟨last, old, rfl, nofun⟩
  | forwarded target payload cell success frames point found sends =>
    rcases getElem?_set_cases present with ⟨rfl, rfl⟩ | ⟨other, old⟩
    · exact .inl rfl
    · refine .inr ⟨last, old, rfl, ?_⟩
      rw [RuleState.touching, point]
      simpa using Ne.symm other
  | answered position target src payload point =>
    by_cases same : target = session
    · subst same
      rw [List.getElem?_modify_eq] at present
      obtain ⟨cell, found, rfl⟩ := Option.map_eq_some_iff.mp present
      exact .inl rfl
    · rw [List.getElem?_modify_ne _ _ same] at present
      refine .inr ⟨last, present, rfl, ?_⟩
      rw [RuleState.touching, point]
      simpa using same
  | returned other position target src stage ends point =>
    refine .inr ⟨last, present, rfl, ?_⟩
    rcases ends with rfl | rfl
    · exact nofun
    · exact nofun
  | _ => exact .inr ⟨last, present, rfl, nofun⟩

/-- Touches stay in the past. -/
theorem past_step (held : ReapsUntouched idle state)
    (taken : state.step crypto text config event = some next) (session : Nat) (time : ClientInstant)
    (member : .touched session time ∈ next.trace) : time ≤ next.clock := by
  have clock := rule_clock taken
  obtain ⟨outputs, grown, added⟩ := history_step idle taken
  rw [grown] at member
  rcases List.mem_append.mp member with before | new
  · exact Nat.le_trans (held.past session time before) clock
  · rw [(added.touched session time new).1]
    exact clock

/-- Stamps stay those of the last touch. -/
theorem stamped_step (held : ReapsUntouched idle state)
    (taken : state.step crypto text config event = some next) (session : Nat) (time : ClientInstant)
    (last : RuleSession) (member : .touched session time ∈ next.trace)
    (present : next.cells[session]? = some last) : time ≤ last.lastActive := by
  obtain ⟨outputs, grown, added⟩ := history_step idle taken
  rw [grown] at member
  rcases stamp_before taken present with now | ⟨cell, found, same, spared⟩
  · rw [now]
    rcases List.mem_append.mp member with before | new
    · exact held.past session time before
    · exact Nat.le_of_eq (added.touched session time new).1
  · rcases List.mem_append.mp member with before | new
    · rw [← same]
      exact held.stamped session time cell before found
    · exact absurd (added.touched session time new).2 spared

/-- A scan goes on working on the live map. -/
theorem scanning_step (held : ReapsUntouched config.idleNanos state)
    (taken : state.step crypto text config event = some next) (cutoff : ClientInstant)
    (left : List (SocketAddr × Nat)) (toDrop : List SocketAddr)
    (scanning : next.reaper = .scanning cutoff left toDrop) :
    cutoff + config.idleNanos ≤ next.clock ∧
      ∀ src session, (src, session) ∈ left → next.sessions.lookup src = some session := by
  cases rule_step taken with
  | inserted src session payload point free =>
    have scanning : state.reaper = .scanning cutoff left toDrop := scanning
    rw [scanning] at free
    contradiction
  | ticked point late =>
    obtain ⟨rfl, rfl, rfl⟩ := RuleReaper.scanning.inj scanning
    refine ⟨Nat.le_of_eq (Nat.sub_add_cancel late), fun src session member => ?_⟩
    obtain ⟨entry, present, same⟩ := List.mem_map.mp member
    obtain ⟨rfl, rfl⟩ := Prod.mk.inj same
    exact AList.mem_lookup_iff.mpr present
  | scanned src start before dropped session point first =>
    obtain ⟨rfl, rfl, rfl⟩ := RuleReaper.scanning.inj scanning
    obtain ⟨early, live⟩ := held.scanning start before dropped point
    exact ⟨early, fun other target member => live other target (List.mem_of_mem_erase member)⟩
  | finished start dropped point =>
    have scanning : (if dropped = [] then RuleReaper.ticking else .removing dropped) =
        .scanning cutoff left toDrop := scanning
    split at scanning
    · contradiction
    · contradiction
  | removed dropped point => contradiction
  | advanced nanos =>
    obtain ⟨early, live⟩ := held.scanning cutoff left toDrop scanning
    exact ⟨Nat.le_add_right_of_le early, live⟩
  | _ => exact held.scanning cutoff left toDrop scanning

/-- A spared step leaves the sessions of listed sources untouched. -/
theorem untouched_step {src : SocketAddr} {session : Nat}
    (spares : state.sparesListed event = true)
    (taken : state.step crypto text config event = some next) (listed : src ∈ state.reaper.toDrop)
    (live : state.sessions.lookup src = some session) (untouched : state.Untouched idle session) :
    next.Untouched idle session := by
  intro time member
  have clock := rule_clock taken
  obtain ⟨outputs, grown, added⟩ := history_step idle taken
  rw [grown] at member
  rcases List.mem_append.mp member with before | new
  · exact Nat.lt_of_lt_of_le (untouched time before) clock
  · have spared : state.listed session = false := by
      simpa [RuleState.sparesListed, (added.touched session time new).2] using spares
    have present : state.listed session = true :=
      List.any_eq_true.mpr ⟨src, listed, by simpa using live⟩
    rw [spared] at present
    contradiction

/-- The scan lists a source only when its session is untouched. -/
theorem untouched_listed {session : Nat} {cutoff : ClientInstant}
    {left : List (SocketAddr × Nat)} {toDrop : List SocketAddr} (held : ReapsUntouched idle state)
    (point : state.reaper = .scanning cutoff left toDrop)
    (stale : state.idle cutoff session = true) : state.Untouched idle session := by
  intro time member
  obtain ⟨early, _⟩ := held.scanning cutoff left toDrop point
  unfold RuleState.idle at stale
  split at stale
  · rename_i cell present
    have stamped := held.stamped session time cell member present
    have old : cell.lastActive < cutoff := of_decide_eq_true stale
    calc time + idle ≤ cell.lastActive + idle := Nat.add_le_add_right stamped idle
      _ < cutoff + idle := Nat.add_lt_add_right old idle
      _ ≤ state.clock := early
  · contradiction

/-- Listed sources keep an untouched session. -/
theorem listed_step (tasked : Tasked state) (held : ReapsUntouched config.idleNanos state)
    (spares : state.sparesListed event = true)
    (taken : state.step crypto text config event = some next) (src : SocketAddr)
    (member : src ∈ next.reaper.toDrop) : ∃ session, next.sessions.lookup src = some session ∧
      next.Untouched config.idleNanos session := by
  have old (listed : src ∈ state.reaper.toDrop) : ∃ session,
      state.sessions.lookup src = some session ∧ next.Untouched config.idleNanos session := by
    obtain ⟨session, live, untouched⟩ := held.listed src listed
    exact ⟨session, live, untouched_step spares taken listed live untouched⟩
  cases rule_step taken with
  | inserted other session payload point free =>
    obtain ⟨recorded, live, untouched⟩ := old member
    have different : src ≠ other := by
      rintro rfl
      rw [(tasked.inserting src session payload point).1] at live
      contradiction
    exact ⟨recorded, (AList.lookup_insert_ne different).trans live, untouched⟩
  | ticked point late => contradiction
  | scanned other cutoff left toDrop session point first =>
    have before (listed : src ∈ toDrop) : src ∈ state.reaper.toDrop := by
      rw [point]
      exact listed
    have member : src ∈ if state.idle cutoff session then toDrop ++ [other] else toDrop := member
    by_cases stale : state.idle cutoff session = true
    · rw [if_pos stale] at member
      rcases List.mem_append.mp member with listed | added
      · exact old (before listed)
      · obtain rfl := List.mem_singleton.mp added
        have live := (held.scanning cutoff left toDrop point).2 src session
          (List.mem_of_find?_eq_some first)
        exact ⟨session, live, fun time recorded => untouched_listed held point stale time recorded⟩
    · rw [if_neg stale] at member
      exact old (before member)
  | finished cutoff toDrop point =>
    refine old ?_
    rw [point]
    have member : src ∈ (if toDrop = [] then RuleReaper.ticking else .removing toDrop).toDrop :=
      member
    split at member
    · contradiction
    · exact member
  | removed toDrop point => contradiction
  | _ => exact old member

/-- Removed sessions are untouched. -/
theorem reaped_untouched_step (held : ReapsUntouched idle state)
    (taken : state.step crypto text config event = some next) :
    next.trace.Pairwise (touchedBefore idle) := by
  obtain ⟨outputs, grown, added⟩ := history_step idle taken
  rw [grown]
  refine List.pairwise_append.mpr ⟨held.reaped, added.apart, fun earlier recorded later new => ?_⟩
  cases later with
  | reaped src session time =>
    obtain ⟨rfl, listed, live⟩ := added.reaped src session time new
    obtain ⟨other, present, untouched⟩ := held.listed src listed
    obtain rfl := Option.some.inj (present.symm.trans live)
    cases earlier with
    | touched toucher touched =>
      rintro rfl
      exact untouched touched recorded
    | _ => trivial
  | _ => cases earlier <;> trivial

/-- Every step that spares listed sessions keeps what the reaper relies on. -/
theorem reapsUntouched_step (tasked : Tasked state)
    (held : ReapsUntouched config.idleNanos state) (spares : state.sparesListed event = true)
    (taken : state.step crypto text config event = some next) :
    ReapsUntouched config.idleNanos next where
  past := past_step held taken
  stamped := stamped_step held taken
  scanning := scanning_step held taken
  listed := listed_step tasked held spares taken
  reaped := reaped_untouched_step held taken

end

/-- In every run that touches no session between its listing and its removal, a session is removed
only after it was not touched for the whole idle time. -/
theorem reaped_sessions_untouched (crypto : Crypto) (text : TextCodec) (config : UdpRule)
    (clock : ClientInstant) (events : List RuleEvent) (final : RuleState)
    (spares : Along (RuleState.step crypto text config)
      (fun state event => state.sparesListed event = true) (.start clock) events)
    (reached : run (RuleState.step crypto text config) (.start clock) events = some final) :
    final.trace.Pairwise (touchedBefore config.idleNanos) := by
  have initially : ReapsUntouched config.idleNanos (.start clock) := {
    past := nofun
    stamped := nofun
    scanning := nofun
    listed := nofun
    reaped := .nil }
  have kept (state : RuleState) (event : RuleEvent) (next : RuleState)
      (held : Tasked state ∧ ReapsUntouched config.idleNanos state)
      (spares : state.sparesListed event = true)
      (taken : state.step crypto text config event = some next) :
      Tasked next ∧ ReapsUntouched config.idleNanos next :=
    ⟨tasked_step held.1 taken, reapsUntouched_step held.1 held.2 spares taken⟩
  exact (run_invariant kept ⟨tasked_start clock, initially⟩ spares reached).2.reaped

/-- The sample rule with sessions that live for 120 idle seconds. -/
def sampleUdpRule : UdpRule := ⟨sampleRule, 120⟩

/-- A source sends a datagram through a new tunnel and is idle for 121 seconds; the reaper lists
it. -/
def idleSource : List RuleEvent :=
  [.receive sampleSource [1], .lookup, .opened (List.Vector.replicate 32 1) 5, .insert,
    .forward true, .advance 121000000000, .tick, .scan sampleSource, .scanned]

/-- The state a run of that rule leads to. -/
def sampleUdpRuleAfter (events : List RuleEvent) : Option RuleState :=
  run (RuleState.step checksumCrypto standardText sampleUdpRule) (.start 0) events

/-- Nothing happens until its session is removed. -/
def reapedSource : List RuleEvent := idleSource ++ [.remove]

/-- The source's session is removed for good reason. -/
theorem reapedSource_untouched : ∃ final, sampleUdpRuleAfter reapedSource = some final ∧
    final.trace.Pairwise (touchedBefore sampleUdpRule.idleNanos) := by
  have sample : (sampleUdpRuleAfter reapedSource).isSome = true ∧
      Along (RuleState.step checksumCrypto standardText sampleUdpRule)
        (fun state event => state.sparesListed event = true) (.start 0) reapedSource := by
    decide +kernel
  obtain ⟨completes, spares⟩ := sample
  obtain ⟨final, reached⟩ := Option.isSome_iff_exists.mp completes
  exact ⟨final, reached, reaped_sessions_untouched checksumCrypto standardText sampleUdpRule 0
    reapedSource final spares reached⟩

/-- The source sends its next datagram after the scan. -/
def wokenSource : List RuleEvent :=
  idleSource ++ [.receive sampleSource [2], .lookup, .forward true, .remove]

/-- The session of the woken source is removed all the same. -/
theorem touched_session_reaped : ¬ ∀ (crypto : Crypto) (text : TextCodec) (config : UdpRule)
    (clock : ClientInstant) (events : List RuleEvent) (final : RuleState),
    run (RuleState.step crypto text config) (.start clock) events = some final →
      final.trace.Pairwise (touchedBefore config.idleNanos) := by
  intro untouched
  have broken : ((sampleUdpRuleAfter wokenSource).map fun final =>
      decide (final.trace.Pairwise (touchedBefore sampleUdpRule.idleNanos))) = some false := by
    decide +kernel
  obtain ⟨final, reached, verdict⟩ := Option.map_eq_some_iff.mp broken
  exact of_decide_eq_false verdict
    (untouched checksumCrypto standardText sampleUdpRule 0 wokenSource final reached)

end LowPing.Client
