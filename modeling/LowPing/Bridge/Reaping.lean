import LowPing.Library.Machine
import LowPing.Library.Table
import LowPing.Bridge.Idle

/-!
# No idle session survives a pass

`idle_reaper` examines a table that others use at the same time: it skips a session whose mutex is
taken, by a datagram or by a frame for the client, and removes only after it has let go of the read
lock. All the same a session that has been idle for the whole timeout when a pass begins, and is not
used until its end, is gone by then: the scan comes to every entry, in whatever order, and what it
lists is removed.
-/

namespace LowPing.Bridge

open Library Library.Machine LowPing.Tunnel

/-- The keys the reaper has listed or has still to come to. -/
def ReaperTask.keys : ReaperTask → List SessionKey
  | .ticking => []
  | .scanning _ left toDrop => toDrop ++ left.map Prod.fst
  | .removing toDrop => toDrop

/-- Whether the mutex of a session is in use: an event takes it to forward a datagram, or is refused
then, or `downstream_sender` may have it. -/
def BridgeState.uses (state : BridgeState) (session : SessionId) (event : Event) : Bool :=
  state.sender.mayHold session ||
    match event with
    | .lock task =>
      match state.tasks[task]? with
      | some (.locking _ target _) => decide (target = session)
      | _ => false
    | _ => false

/-- Whether a pass of the reaper will still come to an entry of the table, or remove it. -/
def ReaperTask.pursues (reaper : ReaperTask) (cutoff : Instant) (key : SessionKey)
    (session : SessionId) : Prop :=
  match reaper with
  | .ticking => False
  | .scanning bound left toDrop => bound = cutoff ∧ ((key, session) ∈ left ∨ key ∈ toDrop)
  | .removing toDrop => key ∈ toDrop

/-- An idle session that the reaper is after, unless it has left the table already. -/
structure Pursued (cutoff : Instant) (key : SessionKey) (session : SessionId)
    (state : BridgeState) : Prop where
  /-- It is idle and its mutex free. -/
  idle : ∃ cell, state.cells[session]? = some cell ∧ cell.locked = false ∧
    cell.session.lastActive < cutoff
  /-- It is gone, or will be. -/
  doomed : state.sessions.lookup key ≠ some session ∨ state.reaper.pursues cutoff key session

section

variable {env : BridgeEnv} {state next : BridgeState} {event : Event} {cutoff : Instant}
  {key : SessionKey} {session : SessionId}

/-- The reaper comes to each key once. -/
theorem distinctKeys_step (held : state.reaper.keys.Nodup)
    (taken : step env state event = some next) : next.reaper.keys.Nodup := by
  have footprint := (step_footprint taken).reaper
  generalize next.reaper = reaper at footprint ⊢
  cases footprint with
  | kept => exact held
  | ticked bound earlier =>
    have keys : (ReaperTask.scanning bound
        (state.sessions.entries.map fun entry => (entry.1, entry.2)) []).keys =
        state.sessions.keys := by
      simp only [ReaperTask.keys, List.nil_append, List.map_map]
      rfl
    rw [keys]
    exact AList.keys_nodup state.sessions
  | scanned other bound left toDrop target point first =>
    rw [point] at held
    have removed : (left.map Prod.fst).Perm (other :: (left.erase (other, target)).map Prod.fst) :=
      (List.perm_cons_erase (List.mem_of_find?_eq_some first)).map Prod.fst
    have all : (toDrop ++ other :: (left.erase (other, target)).map Prod.fst).Nodup :=
      (removed.append_left toDrop).nodup_iff.mp held
    simp only [ReaperTask.keys]
    split
    · simpa using all
    · exact all.sublist ((List.Sublist.refl toDrop).append (List.sublist_cons_self _ _))
  | skipped other bound left toDrop target point first holds =>
    rw [point] at held
    exact held.sublist ((List.Sublist.refl toDrop).append (List.erase_sublist.map Prod.fst))
  | finished bound toDrop point =>
    rw [point] at held
    split
    · exact List.nodup_nil
    · simpa [ReaperTask.keys] using held
  | removed => exact List.nodup_nil

/-- An idle session that nobody uses stays idle. -/
theorem idle_step (unused : state.uses session event = false)
    (held : ∃ cell, state.cells[session]? = some cell ∧ cell.locked = false ∧
      cell.session.lastActive < cutoff)
    (taken : step env state event = some next) :
    ∃ cell, next.cells[session]? = some cell ∧ cell.locked = false ∧
      cell.session.lastActive < cutoff := by
  obtain ⟨cell, present, free, stamp⟩ := held
  have bound := (List.getElem?_eq_some_iff.mp present).1
  have footprint := (step_footprint taken).cells
  generalize next.cells = cells at footprint ⊢
  cases footprint with
  | kept => exact ⟨cell, present, free, stamp⟩
  | created task other created started =>
    exact ⟨cell, by rw [List.getElem?_append_left bound, present], free, stamp⟩
  | stamped task other target pkt held point found unheld =>
    have different : target ≠ session := by
      rintro rfl
      simp [BridgeState.uses, point] at unused
    exact ⟨cell, by rw [List.getElem?_set_ne different, present], free, stamp⟩
  | released event task other target header rest ends point =>
    by_cases same : target = session
    · subst same
      exact ⟨{ cell with locked := false }, by rw [unlock, List.getElem?_modify_eq, present]; rfl,
        rfl, stamp⟩
    · exact ⟨cell, by rw [unlock, List.getElem?_modify_ne _ _ same, present], free, stamp⟩
  | counted queued target held point found unheld =>
    by_cases same : target = session
    · subst same
      obtain rfl := Option.some.inj (present.symm.trans found)
      exact ⟨_, List.getElem?_set_self bound, rfl, stamp⟩
    · exact ⟨cell, by rw [List.getElem?_set_ne same, present], free, stamp⟩

/-- A session that has left the table does not come back: an insert makes a new one. -/
theorem gone_step (exists_ : session < state.cells.length)
    (gone : state.sessions.lookup key ≠ some session) (taken : step env state event = some next) :
    next.sessions.lookup key ≠ some session := by
  have footprint := (step_footprint taken).sessions
  generalize next.sessions = table at footprint ⊢
  cases footprint with
  | kept => exact gone
  | inserted task other created present =>
    by_cases same : key = other
    · rw [same, AList.lookup_insert]
      intro equal
      obtain rfl := Option.some.inj equal
      exact Nat.lt_irrefl _ exists_
    · rw [AList.lookup_insert_ne same]
      exact gone
  | removed toDrop listed =>
    exact fun found => gone (Table.lookup_of_lookup_eraseAll found).2

/-- A reaper that is after an idle session stays after it until it has removed it. -/
theorem pursues_step (unused : state.uses session event = false)
    (idle : ∃ cell, state.cells[session]? = some cell ∧ cell.locked = false ∧
      cell.session.lastActive < cutoff)
    (pursued : state.reaper.pursues cutoff key session)
    (taken : step env state event = some next) :
    next.sessions.lookup key ≠ some session ∨ next.reaper.pursues cutoff key session := by
  have footprint := (step_footprint taken).reaper
  generalize after : next.reaper = reaper at footprint ⊢
  cases footprint with
  | kept => exact .inr pursued
  | ticked bound earlier =>
    obtain ⟨_, resting, _⟩ := reaperTick_ok taken
    rw [resting] at pursued
    exact pursued.elim
  | scanned other bound left toDrop target point first =>
    rw [point] at pursued
    obtain ⟨rfl, ahead | listed⟩ := pursued
    · by_cases same : (key, session) = (other, target)
      · obtain ⟨rfl, rfl⟩ := Prod.mk.inj same
        obtain ⟨cell, present, free, stamp⟩ := idle
        have listed : Bridge.idle state bound session = true := by
          simp [Bridge.idle, present, free, stamp]
        exact .inr ⟨rfl, .inr (by simp [listed])⟩
      · exact .inr ⟨rfl, .inl ((List.mem_erase_of_ne same).mpr ahead)⟩
    · refine .inr ⟨rfl, .inr ?_⟩
      split
      · exact List.mem_append_left _ listed
      · exact listed
  | skipped other bound left toDrop target point first holds =>
    rw [point] at pursued
    obtain ⟨rfl, ahead | listed⟩ := pursued
    · by_cases same : (key, session) = (other, target)
      · obtain ⟨rfl, rfl⟩ := Prod.mk.inj same
        simp [BridgeState.uses, holds] at unused
      · exact .inr ⟨rfl, .inl ((List.mem_erase_of_ne same).mpr ahead)⟩
    · exact .inr ⟨rfl, .inr listed⟩
  | finished bound toDrop point =>
    rw [point] at pursued
    obtain ⟨_, ahead | listed⟩ := pursued
    · contradiction
    · rw [if_neg (List.ne_nil_of_mem listed)]
      exact .inr listed
  | removed toDrop point =>
    rw [point] at pursued
    obtain ⟨other, listed, rfl⟩ := reaperRemove_ok taken
    obtain rfl := ReaperTask.removing.inj (point.symm.trans listed)
    left
    rw [show (toDrop.foldl (fun table key => table.erase key) state.sessions).lookup key = none from
      Table.lookup_eraseAll_of_mem state.sessions pursued]
    exact (Option.some_ne_none session).symm

/-- What the reaper is after stays pursued while nobody uses it. -/
theorem pursued_step (held : Pursued cutoff key session state)
    (unused : state.uses session event = false) (taken : step env state event = some next) :
    Pursued cutoff key session next where
  idle := idle_step unused held.idle taken
  doomed := by
    obtain ⟨cell, present, _⟩ := held.idle
    rcases held.doomed with gone | pursued
    · exact .inl (gone_step (List.getElem?_eq_some_iff.mp present).1 gone taken)
    · exact pursues_step unused held.idle pursued taken

/-- A pass that begins when a session has been idle for the whole timeout is after it. -/
theorem pursued_tick {cell : SessionCell} (live : state.sessions.lookup key = some session)
    (present : state.cells[session]? = some cell) (free : cell.locked = false)
    (idle : cell.session.lastActive < state.clock - env.config.idleTimeout)
    (ticked : step env state .reaperTick = some next) :
    Pursued (state.clock - env.config.idleTimeout) key session next := by
  obtain ⟨bound, _, earlier, rfl⟩ := reaperTick_ok ticked
  have same : bound = state.clock - env.config.idleTimeout := by
    simp only [instantSub] at earlier
    split at earlier
    · contradiction
    · exact (Option.some.inj earlier).symm
  refine ⟨⟨cell, present, free, idle⟩, .inr ⟨same, .inl ?_⟩⟩
  exact List.mem_map.mpr ⟨⟨key, session⟩, AList.mem_lookup_iff.mp live, rfl⟩

end

/-- A session that has been idle for the whole timeout when the reaper wakes up, with its mutex
free, and whose mutex nobody has or takes until the reaper awaits its next tick, neither a datagram
nor a frame for the client, is then no longer in the table, whatever else happens meanwhile. -/
theorem idle_session_reaped {env : BridgeEnv} {state scanning final : BridgeState}
    {events : List Event} {key : SessionKey} {session : SessionId} {cell : SessionCell}
    (live : state.sessions.lookup key = some session)
    (present : state.cells[session]? = some cell) (free : cell.locked = false)
    (idle : cell.session.lastActive < state.clock - env.config.idleTimeout)
    (ticked : step env state .reaperTick = some scanning)
    (passed : run (step env) scanning events = some final) (done : final.reaper = .ticking)
    (unused : Along (step env) (fun state event => state.uses session event = false) scanning
      events) : final.sessions.lookup key ≠ some session := by
  have pursued : Pursued (state.clock - env.config.idleTimeout) key session final :=
    run_invariant (fun _ _ _ held unused taken => pursued_step held unused taken)
      (pursued_tick live present free idle ticked) unused passed
  rcases pursued.doomed with gone | still
  · exact gone
  · rw [done] at still
    exact still.elim

/-- The first client sends a frame and is silent for longer than the timeout. -/
def silentClient : List Event :=
  firstAccept ++ [.receive (samplePeer 1) (firstFrame 0 [1, 2]), .poll 1 1000, .lock 1,
    .writeDone 1, .advance 330000000000]

/-- A pass of the reaper, during which its destination yields some bytes. -/
def passWithAnswer : List Event :=
  [.reaperScan sampleKey, .drain 0 [1, 2, 3], .reaperScanned, .senderReceive, .reaperRemove]

/-- The session of the silent client is removed in that pass. -/
theorem silentClient_reaped : ∃ state scanning final,
    run (step (sampleEnv 8)) (.start 0) silentClient = some state ∧
    state.sessions.lookup sampleKey = some 0 ∧
    step (sampleEnv 8) state .reaperTick = some scanning ∧
    run (step (sampleEnv 8)) scanning passWithAnswer = some final ∧
    final.sessions.lookup sampleKey ≠ some 0 := by
  have sample : ((run (step (sampleEnv 8)) (.start 0) silentClient).bind fun state =>
      state.cells[0]?.bind fun cell => (step (sampleEnv 8) state .reaperTick).bind fun scanning =>
        (run (step (sampleEnv 8)) scanning passWithAnswer).map fun final =>
          decide (state.sessions.lookup sampleKey = some 0 ∧ cell.locked = false ∧
            cell.session.lastActive < state.clock - (sampleEnv 8).config.idleTimeout ∧
            final.reaper = .ticking ∧
            Along (step (sampleEnv 8)) (fun state event => state.uses 0 event = false) scanning
              passWithAnswer)) = some true := by
    simp only [silentClient, firstAccept, firstFrame, sampleTunnel_eq]
    decide +kernel
  obtain ⟨state, reached, sample⟩ := Option.bind_eq_some_iff.mp sample
  obtain ⟨cell, present, sample⟩ := Option.bind_eq_some_iff.mp sample
  obtain ⟨scanning, ticked, sample⟩ := Option.bind_eq_some_iff.mp sample
  obtain ⟨final, passed, verdict⟩ := Option.map_eq_some_iff.mp sample
  obtain ⟨live, free, idle, done, unused⟩ := of_decide_eq_true verdict
  exact ⟨state, scanning, final, reached, live, ticked, passed,
    idle_session_reaped live present free idle ticked passed done unused⟩

end LowPing.Bridge
