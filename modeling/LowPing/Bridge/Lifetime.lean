import LowPing.Bridge.Idle
import LowPing.Bridge.Datagrams
import LowPing.Bridge.Ownership

/-!
# How long the bridge keeps a session

A client that goes on using a tunnel needs the session it was accepted with: under its key, with its
AEAD key. The bridge keeps it as long as no scan finds it idle and no insert takes its key.
-/

namespace LowPing.Bridge

open Library

variable {env : BridgeEnv} {state next : BridgeState} {event : Event}

/-- A session under a key has an AEAD key. -/
def BridgeState.serving (state : BridgeState) (key : SessionKey) (aeadKey : AeadKey) : Bool :=
  match state.sessions.lookup key with
  | some session => decide (state.aeadKeyOf session = some aeadKey)
  | none => false

/-- A session with an AEAD key was accepted under a key. -/
def BridgeState.hasAccepted (state : BridgeState) (key : SessionKey) (aeadKey : AeadKey) : Bool :=
  state.trace.any fun output =>
    match output with
    | .accepted accepted session =>
      decide (accepted = key) && decide (state.aeadKeyOf session = some aeadKey)
    | _ => false

/-- A scan does not find the session of a key and an AEAD key idle, and an insert under the key has
the AEAD key and is not waiting to be removed. -/
def spares (state : BridgeState) (key : SessionKey) (aeadKey : AeadKey) : Event → Bool
  | .reaperScan scanned =>
    match state.reaper with
    | .scanning cutoff left _ =>
      match left.find? fun entry => entry.1 = scanned with
      | some (_, session) => !decide (scanned = key) ||
          !decide (state.aeadKeyOf session = some aeadKey) || !idle state cutoff session
      | none => true
    | _ => true
  | .insert task =>
    match state.tasks[task]? with
    | some (.inserting inserted session) => !decide (inserted = key) ||
        decide (session.aeadKey = aeadKey) && decide (key ∉ state.reaper.toDrop)
    | _ => true
  | _ => true

/-- What is under a key. -/
theorem serving_iff {key : SessionKey} {aeadKey : AeadKey} : state.serving key aeadKey = true ↔
    ∃ session, state.sessions.lookup key = some session ∧
      state.aeadKeyOf session = some aeadKey := by
  unfold BridgeState.serving
  cases found : state.sessions.lookup key with
  | none => simp
  | some session => simp

/-- What has been accepted. -/
theorem hasAccepted_iff {key : SessionKey} {aeadKey : AeadKey} :
    state.hasAccepted key aeadKey = true ↔
      ∃ session, .accepted key session ∈ state.trace ∧ state.aeadKeyOf session = some aeadKey := by
  unfold BridgeState.hasAccepted
  rw [List.any_eq_true]
  constructor
  · rintro ⟨output, member, matching⟩
    cases output with
    | accepted accepted session =>
      simp only [Bool.and_eq_true, decide_eq_true_eq] at matching
      obtain ⟨rfl, same⟩ := matching
      exact ⟨session, member, same⟩
    | _ => contradiction
  · rintro ⟨session, member, same⟩
    exact ⟨_, member, by simp [same]⟩

/-- The bridge serves a tunnel it has accepted, and is not about to remove it. -/
structure Kept (state : BridgeState) (key : SessionKey) (aeadKey : AeadKey) : Prop where
  /-- A session with the AEAD key is not under a listed key. -/
  unlisted : key ∈ state.reaper.toDrop → state.serving key aeadKey = false
  /-- An accepted session, or one like it, is in the table. -/
  served : state.hasAccepted key aeadKey = true → state.serving key aeadKey = true

/-- An accept that is on record after a step was on record before or is of the session inserted. -/
theorem hasAccepted_step {key : SessionKey} {aeadKey : AeadKey} (keyed : Keyed state)
    (taken : step env state event = some next) (accepted : next.hasAccepted key aeadKey = true) :
    state.hasAccepted key aeadKey = true ∨ ∃ task created, event = .insert task ∧
      state.tasks[task]? = some (.inserting key created) := by
  obtain ⟨session, recorded, same⟩ := hasAccepted_iff.mp accepted
  rcases accepted_step taken recorded with before | ⟨task, created, rfl, point, _⟩
  · exact .inl (hasAccepted_iff.mpr ⟨session, before,
      aeadKeyOf_before taken (keyed.bound key session before) same⟩)
  · exact .inr ⟨task, created, rfl, point⟩

/-- An insert under a key puts a session of its AEAD key there. -/
theorem serving_inserted {task : Nat} {key : SessionKey} {created : Session}
    (point : state.tasks[task]? = some (.inserting key created))
    (taken : step env state (.insert task) = some next) :
    next.serving key created.aeadKey = true := by
  obtain ⟨other, session, here, _, rfl⟩ := insert_ok taken
  obtain ⟨rfl, rfl⟩ := PacketTask.inserting.inj (Option.some.inj (point.symm.trans here))
  exact serving_iff.mpr ⟨state.cells.length, AList.lookup_insert _, by
    simp [BridgeState.aeadKeyOf]⟩

/-- What a step that spares a tunnel may do to its session: nothing but a removal from a listed key
takes it away. -/
theorem serving_step {key : SessionKey} {aeadKey : AeadKey}
    (spared : spares state key aeadKey event = true) (taken : step env state event = some next)
    (served : state.serving key aeadKey = true) (unlisted : key ∉ state.reaper.toDrop) :
    next.serving key aeadKey = true := by
  obtain ⟨session, found, own⟩ := serving_iff.mp served
  have same := aeadKeyOf_step taken own
  have footprint := (step_footprint taken).sessions
  generalize table : next.sessions = sessions at footprint
  cases footprint with
  | kept => exact serving_iff.mpr ⟨session, table ▸ found, same⟩
  | removed toDrop listed =>
    have absent : key ∉ toDrop := by
      rw [listed] at unlisted
      exact unlisted
    refine serving_iff.mpr ⟨session, ?_, same⟩
    rw [table]
    exact (Table.lookup_eraseAll_of_notMem state.sessions absent).trans found
  | inserted task other created present =>
    by_cases under : other = key
    · subst under
      have shared : created.aeadKey = aeadKey := by
        simp only [spares, present, decide_true, Bool.not_true, Bool.false_or, Bool.and_eq_true,
          decide_eq_true_eq] at spared
        exact spared.1
      rw [← shared]
      exact serving_inserted present taken
    · refine serving_iff.mpr ⟨session, ?_, same⟩
      rw [table, AList.lookup_insert_ne (Ne.symm under), found]

/-- A step that spares a tunnel leaves its session unlisted. -/
theorem unlisted_step {key : SessionKey} {aeadKey : AeadKey} (keyed : Keyed state)
    (scans : ScansLive state) (held : Kept state key aeadKey)
    (spared : spares state key aeadKey event = true) (taken : step env state event = some next)
    (listed : key ∈ next.reaper.toDrop) : next.serving key aeadKey = false := by
  rw [← Bool.not_eq_true]
  intro served
  obtain ⟨session, found, own⟩ := serving_iff.mp served
  -- A session in the table after the step was there before, or has just been inserted unlisted.
  have before (still : key ∈ state.reaper.toDrop) : False := by
    have sessions := (step_footprint taken).sessions
    have old (live : state.sessions.lookup key = some session) : False := by
      have bound := keyed.bound key session (keyed.live key session live)
      have serving := serving_iff.mpr ⟨session, live, aeadKeyOf_before taken bound own⟩
      rw [held.unlisted still] at serving
      contradiction
    generalize next.sessions = table at sessions found
    cases sessions with
    | kept => exact old found
    | removed toDrop point => exact old (Table.lookup_of_lookup_eraseAll found).2
    | inserted task other created present =>
      by_cases under : other = key
      · subst under
        simp [spares, present, still] at spared
      · rw [AList.lookup_insert_ne (Ne.symm under)] at found
        exact old found
  have reaper := (step_footprint taken).reaper
  generalize next.reaper = after at reaper listed
  cases reaper with
  | kept => exact before listed
  | ticked => contradiction
  | removed => contradiction
  | finished cutoff toDrop point =>
    apply before
    rw [point]
    split at listed
    · contradiction
    · exact listed
  | skipped scanned cutoff left toDrop examined point first holds =>
    apply before
    rw [point]
    exact listed
  | scanned scanned cutoff left toDrop examined point first =>
    have old : key ∈ toDrop → False := fun still => before (by rw [point]; exact still)
    rw [ReaperTask.toDrop] at listed
    split at listed
    · rename_i stale
      rcases List.mem_append.mp listed with still | added
      · exact old still
      · obtain rfl := List.mem_singleton.mp added
        have live := scans cutoff left toDrop point key examined (List.mem_of_find?_eq_some first)
        obtain ⟨_, _, _, _, here, _, rfl⟩ := reaperScan_ok taken
        obtain rfl := Option.some.inj (live.symm.trans found)
        have same : state.aeadKeyOf examined = some aeadKey := own
        simp [spares, point, first, same, stale] at spared
    · exact old listed

/-- The bridge goes on keeping a tunnel it is made to spare. -/
theorem kept_step {key : SessionKey} {aeadKey : AeadKey} (keyed : Keyed state)
    (scans : ScansLive state) (held : Kept state key aeadKey)
    (spared : spares state key aeadKey event = true) (taken : step env state event = some next) :
    Kept next key aeadKey where
  unlisted := unlisted_step keyed scans held spared taken
  served accepted := by
    rcases hasAccepted_step keyed taken accepted with before | ⟨task, created, rfl, point⟩
    · have served := held.served before
      refine serving_step spared taken served fun listed => ?_
      rw [held.unlisted listed] at served
      contradiction
    · have shared : created.aeadKey = aeadKey := by
        simp only [spares, point, decide_true, Bool.not_true, Bool.false_or, Bool.and_eq_true,
          decide_eq_true_eq] at spared
        exact spared.1
      rw [← shared]
      exact serving_inserted point taken

/-- A tunnel the bridge has never accepted is kept. -/
theorem kept_fresh {key : SessionKey} {aeadKey : AeadKey} (keyed : Keyed state)
    (fresh : state.hasAccepted key aeadKey = false) : Kept state key aeadKey where
  unlisted _ := by
    rw [← Bool.not_eq_true, serving_iff]
    rintro ⟨session, live, own⟩
    have accepted := hasAccepted_iff.mpr ⟨session, keyed.live key session live, own⟩
    rw [fresh] at accepted
    contradiction
  served accepted := by
    rw [fresh] at accepted
    contradiction

end LowPing.Bridge
