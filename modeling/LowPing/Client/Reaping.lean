import LowPing.Capture.Reaping
import LowPing.Client.RuleIdle

/-!
# The cutoffs of the client's reapers

The reaper of `run_udp_rule` and `reap_flows` both begin with a cutoff, the current instant minus
the idle period. From there a pass of the rule's reaper is followed through every interleaving with
the listener and the responders: its scan comes to each source once, and what it removes are the
sources whose session it found overdue. Neither reaper gets as far while the clock has run for less
than the idle period, for then the cutoff would lie before the clock's origin.
-/

namespace LowPing.Client

open Library Library.Machine
open Tunnel (sampleSource)
open Capture (overdue lt_cutoff_iff FlowsReaped flowsReaped_iff reapDue flowIdle turnReaped_iff)

/-- Whether a step is one of the reaper task. -/
def RuleEvent.ofReaper : RuleEvent → Bool
  | .tick | .scan _ | .scanned | .remove => true
  | _ => false

/-- Whether a session is overdue at a reading of the clock. -/
def RuleState.overdueAt (config : UdpRule) (now : ClientInstant) (state : RuleState)
    (session : Nat) : Bool :=
  (state.cells[session]?).any fun cell => overdue config.idleNanos now cell.lastActive

/-- The source a step examines, with whether its session is overdue then. -/
def RuleState.examine (config : UdpRule) (now : ClientInstant) (state : RuleState) :
    RuleEvent → Option (SocketAddr × Bool)
  | .scan src => some (src, (state.sessions.lookup src).any (state.overdueAt config now))
  | _ => none

/-- The sources a run examines, in its order. -/
def examined (crypto : Crypto) (text : TextCodec) (config : UdpRule) (now : ClientInstant) :
    RuleState → List RuleEvent → List (SocketAddr × Bool)
  | _, [] => []
  | state, event :: events =>
    (state.examine config now event).toList ++
      match state.step crypto text config event with
      | none => []
      | some next => examined crypto text config now next events

/-- The sources that were found overdue. -/
def foundOverdue (sources : List (SocketAddr × Bool)) : List SocketAddr :=
  (sources.filter Prod.snd).map Prod.fst

/-- A pass of a rule's reaper from a tick on, whatever the other tasks do meanwhile: it does not
panic and removes exactly the sources whose session is overdue at the tick. -/
structure RuleReaped (crypto : Crypto) (text : TextCodec) (config : UdpRule)
    (state : RuleState) : Prop where
  /-- The tick does not panic. -/
  starts : (state.tick config).isSome = true
  /-- From there the reaper always has a next step, up to the next tick. -/
  continues : ∀ events middle,
    run (RuleState.step crypto text config) state (.tick :: events) = some middle →
      middle.reaper ≠ .ticking →
        ∃ event, event.ofReaper = true ∧ (middle.step crypto text config event).isSome = true
  /-- The scan comes to each source of the map once and lists those that are overdue. -/
  scans : ∀ during scanned, .scanned ∉ during →
    run (RuleState.step crypto text config) state (.tick :: (during ++ [.scanned])) =
      some scanned →
    let sources := examined crypto text config state.clock state (.tick :: during)
    (sources.map Prod.fst).Perm state.sessions.keys ∧ scanned.sessions = state.sessions ∧
      scanned.reaper =
        if foundOverdue sources = [] then .ticking else .removing (foundOverdue sources)
  /-- The removal takes those sources out of the map and no others. -/
  removes : ∀ during waiting final, .scanned ∉ during →
    (∀ event ∈ waiting, event.ofReaper = false) →
    run (RuleState.step crypto text config) state
      (.tick :: (during ++ .scanned :: (waiting ++ [.remove]))) = some final →
    ∃ last, run (RuleState.step crypto text config) state
        (.tick :: (during ++ .scanned :: waiting)) = some last ∧
      ∀ src, final.sessions.lookup src =
        if src ∈ foundOverdue (examined crypto text config state.clock state (.tick :: during))
        then none else last.sessions.lookup src
  /-- A pass that nothing comes between leaves exactly the sessions that are not overdue. -/
  undisturbed : ∃ events final, (∀ event ∈ events, event.ofReaper = true) ∧
    run (RuleState.step crypto text config) state (.tick :: events) = some final ∧
      final.reaper = .ticking ∧ ∀ src session, final.sessions.lookup src = some session ↔
        state.sessions.lookup src = some session ∧
          state.overdueAt config state.clock session = false

section

variable {crypto : Crypto} {text : TextCodec} {config : UdpRule} {state next final : RuleState}
  {event : RuleEvent} {now : ClientInstant}

/-- Steps of other tasks leave the reaper where it is. -/
theorem reaper_kept (other : event.ofReaper = false)
    (taken : state.step crypto text config event = some next) : next.reaper = state.reaper := by
  cases rule_step taken with
  | ticked point late => contradiction
  | scanned src cutoff left toDrop session point first => contradiction
  | finished cutoff toDrop point => contradiction
  | removed toDrop point => contradiction
  | _ => rfl

/-- A responder ends by a step of its own. -/
theorem ends_other {position : Nat}
    (ends : event = .bridgeError position ∨ event = .answer position false) :
    event.ofReaper = false := by
  rcases ends with rfl | rfl
  · rfl
  · rfl

/-- During a scan steps of other tasks leave the map as it is. -/
theorem sessions_kept (other : event.ofReaper = false) (reading : state.reaper.reading = true)
    (taken : state.step crypto text config event = some next) :
    next.sessions = state.sessions := by
  cases rule_step taken with
  | inserted src session payload point free =>
    rw [reading] at free
    contradiction
  | removed toDrop point => contradiction
  | _ => rfl

/-- While the others go on the reaper waits for its removal with what it has listed. -/
theorem reaper_waits {waiting : List RuleEvent}
    (others : ∀ event ∈ waiting, event.ofReaper = false)
    (reached : run (RuleState.step crypto text config) state waiting = some final) :
    final.reaper = state.reaper := by
  induction waiting generalizing state with
  | nil =>
    obtain rfl := Option.some.inj reached
    rfl
  | cons event waiting ih =>
    obtain ⟨next, taken, rest⟩ := Option.bind_eq_some_iff.mp reached
    have later := ih (fun event member => others event (List.mem_cons_of_mem _ member)) rest
    rw [later, reaper_kept (others event List.mem_cons_self) taken]

/-- The sources examined by a run that goes on. -/
theorem examined_cons (taken : state.step crypto text config event = some next)
    (events : List RuleEvent) :
    examined crypto text config now state (event :: events) =
      (state.examine config now event).toList ++ examined crypto text config now next events := by
  rw [examined, taken]

/-- Only the scan examines. -/
theorem examine_other (other : event.ofReaper = false) :
    state.examine config now event = none := by
  cases event with
  | scan src => contradiction
  | _ => rfl

/-- The scan compares the stamp with the cutoff; that is comparing the age. -/
theorem idle_eq_overdueAt (late : config.idleNanos ≤ now) (session : Nat) :
    state.idle (now - config.idleNanos) session = state.overdueAt config now session := by
  unfold RuleState.idle RuleState.overdueAt
  cases state.cells[session]? with
  | none => rfl
  | some cell =>
    have same := lt_cutoff_iff late cell.lastActive
    rw [Option.any_some, Bool.eq_iff_iff, decide_eq_true_iff]
    exact same

/-- What the reaper can do in a scan: examine one of the entries left, or end with none left. -/
inductive ScanAfter (config : UdpRule) (state : RuleState) (cutoff : ClientInstant)
    (left : List (SocketAddr × Nat)) (toDrop : List SocketAddr) : RuleEvent → RuleState → Prop where
  /-- It examines an entry. -/
  | examined (src : SocketAddr) (session : Nat) (member : (src, session) ∈ left) :
      ScanAfter config state cutoff left toDrop (.scan src) { state with
        reaper := .scanning cutoff (left.erase (src, session))
          (if state.idle cutoff session then toDrop ++ [src] else toDrop) }
  /-- It has examined all of them. -/
  | finished (none : left = []) :
      ScanAfter config state cutoff left toDrop .scanned { state with
        reaper := if toDrop = [] then .ticking else .removing toDrop }

/-- Every step of the reaper in a scan is one of these. -/
theorem scan_step {cutoff : ClientInstant} {left : List (SocketAddr × Nat)}
    {toDrop : List SocketAddr} (point : state.reaper = .scanning cutoff left toDrop)
    (mine : event.ofReaper = true) (taken : state.step crypto text config event = some next) :
    ScanAfter config state cutoff left toDrop event next := by
  cases rule_step taken with
  | scanned src other entries listed session here first =>
    obtain ⟨rfl, rfl, rfl⟩ := RuleReaper.scanning.inj (point.symm.trans here)
    exact .examined src session (List.mem_of_find?_eq_some first)
  | finished other listed here =>
    obtain ⟨rfl, rfl, rfl⟩ := RuleReaper.scanning.inj (point.symm.trans here)
    exact .finished rfl
  | ticked here late => exact absurd (point.symm.trans here) nofun
  | removed listed here => exact absurd (point.symm.trans here) nofun
  | returned other position session src stage ends here =>
    rw [ends_other ends] at mine
    contradiction
  | _ => contradiction

/-- A scan under way comes to each entry it has left once and lists those that are overdue. -/
theorem scan_run {left : List (SocketAddr × Nat)} {toDrop : List SocketAddr}
    {during : List RuleEvent} (late : config.idleNanos ≤ now) (unfinished : .scanned ∉ during)
    (reached : run (RuleState.step crypto text config) state (during ++ [.scanned]) = some final)
    (point : state.reaper = .scanning (now - config.idleNanos) left toDrop)
    (live : ∀ src session, (src, session) ∈ left → state.sessions.lookup src = some session) :
    ((examined crypto text config now state during).map Prod.fst).Perm (left.map Prod.fst) ∧
      final.sessions = state.sessions ∧
      final.reaper =
        if toDrop ++ foundOverdue (examined crypto text config now state during) = [] then .ticking
        else .removing (toDrop ++ foundOverdue (examined crypto text config now state during)) := by
  induction during generalizing state left toDrop with
  | nil =>
    obtain ⟨next, taken, rest⟩ := Option.bind_eq_some_iff.mp reached
    obtain rfl := Option.some.inj rest
    cases scan_step point rfl taken with
    | finished none =>
      subst none
      refine ⟨.refl _, rfl, ?_⟩
      rw [examined, foundOverdue, List.filter_nil, List.map_nil, List.append_nil]
  | cons event during ih =>
    obtain ⟨next, taken, rest⟩ := Option.bind_eq_some_iff.mp reached
    have later : .scanned ∉ during := fun member =>
      unfinished (List.mem_cons_of_mem _ member)
    rw [examined_cons taken]
    cases mine : event.ofReaper with
    | false =>
      have kept := reaper_kept mine taken
      have same := sessions_kept mine (by rw [point]; rfl) taken
      rw [examine_other mine, ← same]
      exact ih later rest (kept.trans point) (by rwa [same])
    | true =>
      cases scan_step point mine taken with
      | finished none => exact absurd List.mem_cons_self unfinished
      | examined src session member =>
        have verdict : (state.sessions.lookup src).any (state.overdueAt config now) =
            state.idle (now - config.idleNanos) session := by
          rw [live src session member, Option.any_some, idle_eq_overdueAt late]
        obtain ⟨visited, unchanged, listed⟩ := ih later rest rfl fun other target remains =>
          live other target (List.mem_of_mem_erase remains)
        rw [RuleState.examine, Option.toList_some, List.singleton_append, verdict]
        refine ⟨?_, unchanged, ?_⟩
        · have split := (List.perm_cons_erase member).map Prod.fst
          exact (visited.cons src).trans split.symm
        · rw [listed]
          cases state.idle (now - config.idleNanos) session with
          | false => rfl
          | true =>
            have grown (found : List SocketAddr) :
                toDrop ++ [src] ++ found = toDrop ++ src :: found := List.append_assoc _ _ _
            simp only [↓reduceIte, grown]
            rfl

/-- A tick that does not panic starts a scan of the whole map. -/
theorem tick_step (taken : state.step crypto text config .tick = some next) :
    config.idleNanos ≤ state.clock ∧ next = { state with
      reaper := .scanning (state.clock - config.idleNanos)
        (state.sessions.entries.map fun entry => (entry.1, entry.2)) [] } := by
  cases rule_step taken with
  | ticked point late => exact ⟨late, rfl⟩
  | returned _ position session src stage ends point => exact absurd (ends_other ends) (by decide)

/-- A removal takes the listed sources out of the map. -/
theorem remove_step (taken : state.step crypto text config .remove = some next) :
    ∃ toDrop, state.reaper = .removing toDrop ∧ ∀ src, next.sessions.lookup src =
      if src ∈ toDrop then none else state.sessions.lookup src := by
  cases rule_step taken with
  | removed toDrop point =>
    refine ⟨toDrop, point, fun src => ?_⟩
    show (Table.eraseAll state.sessions toDrop).lookup src = _
    by_cases member : src ∈ toDrop
    · rw [if_pos member, Table.lookup_eraseAll_of_mem _ member]
    · rw [if_neg member, Table.lookup_eraseAll_of_notMem _ member]
  | returned _ position session src stage ends point => exact absurd (ends_other ends) (by decide)

/-- The tick does not panic exactly when the clock has run for the idle period. -/
theorem tick_isSome_iff (ticking : state.reaper = .ticking) :
    (state.tick config).isSome = true ↔ config.idleNanos ≤ state.clock := by
  rw [RuleState.tick, ticking]
  by_cases late : config.idleNanos ≤ state.clock
  · have passes : ¬ state.clock < config.udpIdleSecs.toNat * 1000000000 := Nat.not_lt.mpr late
    simp only [if_neg passes, Option.isSome_some, late]
  · have panics : state.clock < config.udpIdleSecs.toNat * 1000000000 := Nat.lt_of_not_le late
    simp only [if_pos panics, Option.isSome_none, late]
    exact iff_of_false Bool.false_ne_true id

/-- Away from its tick the reaper has a next step. -/
theorem reaper_continues (away : state.reaper ≠ .ticking) :
    ∃ event, event.ofReaper = true ∧ (state.step crypto text config event).isSome = true := by
  cases point : state.reaper with
  | ticking => exact absurd point away
  | scanning cutoff left toDrop =>
    cases left with
    | nil =>
      refine ⟨.scanned, rfl, ?_⟩
      rw [RuleState.step, RuleState.scanned, point]
      rfl
    | cons entry left =>
      refine ⟨.scan entry.1, rfl, ?_⟩
      have found : (entry :: left).find? (fun other => other.1 = entry.1) = some entry :=
        List.find?_cons_of_pos (decide_eq_true rfl)
      rw [RuleState.step, RuleState.scan, point]
      simp only [found, Option.isSome_some]
  | removing toDrop =>
    refine ⟨.remove, rfl, ?_⟩
    rw [RuleState.step, RuleState.remove, point]
    rfl

/-- From a tick to the end of its scan the reaper comes to each source of the map once. -/
theorem pass_scans {during : List RuleEvent} (unfinished : .scanned ∉ during)
    (reached : run (RuleState.step crypto text config) state (.tick :: (during ++ [.scanned])) =
      some final) :
    let sources := examined crypto text config state.clock state (.tick :: during)
    (sources.map Prod.fst).Perm state.sessions.keys ∧ final.sessions = state.sessions ∧
      final.reaper =
        if foundOverdue sources = [] then .ticking else .removing (foundOverdue sources) := by
  obtain ⟨ticked, taken, rest⟩ := Option.bind_eq_some_iff.mp reached
  obtain ⟨late, started⟩ := tick_step taken
  have live (src : SocketAddr) (session : Nat)
      (member : (src, session) ∈ state.sessions.entries.map fun entry => (entry.1, entry.2)) :
      state.sessions.lookup src = some session := by
    obtain ⟨entry, present, same⟩ := List.mem_map.mp member
    obtain ⟨rfl, rfl⟩ := Prod.mk.inj same
    exact AList.mem_lookup_iff.mpr present
  have keys : (state.sessions.entries.map fun entry => (entry.1, entry.2)).map Prod.fst =
      state.sessions.keys := List.map_map
  have scanned := scan_run late unfinished rest (by rw [started]) (by rwa [started])
  rw [keys] at scanned
  have unmoved : ticked.sessions = state.sessions := by rw [started]
  rw [examined_cons taken]
  rw [unmoved] at scanned
  exact scanned

/-- A finished pass removes what its scan found overdue. -/
theorem pass_removes {during waiting : List RuleEvent} (unfinished : .scanned ∉ during)
    (others : ∀ event ∈ waiting, event.ofReaper = false)
    (reached : run (RuleState.step crypto text config) state
      (.tick :: (during ++ .scanned :: (waiting ++ [.remove]))) = some final) :
    ∃ last, run (RuleState.step crypto text config) state
        (.tick :: (during ++ .scanned :: waiting)) = some last ∧
      ∀ src, final.sessions.lookup src =
        if src ∈ foundOverdue (examined crypto text config state.clock state (.tick :: during))
        then none else last.sessions.lookup src := by
  have schedule : .tick :: (during ++ .scanned :: (waiting ++ [.remove])) =
      (.tick :: (during ++ [.scanned])) ++ waiting ++ [RuleEvent.remove] := by simp
  have before : .tick :: (during ++ .scanned :: waiting) =
      (.tick :: (during ++ [.scanned])) ++ waiting := by simp
  rw [schedule, run_concat] at reached
  rw [before]
  obtain ⟨last, waited, taken⟩ := Option.bind_eq_some_iff.mp reached
  refine ⟨last, waited, ?_⟩
  rw [run_append] at waited
  obtain ⟨scanned, finished, idled⟩ := Option.bind_eq_some_iff.mp waited
  obtain ⟨_, _, listed⟩ := pass_scans unfinished finished
  have point := (reaper_waits others idled).trans listed
  obtain ⟨toDrop, removing, removed⟩ := remove_step taken
  rw [removing] at point
  split at point
  · contradiction
  · obtain rfl := RuleReaper.removing.inj point
    exact removed

/-- A scan that nothing comes between lists what is overdue of the entries it has left. -/
theorem run_scans (cutoff : ClientInstant) (left : List (SocketAddr × Nat))
    (toDrop : List SocketAddr) :
    run (RuleState.step crypto text config)
      { state with reaper := .scanning cutoff left toDrop }
      (left.map fun entry => .scan entry.1) = some { state with
        reaper := .scanning cutoff []
          (toDrop ++ (left.filter fun entry => state.idle cutoff entry.2).map Prod.fst) } := by
  induction left generalizing toDrop with
  | nil =>
    simp only [List.map_nil, List.filter_nil, List.append_nil]
    rfl
  | cons entry left ih =>
    have found : (entry :: left).find? (fun other => other.1 = entry.1) = some entry :=
      List.find?_cons_of_pos (decide_eq_true rfl)
    have taken : RuleState.step crypto text config
        { state with reaper := .scanning cutoff (entry :: left) toDrop } (.scan entry.1) =
        some { state with
          reaper := .scanning cutoff left
            (if state.idle cutoff entry.2 then toDrop ++ [entry.1] else toDrop) } := by
      simp only [RuleState.step, RuleState.scan, found, List.erase_cons_head]
      rfl
    rw [List.map_cons, run_cons taken, ih]
    cases stale : state.idle cutoff entry.2 with
    | false => rw [List.filter_cons_of_neg (by simp [stale]), if_neg Bool.false_ne_true]
    | true =>
      rw [List.filter_cons_of_pos (by simp [stale]), if_pos rfl, List.map_cons, List.append_assoc]
      rfl

/-- The end of such a pass removes what is listed. -/
theorem run_removal (crypto : Crypto) (text : TextCodec) (config : UdpRule) (state : RuleState)
    (cutoff : ClientInstant) (toDrop : List SocketAddr) :
    ∃ ending final, (∀ event ∈ ending, event.ofReaper = true) ∧
      run (RuleState.step crypto text config)
        { state with reaper := .scanning cutoff [] toDrop } ending = some final ∧
      final.reaper = .ticking ∧ final.sessions = Table.eraseAll state.sessions toDrop := by
  cases toDrop with
  | nil => exact ⟨[.scanned], _, by simp [RuleEvent.ofReaper], rfl, rfl, rfl⟩
  | cons src toDrop => exact ⟨[.scanned, .remove], _, by simp [RuleEvent.ofReaper], rfl, rfl, rfl⟩

/-- A pass that nothing comes between leaves the sessions that are not overdue. -/
theorem pass_undisturbed (ticking : state.reaper = .ticking)
    (late : config.idleNanos ≤ state.clock) :
    ∃ events final, (∀ event ∈ events, event.ofReaper = true) ∧
      run (RuleState.step crypto text config) state (.tick :: events) = some final ∧
        final.reaper = .ticking ∧ ∀ src session, final.sessions.lookup src = some session ↔
          state.sessions.lookup src = some session ∧
            state.overdueAt config state.clock session = false := by
  let entries := state.sessions.entries.map fun entry => (entry.1, entry.2)
  let cutoff := state.clock - config.idleNanos
  let toDrop := (entries.filter fun entry => state.idle cutoff entry.2).map Prod.fst
  obtain ⟨ticked, taken⟩ := Option.isSome_iff_exists.mp ((tick_isSome_iff ticking).mpr late)
  have taken : state.step crypto text config .tick = some ticked := taken
  obtain ⟨_, rfl⟩ := tick_step taken
  have listed (src : SocketAddr) : src ∈ toDrop ↔ ∃ session,
      state.sessions.lookup src = some session ∧
        state.overdueAt config state.clock session = true := by
    simp only [toDrop, entries, List.mem_map, List.mem_filter, ← idle_eq_overdueAt late]
    constructor
    · rintro ⟨⟨_, session⟩, ⟨⟨entry, present, same⟩, stale⟩, rfl⟩
      obtain ⟨rfl, rfl⟩ := Prod.mk.inj same
      exact ⟨entry.2, AList.mem_lookup_iff.mpr present, stale⟩
    · rintro ⟨session, live, stale⟩
      exact ⟨(src, session), ⟨⟨⟨src, session⟩, AList.mem_lookup_iff.mp live, rfl⟩, stale⟩, rfl⟩
  have scanned : run (RuleState.step crypto text config) state
      (.tick :: (entries.map fun entry => .scan entry.1)) =
        some { state with reaper := .scanning cutoff [] toDrop } := by
    rw [run_cons taken, run_scans]
    rfl
  have others (src : SocketAddr) (session : Nat) :
      state.sessions.lookup src = some session ∧ src ∉ toDrop ↔
        state.sessions.lookup src = some session ∧
          state.overdueAt config state.clock session = false := by
    rw [listed]
    refine and_congr_right fun live => ?_
    constructor
    · intro unlisted
      exact Bool.eq_false_iff.mpr fun stale => unlisted ⟨session, live, stale⟩
    · rintro young ⟨other, found, stale⟩
      obtain rfl := Option.some.inj (live.symm.trans found)
      rw [young] at stale
      contradiction
  have mine : ∀ event ∈ entries.map fun entry => RuleEvent.scan entry.1, event.ofReaper = true := by
    intro event member
    obtain ⟨entry, _, rfl⟩ := List.mem_map.mp member
    rfl
  obtain ⟨ending, final, mineToo, ended, again, erased⟩ :=
    run_removal crypto text config state cutoff toDrop
  refine ⟨(entries.map fun entry => .scan entry.1) ++ ending, final, fun event member => ?_, ?_,
    again, fun src session => ?_⟩
  · exact (List.mem_append.mp member).elim (mine event) (mineToo event)
  · rw [← List.cons_append, run_append, scanned]
    exact ended
  · rw [erased, ← others]
    constructor
    · intro kept
      obtain ⟨unlisted, live⟩ := Table.lookup_of_lookup_eraseAll kept
      exact ⟨live, unlisted⟩
    · rintro ⟨live, unlisted⟩
      rw [Table.lookup_eraseAll_of_notMem _ unlisted, live]

/-- A pass of a rule's reaper does what it is for exactly when the clock has run for the idle
period at its tick. -/
theorem ruleReaped_iff (ticking : state.reaper = .ticking) :
    RuleReaped crypto text config state ↔ config.idleNanos ≤ state.clock := by
  constructor
  · intro reaped
    exact (tick_isSome_iff ticking).mp reaped.starts
  · intro late
    exact {
      starts := (tick_isSome_iff ticking).mpr late
      continues := fun _ _ _ away => reaper_continues away
      scans := fun _ _ unfinished reached => pass_scans unfinished reached
      removes := fun _ _ _ unfinished others reached => pass_removes unfinished others reached
      undisturbed := pass_undisturbed ticking late }

end

/-- Each reaper of the client does not panic and removes exactly what is overdue if and only if the
clock, where it is read for the cutoff, has run for the idle period: `reap_flows` for every table
and period, the turn of the capture loop where a reaping is due, and every pass of a rule's reaper
from a tick on. -/
theorem reapers_exact_iff (flows : Capture.FlowTable) (idle now : Nat) (control : Capture.Control)
    (thread lastReap turnNow : Nat) (point : control.threads[thread]? = some (.looping lastReap))
    (set : control.running = true) (crypto : Crypto) (text : TextCodec) (config : UdpRule)
    (state : RuleState) (ticking : state.reaper = .ticking) :
    (FlowsReaped flows idle now ↔ idle ≤ now) ∧
      (control.TurnReaped thread lastReap turnNow ↔
        (reapDue lastReap turnNow = true → flowIdle ≤ turnNow)) ∧
      (RuleReaped crypto text config state ↔ config.idleNanos ≤ state.clock) :=
  ⟨flowsReaped_iff, turnReaped_iff point set, ruleReaped_iff ticking⟩

/-- A flow of port 40000 last seen at the clock's origin and one of port 40001 two minutes later. -/
def agedFlows : Capture.FlowTable :=
  ((∅ : Capture.FlowTable).insert 40000
    ⟨.new 18 88 19 234, 22222, ⟨.v4 (.new 127 0 0 1), 9701⟩, 0⟩).insert 40001
    ⟨.new 18 88 19 234, 22222, ⟨.v4 (.new 127 0 0 1), 9701⟩, 120000000000⟩

/-- A capture loop with these flows between two packets. -/
def loopingControl : Capture.Control :=
  { Capture.Control.new with running := true, flows := agedFlows, threads := [.looping 0] }

/-- A source that sends at the clock's origin and another that sends two minutes later, ten seconds
ago. -/
def agedSources : List RuleEvent :=
  [.receive sampleSource [1], .lookup, .opened (List.Vector.replicate 32 1) 5, .insert,
    .forward true, .advance 120000000000, .receive ⟨.v4 (.new 127 0 0 1), 40001⟩ [2], .lookup,
    .opened (List.Vector.replicate 32 1) 6, .insert, .forward true, .advance 10000000000]

/-- The reapers do what they should with periods of two minutes: the first flow and the first
session are overdue, and the second ones are not. -/
theorem later_reapers_exact :
    (Capture.reapFlows agedFlows flowIdle 130000000000).map AList.keys = some [40001] ∧
    FlowsReaped agedFlows flowIdle 130000000000 ∧
    loopingControl.TurnReaped 0 0 130000000000 ∧
    ∃ state, sampleUdpRuleAfter agedSources = some state ∧
      state.overdueAt sampleUdpRule state.clock 0 = true ∧
      state.overdueAt sampleUdpRule state.clock 1 = false ∧
      RuleReaped checksumCrypto standardText sampleUdpRule state := by
  have sample : (sampleUdpRuleAfter agedSources).map (fun state =>
      decide (state.reaper = .ticking ∧ sampleUdpRule.idleNanos ≤ state.clock ∧
        state.overdueAt sampleUdpRule state.clock 0 = true ∧
        state.overdueAt sampleUdpRule state.clock 1 = false)) = some true := by
    decide +kernel
  obtain ⟨state, reached, verdict⟩ := Option.map_eq_some_iff.mp sample
  obtain ⟨ticking, late, stale, young⟩ := of_decide_eq_true verdict
  obtain ⟨flows, turn, rule⟩ := reapers_exact_iff agedFlows flowIdle 130000000000 loopingControl 0 0
    130000000000 rfl rfl checksumCrypto standardText sampleUdpRule state ticking
  exact ⟨by decide +kernel, flows.mpr (by decide), turn.mpr (fun _ => by decide), state, reached,
    stale, young, rule.mpr late⟩

/-- A minute after the clock's origin both reapers panic with periods of two minutes, the rule's at
its first tick. -/
theorem young_clock_panics :
    (¬ ∀ (flows : Capture.FlowTable) (idle now : Nat), FlowsReaped flows idle now) ∧
    ¬ ∀ (crypto : Crypto) (text : TextCodec) (config : UdpRule) (state : RuleState),
      state.reaper = .ticking → RuleReaped crypto text config state := by
  constructor
  · intro reaped
    obtain ⟨kept, dropped, passed, _⟩ := reaped ∅ flowIdle 60000000000
    have panics : Capture.reapFlowsChecked ∅ flowIdle 60000000000 =
        .error (.overflow 60000000000 flowIdle) := rfl
    rw [panics] at passed
    contradiction
  · intro reaped
    have pass := reaped checksumCrypto standardText sampleUdpRule (.start 60000000000) rfl
    have panics : ((RuleState.start 60000000000).tick sampleUdpRule).isSome = false := by decide
    rw [pass.starts] at panics
    contradiction

end LowPing.Client
