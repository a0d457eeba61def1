import LowPing.Capture.Accounting
import LowPing.Capture.Reaping
import LowPing.Client.Stickiness

/-!
# Runs of the smart capture loop

The capture loop of smart mode from its start-up on, with measurements arriving at any moment. What
its resolver answers is what the router decided at a moment of the last minute, so a packet enters a
tunnel only if a bridge paid then, and the flow table leads to no address but the listeners'. The
loop itself fails only where it drops idle flows before the clock has run for their idle period.
-/

namespace LowPing.Client

open LowPing.Capture LowPing.Library
open Machine (run run_concat run_history_invariant)

section

variable {F : Type} [Add F] [LT F] [DecidableLT F]

/-- What a router decides about an address with this direct RTT: the bridge with the least RTT, if
it beats the direct path by the margin. -/
def Router.Decides (router : Router F) (direct : F) (ip : IpAddr) : RouteAction → Prop
  | .rewriteTo target => ∃ i total b,
      router.bestBridge (router.aws.regionFor ip) = some (i, total) ∧
        total + router.marginMs < direct ∧ router.bridges[i]? = some b ∧
        target = ⟨.v4 (Ipv4Addr.new 127 0 0 1), b.listenPort⟩
  | .passthrough => ∀ i total,
      router.bestBridge (router.aws.regionFor ip) = some (i, total) →
        ¬ total + router.marginMs < direct

variable [Top F]

/-- At some event of a run the loop asked about the address at this time, and the router decided so
on what was measured by then. -/
def Decided (resolver : SmartResolver F) (first : Router F) (start : SmartCapture F)
    (events : List (CaptureEvent F)) (ip : IpAddr) (time : Instant) (action : RouteAction) : Prop :=
  ∃ past asking fields earlier router, past ++ [asking] <+: events ∧
    run (SmartCapture.step resolver) start past = some earlier ∧
    asking.asked = some (fields, time) ∧ .v4 fields.dstIp = ip ∧
    earlier.routers[resolver.router]? = some router ∧ first.SameSetup router ∧
    router.Decides (resolver.directRtt ip) ip action

/-- The resolver's router is as it was set up, and each decision it keeps was made in the run. -/
def Shares (resolver : SmartResolver F) (first : Router F) (start : SmartCapture F)
    (events : List (CaptureEvent F)) (routers : List (Router F)) : Prop :=
  ∃ router, routers[resolver.router]? = some router ∧ first.SameSetup router ∧
    ∀ ip d, router.cache.lookup ip = some d → ∃ action, router.action d.route = some action ∧
      Decided resolver first start events ip d.decidedAt action

/-- The loop's state rests on decisions made in the run. -/
structure Founded (resolver : SmartResolver F) (first : Router F) (start : SmartCapture F)
    (events : List (CaptureEvent F)) (state : SmartCapture F) : Prop where
  /-- The run has come to it. -/
  reached : run (SmartCapture.step resolver) start events = some state
  /-- Its router keeps such decisions. -/
  shares : Shares resolver first start events state.routers
  /-- Every flow is where one of them led. -/
  flows : ∀ port entry, state.flows.lookup port = some entry → ∃ time,
    Decided resolver first start events (.v4 entry.origDstIp) time (.rewriteTo entry.redirectTarget)

variable {resolver : SmartResolver F} {first router : Router F} {start state next : SmartCapture F}
  {past events : List (CaptureEvent F)} {event : CaptureEvent F} {ip : IpAddr} {time now : Instant}
  {action : RouteAction} {routers : List (Router F)} {fields : Fields}

/-- What was decided in a run was decided in any that goes on from it. -/
theorem Decided.later (decided : Decided resolver first start past ip time action)
    (grown : past <+: events) : Decided resolver first start events ip time action := by
  obtain ⟨before, asking, fields, earlier, router, early, rest⟩ := decided
  exact ⟨before, asking, fields, earlier, router, early.trans grown, rest⟩

/-- A route chosen afresh has an action, which is the one decided. -/
theorem Router.fresh_decides (router : Router F) (direct : F) (ip : IpAddr) :
    ∃ action, router.action (router.fresh (router.aws.regionFor ip) direct).1 = some action ∧
      router.Decides direct ip action := by
  unfold fresh
  cases best : router.bestBridge (router.aws.regionFor ip) with
  | none =>
    refine ⟨.passthrough, rfl, ?_⟩
    intro i total found
    rw [best] at found
    contradiction
  | some found =>
    obtain ⟨i, total⟩ := found
    dsimp only
    by_cases pays : total + router.marginMs < direct
    · obtain ⟨b, present⟩ : ∃ b, router.bridges[i]? = some b :=
        ⟨_, List.getElem?_eq_getElem (bestBridge_lt best)⟩
      refine ⟨.rewriteTo ⟨.v4 (Ipv4Addr.new 127 0 0 1), b.listenPort⟩, ?_, ?_⟩
      · rw [if_pos pays, Router.action, present]
        rfl
      · exact ⟨i, total, b, best, pays, present, rfl⟩
    · rw [if_neg pays]
      refine ⟨.passthrough, rfl, ?_⟩
      intro j other again
      rw [best] at again
      obtain ⟨rfl, rfl⟩ := Prod.mk.inj (Option.some.inj again)
      exact pays

/-- A decision still valid is the answer, and the router goes on as it is. -/
theorem cached_shares (event : CaptureEvent F)
    (shares : Shares resolver first start past routers)
    (shared : routers[resolver.router]? = some router) {route : Route}
    (hit : router.cached now (.v4 fields.dstIp) = some route) : ∃ action time,
      resolver.resolve routers now (sentTo fields) fields.protocol =
        some (action, routers.set resolver.router router) ∧
      now - time < first.rerouteInterval ∧
      Decided resolver first start (past ++ [event]) (.v4 fields.dstIp) time action ∧
      Shares resolver first start (past ++ [event]) (routers.set resolver.router router) := by
  obtain ⟨_, found, setup, kept⟩ := shares
  obtain rfl := Option.some.inj (shared.symm.trans found)
  have grown : past <+: past ++ [event] := List.prefix_append _ _
  have picked := @Router.pick_hit _ _ _ _ _ router now (sentTo fields) route hit
    (resolver.directRtt (sentTo fields).ip)
  obtain ⟨d, known, rfl, valid⟩ := Router.decision_of_cached hit
  obtain ⟨action, acted, decided⟩ := kept _ d known
  refine ⟨action, d.decidedAt, SmartResolver.resolve_picked shared picked acted,
    setup.rerouteInterval ▸ valid, decided.later grown, router,
    List.getElem?_set_self (List.getElem?_eq_some_iff.mp shared).1, setup, ?_⟩
  intro ip d' recorded
  obtain ⟨other, leads, made⟩ := kept ip d' recorded
  exact ⟨other, leads, made.later grown⟩

/-- A router that notes a decision made in the run goes on having such decisions only. -/
theorem Shares.note (shares : Shares resolver first start past routers)
    (shared : routers[resolver.router]? = some router) {entry : DecisionLog F}
    (acted : router.action entry.route = some action)
    (decided : Decided resolver first start (past ++ [event]) entry.dest.ip entry.time action) :
    Shares resolver first start (past ++ [event])
      (routers.set resolver.router (router.note entry)) := by
  obtain ⟨_, found, setup, kept⟩ := shares
  obtain rfl := Option.some.inj (shared.symm.trans found)
  have grown : past <+: past ++ [event] := List.prefix_append _ _
  refine ⟨_, List.getElem?_set_self (List.getElem?_eq_some_iff.mp shared).1,
    ⟨setup.bridges, setup.aws, setup.marginMs, setup.rerouteInterval⟩, ?_⟩
  intro ip d recorded
  by_cases same : ip = entry.dest.ip
  · subst same
    rw [Router.note, AList.lookup_insert] at recorded
    obtain rfl := Option.some.inj recorded
    refine ⟨action, ?_, decided⟩
    rw [← acted]
    exact Router.action_congr rfl _
  · rw [Router.note, AList.lookup_insert_ne same] at recorded
    obtain ⟨other, leads, made⟩ := kept ip d recorded
    refine ⟨other, ?_, made.later grown⟩
    rw [← leads]
    exact Router.action_congr rfl _

/-- A router with such decisions answers every packet, by one made within the interval, and goes on
having them. -/
theorem resolve_shares (reached : run (SmartCapture.step resolver) start past = some state)
    (shares : Shares resolver first start past state.routers)
    (asked : event.asked = some (fields, now)) : ∃ action routers time,
      resolver.resolve state.routers now (sentTo fields) fields.protocol = some (action, routers) ∧
      (time = now ∨ now - time < first.rerouteInterval) ∧
      Decided resolver first start (past ++ [event]) (.v4 fields.dstIp) time action ∧
      Shares resolver first start (past ++ [event]) routers := by
  obtain ⟨router, shared, setup, _⟩ := id shares
  cases hit : router.cached now (.v4 fields.dstIp) with
  | some route =>
    obtain ⟨action, time, answered, valid, decided, still⟩ :=
      cached_shares event shares shared hit
    exact ⟨action, _, time, answered, .inr valid, decided, still⟩
  | none =>
    -- The decision is made anew on what is measured now.
    have stale : router.cached now (sentTo fields).ip = none := hit
    obtain ⟨name, picked⟩ := Router.pick_stale stale (resolver.directRtt (sentTo fields).ip)
    obtain ⟨action, acted, decides⟩ := router.fresh_decides
      (resolver.directRtt (sentTo fields).ip) (sentTo fields).ip
    have decided : Decided resolver first start (past ++ [event]) (.v4 fields.dstIp) now action :=
      ⟨past, event, fields, state, router, List.prefix_rfl, reached, asked, rfl, shared, setup,
        decides⟩
    exact ⟨action, _, now, SmartResolver.resolve_picked shared picked acted, .inl rfl, decided,
      shares.note shared acted decided⟩

omit [Add F] [LT F] [DecidableLT F] [Top F] in
/-- The loop asks when it receives a packet. -/
theorem CaptureEvent.asked_packet {data : Bytes} {outbound : Bool}
    (asked : (CaptureEvent.packet data outbound now : CaptureEvent F).asked = some (fields, time)) :
    time = now := by
  cases outbound with
  | false => contradiction
  | true =>
    obtain ⟨_, _, same⟩ := Option.map_eq_some_iff.mp asked
    exact (Prod.mk.inj same).2.symm

/-- A step goes through unless it drops idle flows too early. -/
theorem Founded.step_isSome (founded : Founded resolver first start past state) :
    (state.step resolver event).isSome = true ↔ ∀ now, event = .reap now → flowIdle ≤ now := by
  cases event with
  | packet data outbound now =>
    refine ⟨fun _ _ same => (nomatch same), fun _ => ?_⟩
    dsimp only [SmartCapture.step]
    cases asked : (CaptureEvent.packet data outbound now : CaptureEvent F).asked with
    | none =>
      obtain ⟨after, result, processed⟩ :=
        process_total ⟨data, outbound, fun _ _ => .passthrough, now⟩ state.flows
      unfold CapturedPacket.process at processed
      dsimp only at processed ⊢
      rw [processed]
      rfl
    | some question =>
      obtain ⟨fields, time⟩ := question
      obtain rfl := CaptureEvent.asked_packet asked
      obtain ⟨action, routers, _, resolved, _⟩ :=
        resolve_shares founded.reached founded.shares asked
      obtain ⟨after, result, processed⟩ :=
        process_total ⟨data, outbound, fun _ _ => action, time⟩ state.flows
      unfold CapturedPacket.process at processed
      dsimp only at processed ⊢
      rw [resolved, Option.bind_some]
      dsimp only
      rw [processed]
      rfl
  | reap now =>
    dsimp only [SmartCapture.step]
    rw [Option.isSome_map, ← Option.ne_none_iff_isSome, ne_eq, reapFlows_none_iff, not_lt]
    constructor
    · intro late other same
      obtain rfl := CaptureEvent.reap.inj same
      exact late
    · intro late
      exact late now rfl
  | record router bridgeName rttMs =>
    exact ⟨fun _ _ same => (nomatch same), fun _ => rfl⟩

/-- A step keeps the state founded. -/
theorem Founded.step (founded : Founded resolver first start past state)
    (taken : state.step resolver event = some next) :
    Founded resolver first start (past ++ [event]) next := by
  have grown : past <+: past ++ [event] := List.prefix_append _ _
  have reached : run (SmartCapture.step resolver) start (past ++ [event]) = some next := by
    rw [run_concat, founded.reached]
    exact taken
  have still (port : UInt16) (entry : FlowEntry) (known : state.flows.lookup port = some entry) :
      ∃ time, Decided resolver first start (past ++ [event]) (.v4 entry.origDstIp) time
        (.rewriteTo entry.redirectTarget) := by
    obtain ⟨time, decided⟩ := founded.flows port entry known
    exact ⟨time, decided.later grown⟩
  obtain ⟨router, shared, setup, kept⟩ := founded.shares
  cases SmartCapture.step_turn taken with
  | passed fields now action routers asked resolved =>
    obtain ⟨_, _, _, answered, _, _, shares⟩ :=
      resolve_shares founded.reached founded.shares asked
    obtain ⟨rfl, rfl⟩ := Prod.mk.inj (Option.some.inj (answered.symm.trans resolved))
    exact ⟨reached, shares, still⟩
  | redirected fields now target routers asked resolved =>
    obtain ⟨_, _, time, answered, _, decided, shares⟩ :=
      resolve_shares founded.reached founded.shares asked
    obtain ⟨rfl, rfl⟩ := Prod.mk.inj (Option.some.inj (answered.symm.trans resolved))
    refine ⟨reached, shares, ?_⟩
    intro port entry known
    by_cases same : port = fields.srcPort
    · subst same
      dsimp only at known
      rw [AList.lookup_insert] at known
      obtain rfl := Option.some.inj known
      exact ⟨time, decided⟩
    · exact still port entry ((AList.lookup_insert_ne same).symm.trans known)
  | stamped flows unasked held =>
    refine ⟨reached, ⟨router, shared, setup, ?_⟩, ?_⟩
    · intro ip d known
      obtain ⟨action, leads, decided⟩ := kept ip d known
      exact ⟨action, leads, decided.later grown⟩
    · intro port entry known
      obtain ⟨old, recorded, origin, target⟩ := held port entry known
      have here : entry.origDstIp = old.origDstIp := IpAddr.v4.inj (SocketAddr.mk.inj origin).1
      rw [here, target]
      exact still port old recorded
  | recorded other bridgeName rttMs unasked =>
    refine ⟨reached, ?_, still⟩
    have measured : first.SameSetup (router.recordClientToBridge bridgeName rttMs) :=
      ⟨setup.bridges, setup.aws, setup.marginMs, setup.rerouteInterval⟩
    have later (ip : IpAddr) (d : Decision F) (known : router.cache.lookup ip = some d) :
        ∃ action, router.action d.route = some action ∧
          Decided resolver first start (past ++ [event]) ip d.decidedAt action := by
      obtain ⟨action, leads, decided⟩ := kept ip d known
      exact ⟨action, leads, decided.later grown⟩
    by_cases same : other = resolver.router
    · refine ⟨router.recordClientToBridge bridgeName rttMs, ?_, measured, later⟩
      rw [List.getElem?_modify, shared, Option.map_eq_map, Option.map_some, if_pos same]
    · refine ⟨router, ?_, setup, later⟩
      rw [List.getElem?_modify, shared, Option.map_eq_map, Option.map_some, if_neg same]

/-- Every run keeps the state founded. -/
theorem founded_run (initially : Founded resolver first start [] start)
    (reached : run (SmartCapture.step resolver) start events = some state) :
    Founded resolver first start events state :=
  run_history_invariant (fun _ _ _ _ founded taken => founded.step taken) initially reached

/-- A run goes through exactly if none of its steps drops idle flows too early. -/
theorem founded_run_isSome (initially : Founded resolver first start [] start) :
    (run (SmartCapture.step resolver) start events).isSome = true ↔
      ∀ now, CaptureEvent.reap now ∈ events → flowIdle ≤ now := by
  induction events using List.reverseRecOn with
  | nil => exact ⟨fun _ _ member => absurd member List.not_mem_nil, fun _ => rfl⟩
  | append_singleton past event ih =>
    rw [run_concat]
    constructor
    · intro goes now member
      obtain ⟨final, whole⟩ := Option.isSome_iff_exists.mp goes
      obtain ⟨state, before, taken⟩ := Option.bind_eq_some_iff.mp whole
      rcases List.mem_append.mp member with early | last
      · exact ih.mp (Option.isSome_iff_exists.mpr ⟨state, before⟩) now early
      · refine (founded_run initially before).step_isSome.mp
          (Option.isSome_iff_exists.mpr ⟨final, taken⟩) now ?_
        exact (List.mem_singleton.mp last).symm
    · intro late
      obtain ⟨state, before⟩ := Option.isSome_iff_exists.mp
        (ih.mpr fun now member => late now (List.mem_append_left _ member))
      rw [before, Option.bind_some, (founded_run initially before).step_isSome]
      rintro now rfl
      exact late now (List.mem_append_right _ (List.mem_singleton.mpr rfl))

/-! ## The loop by itself -/

/-- What a resolver answers at one moment, where it does not panic. -/
def SmartResolver.answers (resolver : SmartResolver F) (routers : List (Router F)) (now : Instant) :
    Resolver :=
  fun dst protocol =>
    ((resolver.resolve routers now dst protocol).map Prod.fst).getD .passthrough

/-- What the loop does to the flow table at an event, told without the routers. -/
def CaptureEvent.use (resolver : SmartResolver F) (routers : List (Router F)) :
    CaptureEvent F → Option LoopEvent
  | .packet data outbound now =>
    some (.packet ⟨data, outbound, resolver.answers routers now, now⟩)
  | .reap now => some (.reap flowIdle now)
  | .record .. => none

/-- What the loop does to the flow table over some events. -/
def SmartCapture.uses (resolver : SmartResolver F) : SmartCapture F → List (CaptureEvent F) →
    List LoopEvent
  | _, [] => []
  | state, event :: events => (event.use resolver state.routers).toList ++
      (state.step resolver event).elim [] fun next => next.uses resolver events

/-- A packet depends on no more of a resolver than the answer about its own destination. -/
theorem processPacket_answer {data : Bytes} {outbound : Bool} {left right : Resolver}
    {flows : FlowTable} (same : outbound = true → ∀ fields, HasFields data fields →
      left (sentTo fields) fields.protocol = right (sentTo fields) fields.protocol) :
    processPacket data outbound left flows now = processPacket data outbound right flows now := by
  unfold processPacket
  cases read : readFields data with
  | none => rfl
  | some parsed =>
    cases parsed with
    | none => rfl
    | some fields =>
      cases outbound with
      | false => rfl
      | true =>
        have answered := same rfl fields (readFields_iff.mp read)
        simp only [sentTo] at answered
        simp [rewriteOutbound, answered]

/-- Each step does to the flow table what the capture loop does. -/
theorem SmartCapture.step_use (taken : state.step resolver event = some next) :
    run loopStep state.flows (event.use resolver state.routers).toList = some next.flows := by
  cases event with
  | record router bridgeName rttMs =>
    obtain rfl := Option.some.inj taken
    rfl
  | reap now =>
    obtain ⟨flows, reaped, rfl⟩ := Option.map_eq_some_iff.mp taken
    exact (Machine.run_cons reaped []).trans rfl
  | packet data outbound now =>
    suffices used : loopStep state.flows
        (.packet ⟨data, outbound, resolver.answers state.routers now, now⟩) = some next.flows from
      (Machine.run_cons used []).trans rfl
    simp only [loopStep, captureStep, CapturedPacket.process]
    cases asked : (CaptureEvent.packet data outbound now : CaptureEvent F).asked with
    | none =>
      simp only [SmartCapture.step, asked] at taken
      obtain ⟨⟨flows, result⟩, processed, rfl⟩ := Option.map_eq_some_iff.mp taken
      have unasked : processPacket data outbound (resolver.answers state.routers now) state.flows
          now = some (flows, result) := by
        rw [← processed]
        refine processPacket_answer fun outward fields has => ?_
        subst outward
        rw [CaptureEvent.asked, readFields_iff.mpr has] at asked
        contradiction
      rw [unasked]
      rfl
    | some question =>
      obtain ⟨fields, time⟩ := question
      obtain rfl := CaptureEvent.asked_packet asked
      simp only [SmartCapture.step, asked] at taken
      obtain ⟨⟨action, routers⟩, resolved, taken⟩ := Option.bind_eq_some_iff.mp taken
      obtain ⟨⟨flows, result⟩, processed, rfl⟩ := Option.map_eq_some_iff.mp taken
      have answered : processPacket data outbound (resolver.answers state.routers time) state.flows
          time = some (flows, result) := by
        rw [← processed]
        refine processPacket_answer fun outward other has => ?_
        subst outward
        rw [CaptureEvent.asked, readFields_iff.mpr has] at asked
        obtain ⟨rfl, _⟩ := Prod.mk.inj (Option.some.inj asked)
        rw [SmartResolver.answers, resolved]
        rfl
      rw [answered]
      rfl

/-- Over a run the flow table becomes what the capture loop makes of it. -/
theorem SmartCapture.run_uses
    (reached : run (SmartCapture.step resolver) state events = some next) :
    run loopStep state.flows (state.uses resolver events) = some next.flows := by
  induction events generalizing state with
  | nil =>
    obtain rfl := Option.some.inj reached
    rfl
  | cons event events ih =>
    obtain ⟨middle, taken, rest⟩ := Option.bind_eq_some_iff.mp reached
    rw [SmartCapture.uses, Machine.run_append, SmartCapture.step_use taken, Option.bind_some, taken]
    exact ih rest

/-- Capture threads that use the flow table in the same way leave the same one behind. -/
theorem SmartCapture.same_flows {capture : WinDivertCapture} {checksums : Checksums}
    {schedule : List CapturingEvent} {capturing : Capturing} (empty : state.flows = ∅)
    (reached : run (SmartCapture.step resolver) state events = some next)
    (captured : run (Capturing.step capture checksums) .new schedule = some capturing)
    (same : capturing.history.map Prod.snd = state.uses resolver events) :
    capturing.control.flows = next.flows := by
  have alone := SmartCapture.run_uses reached
  rw [empty, ← same] at alone
  exact Option.some.inj ((balanced_run captured).table.symm.trans alone)

end

section

variable {F : Type} [NatCast F]

/-- The routers and the resolver in the course of a start-up of smart mode. -/
inductive SmartStarted (aws : Snapshot) (cfg : SmartRoutingConfig F) :
    List (Router F) → SmartResolver F → Prop where
  /-- Either start-up when it has started the capture; `run_with_tui` seeds its router only then. -/
  | capturing : SmartStarted aws cfg [Router.new aws cfg.bridges] ⟨0, cfg.directRttMs, aws⟩
  /-- `run_smart_mode`. -/
  | plain (routers : List (Router F)) (resolver : SmartResolver F)
      (started : runSmartMode aws cfg = some (routers, resolver)) :
      SmartStarted aws cfg routers resolver
  /-- `run_with_tui`. -/
  | tui : SmartStarted aws cfg (runWithTui aws cfg).1 (runWithTui aws cfg).2

variable [Add F] [LT F] [DecidableLT F] [Top F] {aws : Snapshot} {cfg : SmartRoutingConfig F}
  {routers : List (Router F)} {resolver : SmartResolver F}

/-- The resolver's router then has the configured bridges and no decisions. -/
theorem SmartStarted.founded (started : SmartStarted aws cfg routers resolver) :
    Founded resolver (Router.new aws cfg.bridges) ⟨routers, ∅⟩ [] ⟨routers, ∅⟩ := by
  have without (port : UInt16) (entry : FlowEntry)
      (known : (∅ : FlowTable).lookup port = some entry) : ∃ time, Decided resolver
        (Router.new aws cfg.bridges) ⟨routers, ∅⟩ [] (.v4 entry.origDstIp) time
        (.rewriteTo entry.redirectTarget) := by
    contradiction
  refine ⟨rfl, ?_, without⟩
  cases started with
  | capturing =>
    refine ⟨_, rfl, ⟨rfl, rfl, rfl, rfl⟩, ?_⟩
    intro ip d known
    contradiction
  | plain _ _ started =>
    obtain ⟨shared, _⟩ := plain_router started
    refine ⟨_, shared, ⟨rfl, rfl, rfl, rfl⟩, ?_⟩
    intro ip d known
    contradiction
  | tui =>
    refine ⟨_, tui_router aws cfg, ?_, ?_⟩
    · rw [Router.seeded]
      exact ⟨rfl, rfl, rfl, rfl⟩
    · intro ip d known
      rw [Router.seeded] at known
      contradiction

end

/-- From any point of a start-up the loop runs on exactly as long as it drops no idle flows before
the clock has run for their idle period. Every packet it asks about is then answered, by what the
router decided for the address at an event of the last minute on what was measured by then, and
every flow on record is where such a decision led. -/
theorem smart_loop_founded {F : Type} [NatCast F] [Add F] [LT F] [DecidableLT F] [Top F]
    (aws : Snapshot) (cfg : SmartRoutingConfig F) (routers : List (Router F))
    (resolver : SmartResolver F) (started : SmartStarted aws cfg routers resolver)
    (events : List (CaptureEvent F)) :
    ((run (SmartCapture.step resolver) ⟨routers, ∅⟩ events).isSome = true ↔
      ∀ now, CaptureEvent.reap now ∈ events → flowIdle ≤ now) ∧
    ∀ state, run (SmartCapture.step resolver) ⟨routers, ∅⟩ events = some state →
      (∀ event fields now, event.asked = some (fields, now) →
        ∃ action time, state.answer resolver event = some action ∧ now - time < 60 * 1000000000 ∧
          Decided resolver (Router.new aws cfg.bridges) ⟨routers, ∅⟩ (events ++ [event])
            (.v4 fields.dstIp) time action) ∧
      ∀ port entry, state.flows.lookup port = some entry → ∃ time,
        Decided resolver (Router.new aws cfg.bridges) ⟨routers, ∅⟩ events (.v4 entry.origDstIp) time
          (.rewriteTo entry.redirectTarget) := by
  have initially := started.founded
  refine ⟨founded_run_isSome initially, ?_⟩
  intro state reached
  have founded := founded_run initially reached
  refine ⟨?_, founded.flows⟩
  intro event fields now asked
  obtain ⟨action, _, time, resolved, fresh, decided, _⟩ :=
    resolve_shares founded.reached founded.shares asked
  refine ⟨action, time, ?_, ?_, decided⟩
  · rw [SmartCapture.answer, asked, Option.bind_some]
    dsimp only
    rw [resolved]
    rfl
  · rcases fresh with rfl | within
    · rw [Nat.sub_self]
      decide
    · exact within

/-- A game's packet, a slower measurement and a reaping that comes late enough. -/
def dallasEvents : List (CaptureEvent Float) :=
  [serverPacket 1000, .record 0 "dallas" 100, .reap 120000000000]

/-- The game's next packet is answered by a decision of the last minute; the flow was opened by one
of an earlier minute. -/
theorem dallas_founded : ∃ state,
    run (SmartCapture.step (runWithTui excerpt dallasConfig).2) dallasCapture dallasEvents =
      some state ∧
    (∃ action time, state.answer (runWithTui excerpt dallasConfig).2 (serverPacket 130000000000) =
        some action ∧ 130000000000 - time < 60 * 1000000000 ∧
      Decided (runWithTui excerpt dallasConfig).2 (Router.new excerpt dallasConfig.bridges)
        dallasCapture (dallasEvents ++ [serverPacket 130000000000]) serverAddr.ip time action) ∧
    ∃ entry time, state.flows.lookup 40000 = some entry ∧
      Decided (runWithTui excerpt dallasConfig).2 (Router.new excerpt dallasConfig.bridges)
        dallasCapture dallasEvents (.v4 entry.origDstIp) time
        (.rewriteTo entry.redirectTarget) := by
  obtain ⟨goes, holds⟩ := smart_loop_founded excerpt dallasConfig _ _ .tui dallasEvents
  have late (now : Instant) (member : CaptureEvent.reap now ∈ dallasEvents) : flowIdle ≤ now := by
    have same : CaptureEvent.reap now = (.reap 120000000000 : CaptureEvent Float) := by
      simpa [dallasEvents, serverPacket] using member
    rw [CaptureEvent.reap.inj same]
    decide
  obtain ⟨state, reached⟩ := Option.isSome_iff_exists.mp (goes.mpr late)
  have recorded : ((run (SmartCapture.step (runWithTui excerpt dallasConfig).2) dallasCapture
      dallasEvents).bind fun state => state.flows.lookup 40000).isSome = true := by
    decide +kernel
  have same : run (SmartCapture.step (runWithTui excerpt dallasConfig).2) dallasCapture
      dallasEvents = some state := reached
  rw [same, Option.bind_some] at recorded
  obtain ⟨entry, known⟩ := Option.isSome_iff_exists.mp recorded
  obtain ⟨answered, flows⟩ := holds state reached
  obtain ⟨time, decided⟩ := flows 40000 entry known
  exact ⟨state, same, answered (serverPacket 130000000000) _ _ rfl, entry, time, known, decided⟩

end LowPing.Client
