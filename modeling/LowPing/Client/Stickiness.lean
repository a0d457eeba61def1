import LowPing.Capture.Attribution
import LowPing.Client.DecisionCache

/-!
# Stickiness of flows

The capture loop with a smart resolver, which it asks about every outbound packet and not only about
new flows. A decision is made anew after a minute, also for an address with flows on record, so a
flow keeps its listener if the bridge behind it is still the one to choose at each such moment.
-/

namespace LowPing.Client

open LowPing.Capture
open LowPing.Library
open Machine (run run_append run_concat Along along_append)

/-- The capture loop's state with that of its resolver. -/
structure SmartCapture (F : Type) where
  /-- The routers made so far; the resolver shares one. -/
  routers : List (Router F)
  /-- The flow table. -/
  flows : FlowTable

/-- What happens in the loop or to a router. -/
inductive CaptureEvent (F : Type) where
  /-- A packet is received. -/
  | packet (data : Bytes) (outbound : Bool) (now : Instant)
  /-- The loop drops idle flows. -/
  | reap (now : Instant)
  /-- `record_client_to_bridge`. -/
  | record (router : Nat) (bridgeName : String) (rttMs : F)

/-- What the loop asks its resolver about. -/
def CaptureEvent.asked {F : Type} : CaptureEvent F → Option (Fields × Instant)
  | .packet data true now => (readFields data).join.map (·, now)
  | _ => none

/-- Where a packet was sent. -/
def sentTo (fields : Fields) : SocketAddr := ⟨.v4 fields.dstIp, fields.dstPort⟩

/-- An outbound packet from a port to a destination. -/
def CaptureEvent.Sends {F : Type} (event : CaptureEvent F) (port : UInt16) (dst : SocketAddr) :
    Prop :=
  ∃ fields now, event.asked = some (fields, now) ∧ fields.srcPort = port ∧ sentTo fields = dst

variable {F : Type} [Add F] [LT F] [DecidableLT F] [Top F]

/-- The action for a packet. -/
def SmartCapture.answer (resolver : SmartResolver F) (state : SmartCapture F)
    (event : CaptureEvent F) : Option RouteAction :=
  event.asked.bind fun (fields, now) =>
    (resolver.resolve state.routers now (sentTo fields) fields.protocol).map Prod.fst

/-- One turn of the loop, or a measurement. -/
def SmartCapture.step (resolver : SmartResolver F) (state : SmartCapture F) :
    CaptureEvent F → Option (SmartCapture F)
  | .packet data outbound now =>
    match (CaptureEvent.packet (F := F) data outbound now).asked with
    | some (fields, _) =>
      (resolver.resolve state.routers now (sentTo fields) fields.protocol).bind
        fun (action, routers) =>
          (processPacket data outbound (fun _ _ => action) state.flows now).map fun (flows, _) =>
            ⟨routers, flows⟩
    | none =>
      (processPacket data outbound (fun _ _ => .passthrough) state.flows now).map fun (flows, _) =>
        { state with flows }
  | .reap now => (reapFlows state.flows flowIdle now).map fun flows => { state with flows }
  | .record router bridgeName rttMs =>
    some { state with
      routers := state.routers.modify router (·.recordClientToBridge bridgeName rttMs) }

/-- In a run two packets of one port and destination get the same action if in between the table
holds that destination for the port. -/
def StickyRun (resolver : SmartResolver F) (start : SmartCapture F)
    (events : List (CaptureEvent F)) : Prop :=
  ∀ before one middle two after, events = before ++ one :: (middle ++ two :: after) →
    ∀ first second last, run (SmartCapture.step resolver) start before = some first →
      first.step resolver one = some second →
      run (SmartCapture.step resolver) second middle = some last →
      ∀ port dst, one.Sends port dst → two.Sends port dst →
        (∀ taken state, taken <+: middle →
          run (SmartCapture.step resolver) second taken = some state →
          flowOrigin state.flows port = some dst) →
        last.answer resolver two = first.answer resolver one

/-- Where a decision on an address is made anew, the flows to it are on the listener of the bridge
with the least RTT, and this bridge beats the direct path by the margin. -/
def SmartCapture.Confirms (resolver : SmartResolver F) (state : SmartCapture F)
    (event : CaptureEvent F) : Prop :=
  ∀ fields now router, event.asked = some (fields, now) →
    state.routers[resolver.router]? = some router → router.cached now (.v4 fields.dstIp) = none →
    ∀ port entry, state.flows.lookup port = some entry → entry.origDstIp = fields.dstIp →
      ∃ i total b, router.bestBridge (router.aws.regionFor (.v4 fields.dstIp)) = some (i, total) ∧
        total + router.marginMs < resolver.directRtt (.v4 fields.dstIp) ∧
        router.bridges[i]? = some b ∧
        entry.redirectTarget = ⟨.v4 (Ipv4Addr.new 127 0 0 1), b.listenPort⟩

/-- Every flow is where the decision on its address leads. -/
def SmartCapture.Backed (resolver : SmartResolver F) (state : SmartCapture F) : Prop :=
  ∀ port entry, state.flows.lookup port = some entry →
    ∃ router d, state.routers[resolver.router]? = some router ∧
      router.cache.lookup (.v4 entry.origDstIp) = some d ∧
      router.action d.route = some (.rewriteTo entry.redirectTarget)

section

variable {resolver : SmartResolver F} {state next : SmartCapture F} {event : CaptureEvent F}
  {router : Router F} {port : UInt16} {dst : SocketAddr}

/-- A resolver that answers has picked a route with the router it shares. -/
theorem SmartResolver.resolve_ok {routers later : List (Router F)} {now : Instant}
    {protocol : Protocol} {action : RouteAction}
    (resolved : resolver.resolve routers now dst protocol = some (action, later)) :
    ∃ router route next, routers[resolver.router]? = some router ∧
      router.pick now dst (resolver.directRtt dst.ip) = some (route, next) ∧
      router.action route = some action ∧ later = routers.set resolver.router next := by
  obtain ⟨router, shared, resolved⟩ := Option.bind_eq_some_iff.mp resolved
  obtain ⟨⟨route, next⟩, picked, resolved⟩ := Option.bind_eq_some_iff.mp resolved
  obtain ⟨_, acted, resolved⟩ := Option.map_eq_some_iff.mp resolved
  obtain ⟨rfl, rfl⟩ := Prod.mk.inj resolved
  have bridges : next.bridges = router.bridges := by rw [Router.pick_sameTables picked]
  rw [Router.action.eq_def, bridges, ← Router.action.eq_def] at acted
  exact ⟨router, route, next, shared, picked, acted, rfl⟩

/-- A pick with an acceptable route is answered. -/
theorem SmartResolver.resolve_picked {routers : List (Router F)} {next : Router F} {now : Instant}
    {protocol : Protocol} {route : Route} {action : RouteAction}
    (shared : routers[resolver.router]? = some router)
    (picked : router.pick now dst (resolver.directRtt dst.ip) = some (route, next))
    (acted : router.action route = some action) :
    resolver.resolve routers now dst protocol =
      some (action, routers.set resolver.router next) := by
  have bridges : next.bridges = router.bridges := by rw [Router.pick_sameTables picked]
  rw [Router.action.eq_def, ← bridges, ← Router.action.eq_def] at acted
  rw [SmartResolver.resolve, shared, Option.bind_some, picked, Option.bind_some]
  dsimp only
  rw [acted]
  rfl

/-- An address with flows is routed to where they are, whether its decision is kept or made anew. -/
theorem pick_backed {fields : Fields} {now : Instant} {entry : FlowEntry}
    (backed : state.Backed resolver) (confirms : state.Confirms resolver event)
    (asked : event.asked = some (fields, now)) (known : state.flows.lookup port = some entry)
    (here : entry.origDstIp = fields.dstIp) : ∃ router route next,
      state.routers[resolver.router]? = some router ∧
      router.pick now (sentTo fields) (resolver.directRtt (sentTo fields).ip) =
        some (route, next) ∧
      router.action route = some (.rewriteTo entry.redirectTarget) := by
  obtain ⟨router, d, shared, decided, acted⟩ := backed port entry known
  rw [here] at decided
  cases hit : router.cached now (.v4 fields.dstIp) with
  | some route =>
    refine ⟨router, route, router, shared, Router.pick_hit hit _, ?_⟩
    obtain ⟨_, known, rfl, _⟩ := Router.decision_of_cached hit
    obtain rfl := Option.some.inj (known.symm.trans decided)
    exact acted
  | none =>
    obtain ⟨i, total, b, best, beats, present, target⟩ :=
      confirms fields now router asked shared hit port entry known here
    have fresh : router.fresh (router.aws.regionFor (.v4 fields.dstIp))
        (resolver.directRtt (.v4 fields.dstIp)) = (.viaBridge i, total) := by
      rw [Router.fresh, best]
      exact if_pos beats
    have missed : router.cached now (sentTo fields).ip = none := hit
    obtain ⟨name, picked⟩ := Router.pick_stale missed (resolver.directRtt (.v4 fields.dstIp))
    rw [sentTo, fresh] at picked
    generalize router.note _ = noted at picked
    refine ⟨router, .viaBridge i, noted, shared, picked, ?_⟩
    rw [Router.action, present, target]
    rfl

/-- A packet of a flow on record is answered with the flow's target. -/
theorem answer_backed (backed : state.Backed resolver) (confirms : state.Confirms resolver event)
    (sends : event.Sends port dst) (held : flowOrigin state.flows port = some dst) :
    ∃ entry, state.flows.lookup port = some entry ∧
      state.answer resolver event = some (.rewriteTo entry.redirectTarget) := by
  obtain ⟨fields, now, asked, _, rfl⟩ := sends
  obtain ⟨entry, known, origin⟩ := Option.map_eq_some_iff.mp held
  have here : entry.origDstIp = fields.dstIp :=
    IpAddr.v4.inj (SocketAddr.mk.inj origin).1
  obtain ⟨router, route, next, shared, picked, acted⟩ :=
    pick_backed backed confirms asked known here
  refine ⟨entry, known, ?_⟩
  rw [SmartCapture.answer, asked, Option.bind_some]
  dsimp only
  rw [SmartResolver.resolve_picked shared picked acted]
  rfl

/-- What a turn can do. -/
inductive SmartCapture.Turn (resolver : SmartResolver F) (state : SmartCapture F)
    (event : CaptureEvent F) : SmartCapture F → Prop where
  /-- An outbound packet leaves the flows alone. -/
  | passed (fields : Fields) (now : Instant) (action : RouteAction) (routers : List (Router F))
      (asked : event.asked = some (fields, now))
      (resolved : resolver.resolve state.routers now (sentTo fields) fields.protocol =
        some (action, routers)) :
      Turn resolver state event { state with routers }
  /-- An outbound packet is redirected. -/
  | redirected (fields : Fields) (now : Instant) (target : SocketAddr) (routers : List (Router F))
      (asked : event.asked = some (fields, now))
      (resolved : resolver.resolve state.routers now (sentTo fields) fields.protocol =
        some (.rewriteTo target, routers)) :
      Turn resolver state event ⟨routers,
        state.flows.insert fields.srcPort ⟨fields.dstIp, fields.dstPort, target, now⟩⟩
  /-- Nothing is asked; flows may be stamped or dropped. -/
  | stamped (flows : FlowTable) (unasked : event.asked = none)
      (kept : ∀ port entry, flows.lookup port = some entry →
        ∃ old, state.flows.lookup port = some old ∧ entry.origin = old.origin ∧
          entry.redirectTarget = old.redirectTarget) :
      Turn resolver state event { state with flows }
  /-- A measurement arrives. -/
  | recorded (router : Nat) (bridgeName : String) (rttMs : F) (unasked : event.asked = none) :
      Turn resolver state event
        { state with
          routers := state.routers.modify router (·.recordClientToBridge bridgeName rttMs) }

/-- A turn does one of these. -/
theorem SmartCapture.step_turn (taken : state.step resolver event = some next) :
    state.Turn resolver event next := by
  cases event with
  | packet data outbound now =>
    cases asked : (CaptureEvent.packet (F := F) data outbound now).asked with
    | some question =>
      obtain ⟨fields, time⟩ := question
      simp only [SmartCapture.step, asked] at taken
      obtain ⟨⟨action, routers⟩, resolved, taken⟩ := Option.bind_eq_some_iff.mp taken
      obtain ⟨⟨flows, result⟩, processed, rfl⟩ := Option.map_eq_some_iff.mp taken
      have outward : outbound = true ∧ (readFields data).join = some fields ∧ now = time := by
        cases outbound with
        | false => contradiction
        | true =>
          obtain ⟨found, read, same⟩ := Option.map_eq_some_iff.mp asked
          obtain ⟨rfl, rfl⟩ := Prod.mk.inj same
          exact ⟨rfl, read, rfl⟩
      obtain ⟨rfl, read, rfl⟩ := outward
      have has := readFields_iff.mp (Option.join_eq_some_iff.mp read)
      cases processPacket_ok processed with
      | passed => exact .passed fields now action routers asked resolved
      | redirected others target _ out hasOther answered rewritten =>
        have same : others = fields := Option.some.inj (Option.some.inj
          ((readFields_iff.mpr hasOther).symm.trans (readFields_iff.mpr has)))
        subst same
        obtain rfl : action = .rewriteTo target := answered
        rw [rewritten.recorded]
        exact .redirected others now target routers asked resolved
    | none =>
      simp only [SmartCapture.step, asked] at taken
      obtain ⟨⟨flows, result⟩, processed, rfl⟩ := Option.map_eq_some_iff.mp taken
      refine .stamped flows asked ?_
      intro port entry known
      cases processPacket_ok processed with
      | passed => exact ⟨entry, known, rfl, rfl⟩
      | redirected _ _ _ _ _ resolved _ => contradiction
      | attributed fields found _ _ present =>
        by_cases same : port = fields.dstPort
        · subst same
          rw [AList.lookup_insert] at known
          obtain rfl := Option.some.inj known
          exact ⟨found, present, rfl, rfl⟩
        · rw [AList.lookup_insert_ne same] at known
          exact ⟨entry, known, rfl, rfl⟩
  | reap now =>
    obtain ⟨flows, reaped, rfl⟩ := Option.map_eq_some_iff.mp taken
    refine .stamped flows rfl ?_
    intro port entry known
    unfold reapFlows at reaped
    split at reaped
    · contradiction
    · obtain rfl := Option.some.inj reaped
      exact ⟨entry, (Table.lookup_retain.mp known).1, rfl, rfl⟩
  | record router bridgeName rttMs =>
    obtain rfl := Option.some.inj taken
    exact .recorded router bridgeName rttMs rfl

/-- A pick keeps the decisions on other addresses, and that on its own unless it was stale. -/
theorem Router.pick_cache {next : Router F} {now : Instant} {direct : F} {route : Route}
    (picked : router.pick now dst direct = some (route, next)) (ip : IpAddr) :
    next.cache.lookup ip = router.cache.lookup ip ∨ ip = dst.ip ∧ router.cached now ip = none := by
  cases hit : router.cached now dst.ip with
  | some kept =>
    rw [Router.pick_hit hit] at picked
    obtain ⟨_, rfl⟩ := Prod.mk.inj (Option.some.inj picked)
    exact .inl rfl
  | none =>
    obtain ⟨name, fresh⟩ := Router.pick_stale hit direct
    obtain ⟨_, rfl⟩ := Prod.mk.inj (Option.some.inj (picked.symm.trans fresh))
    by_cases same : ip = dst.ip
    · exact .inr ⟨same, same ▸ hit⟩
    · exact .inl (AList.lookup_insert_ne same)

omit [Add F] [LT F] [DecidableLT F] [Top F] in
/-- The actions of a router depend on its bridges alone. -/
theorem Router.action_congr {other : Router F} (bridges : other.bridges = router.bridges)
    (route : Route) : other.action route = router.action route := by
  rw [Router.action.eq_def, Router.action.eq_def, bridges]

/-- After a resolution every flow that was backed is, and so would one to the address be. -/
theorem resolved_backed {fields : Fields} {now : Instant} {action : RouteAction}
    {routers : List (Router F)} (backed : state.Backed resolver)
    (confirms : state.Confirms resolver event) (asked : event.asked = some (fields, now))
    (resolved : resolver.resolve state.routers now (sentTo fields) fields.protocol =
      some (action, routers)) :
    (SmartCapture.mk routers state.flows).Backed resolver ∧
      ∃ router d, routers[resolver.router]? = some router ∧
        router.cache.lookup (.v4 fields.dstIp) = some d ∧ router.action d.route = some action := by
  obtain ⟨router, route, next, shared, picked, acted, rfl⟩ := SmartResolver.resolve_ok resolved
  have bound := (List.getElem?_eq_some_iff.mp shared).1
  have later : (state.routers.set resolver.router next)[resolver.router]? = some next :=
    List.getElem?_set_self bound
  have bridges : next.bridges = router.bridges := by rw [Router.pick_sameTables picked]
  obtain ⟨d, known, chosen, _⟩ := Router.pick_kept picked
  have decided : next.action d.route = some action := by
    rw [Router.action_congr bridges, chosen, acted]
  refine ⟨?_, next, d, later, known, decided⟩
  intro port entry recorded
  have recordedBefore : state.flows.lookup port = some entry := recorded
  obtain ⟨before, old, sharedBefore, kept, leads⟩ := backed port entry recordedBefore
  obtain rfl := Option.some.inj (shared.symm.trans sharedBefore)
  rcases Router.pick_cache picked (.v4 entry.origDstIp) with same | ⟨here, _⟩
  · exact ⟨next, old, later, same.trans kept, by rw [Router.action_congr bridges, leads]⟩
  · have toHere : entry.origDstIp = fields.dstIp := IpAddr.v4.inj here
    obtain ⟨again, chosenAgain, _, sharedAgain, pickedAgain, leadsAgain⟩ :=
      pick_backed backed confirms asked recordedBefore toHere
    obtain rfl := Option.some.inj (shared.symm.trans sharedAgain)
    obtain ⟨rfl, rfl⟩ := Prod.mk.inj (Option.some.inj (picked.symm.trans pickedAgain))
    refine ⟨next, d, later, ?_, ?_⟩
    · rw [here]
      exact known
    · rw [decided, ← leadsAgain, acted]

/-- A confirmed turn keeps every flow backed. -/
theorem backed_step (backed : state.Backed resolver) (confirms : state.Confirms resolver event)
    (taken : state.step resolver event = some next) : next.Backed resolver := by
  cases SmartCapture.step_turn taken with
  | passed fields now action routers asked resolved =>
    exact (resolved_backed backed confirms asked resolved).1
  | redirected fields now target routers asked resolved =>
    obtain ⟨kept, router, d, shared, known, leads⟩ :=
      resolved_backed backed confirms asked resolved
    intro port entry recorded
    by_cases same : port = fields.srcPort
    · subst same
      have inserted := AList.lookup_insert (a := fields.srcPort)
        (b := (⟨fields.dstIp, fields.dstPort, target, now⟩ : FlowEntry)) state.flows
      obtain rfl := Option.some.inj (inserted.symm.trans recorded)
      exact ⟨router, d, shared, known, leads⟩
    · exact kept port entry ((AList.lookup_insert_ne same).symm.trans recorded)
  | stamped flows unasked kept =>
    intro port entry recorded
    obtain ⟨old, known, origin, target⟩ := kept port entry recorded
    obtain ⟨router, d, shared, decided, leads⟩ := backed port old known
    have here : entry.origDstIp = old.origDstIp := IpAddr.v4.inj (SocketAddr.mk.inj origin).1
    rw [← here] at decided
    rw [← target] at leads
    exact ⟨router, d, shared, decided, leads⟩
  | recorded other bridgeName rttMs unasked =>
    intro port entry known
    obtain ⟨router, d, shared, decided, leads⟩ := backed port entry known
    have later : (state.routers.modify other (·.recordClientToBridge bridgeName rttMs))[
        resolver.router]? =
        some (if other = resolver.router then router.recordClientToBridge bridgeName rttMs
          else router) := by
      rw [List.getElem?_modify, shared]
      by_cases same : other = resolver.router
      · simp [same]
      · simp [same]
    by_cases same : other = resolver.router
    · rw [if_pos same] at later
      exact ⟨_, d, later, decided, leads⟩
    · rw [if_neg same] at later
      exact ⟨router, d, later, decided, leads⟩

/-- The listener a flow is on. -/
def flowTarget (flows : FlowTable) (port : UInt16) : Option SocketAddr :=
  (flows.lookup port).map FlowEntry.redirectTarget

/-- A turn after which a flow is on record to a destination either asked about that flow or found it
so. -/
theorem held_step (taken : state.step resolver event = some next)
    (after : flowOrigin next.flows port = some dst) :
    (∃ target, event.Sends port dst ∧ state.answer resolver event = some (.rewriteTo target) ∧
      flowTarget next.flows port = some target) ∨
    flowOrigin state.flows port = some dst ∧
      flowTarget next.flows port = flowTarget state.flows port := by
  cases SmartCapture.step_turn taken with
  | passed => exact .inr ⟨after, rfl⟩
  | recorded => exact .inr ⟨after, rfl⟩
  | stamped flows unasked kept =>
    obtain ⟨entry, known, rfl⟩ := Option.map_eq_some_iff.mp after
    obtain ⟨old, found, origin, target⟩ := kept port entry known
    right
    unfold flowOrigin flowTarget
    rw [known, found, Option.map_some, Option.map_some, Option.map_some, origin, target]
    exact ⟨rfl, rfl⟩
  | redirected fields now target routers asked resolved =>
    by_cases same : port = fields.srcPort
    · subst same
      left
      rw [flowOrigin, AList.lookup_insert] at after
      refine ⟨target, ⟨fields, now, asked, rfl, Option.some.inj after⟩, ?_, ?_⟩
      · rw [SmartCapture.answer, asked, Option.bind_some]
        dsimp only
        rw [resolved]
        rfl
      · rw [flowTarget, AList.lookup_insert]
        rfl
    · right
      rw [flowOrigin, AList.lookup_insert_ne same] at after
      refine ⟨after, ?_⟩
      rw [flowTarget, AList.lookup_insert_ne same]
      rfl

/-- A flow held over a confirmed turn keeps its listener. -/
theorem target_step (backed : state.Backed resolver) (confirms : state.Confirms resolver event)
    (taken : state.step resolver event = some next)
    (before : flowOrigin state.flows port = some dst)
    (after : flowOrigin next.flows port = some dst) :
    flowTarget next.flows port = flowTarget state.flows port := by
  rcases held_step taken after with ⟨target, sends, answered, listener⟩ | ⟨_, same⟩
  · obtain ⟨entry, known, kept⟩ := answer_backed backed confirms sends before
    have equal := RouteAction.rewriteTo.inj (Option.some.inj (answered.symm.trans kept))
    rw [listener, flowTarget, known, equal]
    rfl
  · exact same

/-- The packet of a flow held after a confirmed turn is sent to the flow's listener. -/
theorem answer_step (backed : state.Backed resolver) (confirms : state.Confirms resolver event)
    (taken : state.step resolver event = some next) (sends : event.Sends port dst)
    (after : flowOrigin next.flows port = some dst) :
    ∃ target, state.answer resolver event = some (.rewriteTo target) ∧
      flowTarget next.flows port = some target := by
  rcases held_step taken after with ⟨target, _, answered, listener⟩ | ⟨before, same⟩
  · exact ⟨target, answered, listener⟩
  · obtain ⟨entry, known, kept⟩ := answer_backed backed confirms sends before
    refine ⟨entry.redirectTarget, kept, ?_⟩
    rw [same, flowTarget, known]
    rfl

/-- A flow held over a confirmed run keeps its listener. -/
theorem target_run {events : List (CaptureEvent F)} {final : SmartCapture F}
    (backed : state.Backed resolver)
    (confirmed : Along (SmartCapture.step resolver) (SmartCapture.Confirms resolver) state events)
    (reached : run (SmartCapture.step resolver) state events = some final)
    (held : ∀ taken middle, taken <+: events →
      run (SmartCapture.step resolver) state taken = some middle →
      flowOrigin middle.flows port = some dst) :
    final.Backed resolver ∧ flowTarget final.flows port = flowTarget state.flows port := by
  induction events generalizing state with
  | nil =>
    obtain rfl := Option.some.inj reached
    exact ⟨backed, rfl⟩
  | cons event events ih =>
    obtain ⟨next, taken, reached⟩ := Option.bind_eq_some_iff.mp reached
    have before := held [] state List.nil_prefix rfl
    have heldNext (taken' : List (CaptureEvent F)) (middle : SmartCapture F)
        (first : taken' <+: events)
        (here : run (SmartCapture.step resolver) next taken' = some middle) :
        flowOrigin middle.flows port = some dst := by
      apply held (event :: taken') middle (List.cons_prefix_cons.mpr ⟨rfl, first⟩)
      rw [Machine.run, taken]
      exact here
    have after := heldNext [] next List.nil_prefix rfl
    obtain ⟨backedFinal, same⟩ := ih (backed_step backed confirmed.1 taken)
      (confirmed.2 next taken) reached heldNext
    exact ⟨backedFinal, same.trans (target_step backed confirmed.1 taken before after)⟩

end

/-- Every run from an empty flow table in which decisions on addresses with flows are confirmed is
sticky. -/
theorem flows_sticky (resolver : SmartResolver F) (routers : List (Router F))
    (events : List (CaptureEvent F))
    (confirmed : Along (SmartCapture.step resolver) (SmartCapture.Confirms resolver)
      ⟨routers, ∅⟩ events) : StickyRun resolver ⟨routers, ∅⟩ events := by
  intro before one middle two after split first second last reached taken ended port dst sendsOne
    sendsTwo held
  subst split
  obtain ⟨metBefore, metRest⟩ := along_append confirmed
  obtain ⟨confirmsOne, metSecond⟩ := metRest first reached
  obtain ⟨metMiddle, metTwo⟩ := along_append (metSecond second taken)
  have confirmsTwo := (metTwo last ended).1
  have backedStart : (SmartCapture.mk routers ∅).Backed resolver := by
    intro port entry known
    contradiction
  have backedFirst : first.Backed resolver :=
    Machine.run_invariant (fun state event next backed confirms taken =>
      backed_step backed confirms taken) backedStart metBefore reached
  have backedSecond := backed_step backedFirst confirmsOne taken
  have heldSecond := held [] second List.nil_prefix rfl
  have heldLast := held middle last List.prefix_rfl ended
  obtain ⟨target, answered, listener⟩ :=
    answer_step backedFirst confirmsOne taken sendsOne heldSecond
  obtain ⟨backedLast, same⟩ := target_run backedSecond metMiddle ended held
  obtain ⟨entry, known, answeredLast⟩ := answer_backed backedLast confirmsTwo sendsTwo heldLast
  have equal : some entry.redirectTarget = some target := by
    rw [← listener, ← same, flowTarget, known]
    rfl
  rw [answered, answeredLast, Option.some.inj equal]

/-! ## Sample runs -/

/-- The capture that `run_with_tui` starts with one bridge. -/
def dallasCapture : SmartCapture Float := ⟨(runWithTui excerpt dallasConfig).1, ∅⟩

/-- The game sends from port 40000 to a server. -/
def serverPacket (now : Instant) : CaptureEvent Float :=
  .packet (udpPacket (Ipv4Addr.new 192 168 1 10) 40000 (Ipv4Addr.new 18 88 19 234) 22222) true now

/-- The server. -/
def serverAddr : SocketAddr := ⟨.v4 (Ipv4Addr.new 18 88 19 234), 22222⟩

/-- A packet to the server is one. -/
theorem serverPacket_sends (now : Instant) : (serverPacket now).Sends 40000 serverAddr :=
  ⟨⟨20, .udp, Ipv4Addr.new 18 88 19 234, 40000, 22222⟩, now, rfl, rfl, rfl⟩

/-- Whether every flow is on the listener of the bridge to choose for the server, if it pays. -/
def SmartCapture.leadsToBest (resolver : SmartResolver Float) (state : SmartCapture Float) : Bool :=
  (state.routers[resolver.router]?).any fun router =>
    (router.bestBridge (router.aws.regionFor serverAddr.ip)).any fun (i, total) =>
      decide (total + router.marginMs < resolver.directRtt serverAddr.ip) &&
        (router.bridges[i]?).any fun b => state.flows.entries.all fun entry =>
          decide (entry.2.redirectTarget = ⟨.v4 (Ipv4Addr.new 127 0 0 1), b.listenPort⟩)

/-- Where every flow is on the listener of the best bridge, a decision on the server is confirmed.
-/
theorem confirms_server {resolver : SmartResolver Float} {state : SmartCapture Float}
    (leads : state.leadsToBest resolver = true) (now : Instant) :
    state.Confirms resolver (serverPacket now) := by
  intro fields time router asked shared _ port entry known _
  have asks : (serverPacket now).asked =
      some (⟨20, .udp, Ipv4Addr.new 18 88 19 234, 40000, 22222⟩, now) := rfl
  obtain ⟨rfl, rfl⟩ := Prod.mk.inj (Option.some.inj (asked.symm.trans asks))
  rw [SmartCapture.leadsToBest, shared, Option.any_some, Option.any_eq_true] at leads
  obtain ⟨⟨i, total⟩, best, leads⟩ := leads
  obtain ⟨pays, leads⟩ := Bool.and_eq_true_iff.mp leads
  obtain ⟨b, present, leads⟩ := (Option.any_eq_true _ _).mp leads
  have listener := List.all_eq_true.mp leads ⟨port, entry⟩ (AList.mem_lookup_iff.mp known)
  exact ⟨i, total, b, best, of_decide_eq_true pays, present, of_decide_eq_true listener⟩

/-- Two packets within a minute and one after it. -/
def steadyPackets : List (CaptureEvent Float) :=
  [serverPacket 1000, serverPacket 2000, serverPacket 61000000000]

/-- For the third a decision is made anew, and the flow keeps its listener. -/
theorem dallas_sticky :
    ((run (SmartCapture.step (runWithTui excerpt dallasConfig).2) dallasCapture
      [serverPacket 1000, serverPacket 2000]).any fun state =>
        (state.routers[(runWithTui excerpt dallasConfig).2.router]?).any fun router =>
          (router.cached 61000000000 serverAddr.ip).isNone) = true ∧
    StickyRun (runWithTui excerpt dallasConfig).2 dallasCapture steadyPackets := by
  refine ⟨by decide +kernel, ?_⟩
  apply flows_sticky
  have leads (past : List (CaptureEvent Float)) (early : past ∈ steadyPackets.inits)
      (state : SmartCapture Float)
      (reached : run (SmartCapture.step (runWithTui excerpt dallasConfig).2) dallasCapture past =
        some state) : state.leadsToBest (runWithTui excerpt dallasConfig).2 = true := by
    have always : steadyPackets.inits.all (fun past =>
        (run (SmartCapture.step (runWithTui excerpt dallasConfig).2) dallasCapture past).all
          (SmartCapture.leadsToBest (runWithTui excerpt dallasConfig).2)) = true := by
      decide +kernel
    have here := List.all_eq_true.mp always past early
    rwa [reached, Option.all_some] at here
  refine ⟨confirms_server (leads [] (by simp [steadyPackets]) _ rfl) 1000, fun next taken => ?_⟩
  have first := (Machine.run_cons taken []).trans rfl
  refine ⟨confirms_server (leads _ (by simp [steadyPackets]) _ first) 2000, fun last again => ?_⟩
  have second := (Machine.run_cons taken [serverPacket 2000]).trans
    ((Machine.run_cons again []).trans rfl)
  exact ⟨confirms_server (leads _ (by simp [steadyPackets]) _ second) 61000000000,
    fun _ _ => trivial⟩

/-- After a minute, and a measurement in between, the second packet of a flow leaves the tunnel. -/
theorem flow_leaves_tunnel : ¬ ∀ (aws : Snapshot) (cfg : SmartRoutingConfig Float)
    (events : List (CaptureEvent Float)),
    StickyRun (runWithTui aws cfg).2 ⟨(runWithTui aws cfg).1, ∅⟩ events := by
  intro sticky
  have runs : ((dallasCapture.step (runWithTui excerpt dallasConfig).2 (serverPacket 1000)).bind
      fun second => (second.step (runWithTui excerpt dallasConfig).2 (.record 0 "dallas" 100)).map
        fun last => (flowOrigin second.flows 40000, flowOrigin last.flows 40000,
          dallasCapture.answer (runWithTui excerpt dallasConfig).2 (serverPacket 1000),
          last.answer (runWithTui excerpt dallasConfig).2 (serverPacket 61000000000))) =
      some (some serverAddr, some serverAddr,
        some (.rewriteTo ⟨.v4 (Ipv4Addr.new 127 0 0 1), 9701⟩), some .passthrough) := by
    decide +kernel
  obtain ⟨second, taken, runs⟩ := Option.bind_eq_some_iff.mp runs
  obtain ⟨last, recorded, runs⟩ := Option.map_eq_some_iff.mp runs
  obtain ⟨originSecond, runs⟩ := Prod.mk.inj runs
  obtain ⟨originLast, runs⟩ := Prod.mk.inj runs
  obtain ⟨answerFirst, answerLast⟩ := Prod.mk.inj runs
  have reached : run (SmartCapture.step (runWithTui excerpt dallasConfig).2) second
      [.record 0 "dallas" 100] = some last := by
    rw [Machine.run, recorded]
    rfl
  have same := sticky excerpt dallasConfig
    [serverPacket 1000, .record 0 "dallas" 100, serverPacket 61000000000] [] (serverPacket 1000)
    [.record 0 "dallas" 100] (serverPacket 61000000000) [] rfl dallasCapture second last rfl taken
    reached 40000 serverAddr (serverPacket_sends _) (serverPacket_sends _) ?_
  · rw [answerFirst, answerLast] at same
    contradiction
  · intro passed state first here
    rcases List.prefix_cons_iff.mp first with rfl | ⟨rest, rfl, none⟩
    · obtain rfl := Option.some.inj here
      exact originSecond
    · obtain rfl := List.prefix_nil.mp none
      obtain rfl := Option.some.inj (reached.symm.trans here)
      exact originLast

end LowPing.Client
