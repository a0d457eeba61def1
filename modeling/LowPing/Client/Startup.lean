import LowPing.Client.Router

/-!
# Smart-routing start-up

The two ways `gr-client` starts smart routing. A router is shared through an `Arc`, which is a
position among the routers made so far; a start-up returns these routers with the resolver that it
installed in the capture. `run_smart_mode` makes a router for its resolver and leaves the seeding to
`start_smart`, which makes a router of its own; `run_with_tui` seeds the router it made.
-/

namespace LowPing.Client

open LowPing.Capture (Instant Protocol RouteAction)
open LowPing.Library

/-- `SmartRoutingConfig`. -/
structure SmartRoutingConfig (F : Type) where
  /-- Bridges to consider. -/
  bridges : List (RoutedBridge F)
  /-- Direct-RTT estimate per AWS region. -/
  directRttMs : AList fun _ : String => F
  /-- Hysteresis margin; no start-up reads it. -/
  marginMs : F

/-- `SmartResolver`. -/
structure SmartResolver (F : Type) where
  /-- The router it shares. -/
  router : Nat
  /-- Direct-RTT estimates. -/
  directRttMs : AList fun _ : String => F
  /-- The region lookup. -/
  aws : Snapshot

/-- A packet whose destination the capture asks about. -/
structure Outbound where
  /-- When it asks. -/
  time : Instant
  /-- The destination. -/
  dst : SocketAddr
  /-- The transport. -/
  protocol : Protocol

variable {F : Type}

/-! ## The resolver -/

/-- The direct RTT to an address; an unknown path is assumed bad. -/
def SmartResolver.directRtt [Top F] (resolver : SmartResolver F) (ip : IpAddr) : F :=
  ((resolver.aws.regionFor ip).bind fun r => resolver.directRttMs.lookup r).getD ⊤

/-- The action of a route; `none` is the panic of an index out of range. -/
def Router.action (router : Router F) : Route → Option RouteAction
  | .direct => some .passthrough
  | .viaBridge idx => (router.bridges[idx]?).map fun b =>
    .rewriteTo ⟨.v4 (Ipv4Addr.new 127 0 0 1), b.listenPort⟩

section Resolver

variable [Add F] [LT F] [DecidableLT F] [Top F]

/-- `SmartResolver::resolve` at one moment; `none` is a panic. -/
def SmartResolver.resolve (resolver : SmartResolver F) (routers : List (Router F)) (now : Instant)
    (dst : SocketAddr) (_protocol : Protocol) : Option (RouteAction × List (Router F)) :=
  (routers[resolver.router]?).bind fun router =>
    (router.pick now dst (resolver.directRtt dst.ip)).bind fun (route, next) =>
      (next.action route).map fun action => (action, routers.set resolver.router next)

/-- What a resolver answers to one packet after the other. -/
def SmartResolver.actions (resolver : SmartResolver F) (routers : List (Router F)) :
    List Outbound → Option (List RouteAction)
  | [] => some []
  | arrived :: seen =>
    (resolver.resolve routers arrived.time arrived.dst arrived.protocol).bind fun (action, later) =>
      (resolver.actions later seen).map (action :: ·)

end Resolver

/-! ## The start-ups -/

section Startup

variable [NatCast F]

/-- The placeholder client RTT of a bridge, by its name. -/
def clientEstimate (name : String) : F :=
  match name with
  | "dallas" => (22 : ℕ)
  | "nj" => (35 : ℕ)
  | "seattle" | "sea" => (50 : ℕ)
  | "frankfurt" | "fra" => (110 : ℕ)
  | _ => (40 : ℕ)

/-- One turn of the seeding loop. -/
def Router.seed (router : Router F) (b : RoutedBridge F) : Router F :=
  router.recordClientToBridge b.name (clientEstimate b.name)

/-- `start_smart`: the routers with the one it returns. -/
def startSmart (aws : Snapshot) (cfg : SmartRoutingConfig F) (routers : List (Router F)) :
    List (Router F) × Nat :=
  let router := routers.length
  (cfg.bridges.foldl (fun made b => made.modify router (·.seed b))
    (routers ++ [Router.new aws cfg.bridges]), router)

/-- `run_smart_mode`; it bails without bridges. The router of `start_smart` is dropped. -/
def runSmartMode (aws : Snapshot) (cfg : SmartRoutingConfig F) :
    Option (List (Router F) × SmartResolver F) :=
  if cfg.bridges.isEmpty then none
  else
    let routers := [Router.new aws cfg.bridges]
    let resolver : SmartResolver F := ⟨0, cfg.directRttMs, aws⟩
    some ((startSmart aws cfg routers).1, resolver)

/-- `run_with_tui`. -/
def runWithTui (aws : Snapshot) (cfg : SmartRoutingConfig F) :
    List (Router F) × SmartResolver F :=
  let routers := [Router.new aws cfg.bridges]
  let resolver : SmartResolver F := ⟨0, cfg.directRttMs, aws⟩
  (cfg.bridges.foldl (fun made b => made.modify 0 (·.seed b)) routers, resolver)

/-! ## Seeding -/

/-- Seeding fills the table of client RTTs. -/
theorem Router.seeded (router : Router F) (bridges : List (RoutedBridge F)) :
    bridges.foldl Router.seed router = { router with
      clientToBridgeMs := bridges.foldl
        (fun table b => table.insert b.name (clientEstimate b.name)) router.clientToBridgeMs } := by
  induction bridges generalizing router with
  | nil => rfl
  | cons b bridges ih =>
    rw [List.foldl_cons, ih]
    rfl

/-- A seeded bridge has its estimate. -/
theorem Router.lookup_seeded (router : Router F) {bridges : List (RoutedBridge F)}
    {b : RoutedBridge F} (member : b ∈ bridges) :
    (bridges.foldl Router.seed router).clientToBridgeMs.lookup b.name =
      some (clientEstimate b.name) := by
  rw [seeded]
  dsimp only
  rw [Table.lookup_insertAll (fun b : RoutedBridge F => b.name) (fun name => clientEstimate name),
    if_pos (List.mem_map_of_mem member)]

/-- The seeding loop changes the router it seeds and no other. -/
theorem seeding_getElem? (bridges : List (RoutedBridge F)) (made : List (Router F)) (arc i : Nat) :
    (bridges.foldl (fun made b => made.modify arc (·.seed b)) made)[i]? =
      if arc = i then (made[i]?).map fun router => bridges.foldl Router.seed router
      else made[i]? := by
  induction bridges generalizing made with
  | nil => simp
  | cons b bridges ih =>
    rw [List.foldl_cons, ih, List.getElem?_modify]
    by_cases same : arc = i
    · simp [same, Function.comp_def]
    · simp [same]

/-- The router of plain mode's resolver has no client RTTs. -/
theorem plain_router {aws : Snapshot} {cfg : SmartRoutingConfig F} {routers : List (Router F)}
    {resolver : SmartResolver F} (started : runSmartMode aws cfg = some (routers, resolver)) :
    routers[resolver.router]? = some (Router.new aws cfg.bridges) ∧
      resolver = ⟨0, cfg.directRttMs, aws⟩ := by
  unfold runSmartMode at started
  split at started
  · contradiction
  · obtain ⟨rfl, rfl⟩ := Prod.mk.inj (Option.some.inj started)
    refine ⟨?_, rfl⟩
    rw [startSmart]
    dsimp only
    rw [seeding_getElem?]
    rfl

/-- The router of TUI mode's resolver is seeded. -/
theorem tui_router (aws : Snapshot) (cfg : SmartRoutingConfig F) :
    (runWithTui aws cfg).1[(runWithTui aws cfg).2.router]? =
      some (cfg.bridges.foldl Router.seed (Router.new aws cfg.bridges)) := by
  rw [runWithTui]
  dsimp only
  rw [seeding_getElem?, if_pos rfl]
  rfl

end Startup

/-! ## Runs -/

section Runs

variable [Add F] [LT F] [DecidableLT F] [Top F]

/-- The action for an address under fixed direct RTTs. -/
def Router.answer (router : Router F) (direct : IpAddr → F) (ip : IpAddr) : RouteAction :=
  (router.action (router.routeTo direct ip)).getD .passthrough

/-- No fresh route is out of range. -/
theorem Router.action_routeTo (router : Router F) (direct : IpAddr → F) (ip : IpAddr) :
    router.action (router.routeTo direct ip) = some (router.answer direct ip) := by
  obtain ⟨name, named⟩ := router.fresh_inRange (router.aws.regionFor ip) (direct ip)
  change router.bridgeName (router.routeTo direct ip) = some name at named
  unfold answer
  cases chosen : router.routeTo direct ip with
  | direct => rfl
  | viaBridge idx =>
    rw [chosen] at named
    obtain ⟨b, present, _⟩ := Option.map_eq_some_iff.mp named
    simp [action, present]

/-- Over a settled router a resolver answers each packet by its address alone. -/
theorem SmartResolver.actions_settled {resolver : SmartResolver F} {routers : List (Router F)}
    {router : Router F} (shared : routers[resolver.router]? = some router)
    (settled : router.Settled resolver.directRtt) (seen : List Outbound) :
    resolver.actions routers seen =
      some (seen.map fun arrived => router.answer resolver.directRtt arrived.dst.ip) := by
  induction seen generalizing routers router with
  | nil => rfl
  | cons arrived seen ih =>
    obtain ⟨next, picked, same, settledNext⟩ :=
      Router.pick_settled settled arrived.time arrived.dst
    have bridges : next.bridges = router.bridges := by rw [same]
    have answered : next.action (router.routeTo resolver.directRtt arrived.dst.ip) =
        some (router.answer resolver.directRtt arrived.dst.ip) := by
      rw [← router.action_routeTo, Router.action.eq_def, Router.action.eq_def, bridges]
    have resolved : resolver.resolve routers arrived.time arrived.dst arrived.protocol =
        some (router.answer resolver.directRtt arrived.dst.ip,
          routers.set resolver.router next) := by
      simp only [resolve, shared, picked, answered, Option.bind_some, Option.map_some]
    have later : (routers.set resolver.router next)[resolver.router]? = some next := by
      have bound := (List.getElem?_eq_some_iff.mp shared).1
      rw [List.getElem?_set_self bound]
    have kept (ip : IpAddr) :
        next.answer resolver.directRtt ip = router.answer resolver.directRtt ip := by
      unfold Router.answer
      rw [same.routeTo, Router.action.eq_def, Router.action.eq_def, bridges]
    rw [actions, resolved, Option.bind_some]
    dsimp only
    rw [ih later settledNext]
    simp [kept]

/-- A router without decisions is settled. -/
theorem Router.settled_of_empty {router : Router F} (empty : router.cache = ∅)
    (direct : IpAddr → F) : router.Settled direct := by
  intro ip d known
  rw [empty] at known
  contradiction

/-- A fresh route is through a bridge exactly if the best one beats direct by the margin. -/
theorem Router.fresh_eq_direct {router : Router F} {region : Option String} {direct : F} :
    (router.fresh region direct).1 = .direct ↔
      ¬ ∃ best, router.bestBridge region = some best ∧ best.2 + router.marginMs < direct := by
  unfold fresh
  cases found : router.bestBridge region with
  | none => simp
  | some best =>
    obtain ⟨idx, total⟩ := best
    dsimp only
    by_cases beats : total + router.marginMs < direct
    · simp [beats]
    · simp [beats]

/-- An address is passed through exactly if its route is direct. -/
theorem Router.answer_eq_passthrough {router : Router F} {direct : IpAddr → F} {ip : IpAddr} :
    router.answer direct ip = .passthrough ↔ router.routeTo direct ip = .direct := by
  have acted := router.action_routeTo direct ip
  cases chosen : router.routeTo direct ip with
  | direct =>
    rw [chosen] at acted
    simp [(Option.some.inj acted).symm]
  | viaBridge idx =>
    rw [chosen] at acted
    obtain ⟨b, _, rewritten⟩ := Option.map_eq_some_iff.mp acted
    simp [← rewritten]

end Runs

/-! ## Agreement -/

section Agreement

/-- The RTTs of the paths through the bridges of a configuration to a region. -/
def SmartRoutingConfig.totals [NatCast F] [Add F] (cfg : SmartRoutingConfig F) :
    Option String → List F
  | none => []
  | some r => cfg.bridges.filterMap fun b =>
    (b.regionRttMs.lookup r).map (clientEstimate b.name + ·)

/-- The direct RTT of a configuration to a region. -/
def SmartRoutingConfig.directRtt [Top F] (cfg : SmartRoutingConfig F)
    (region : Option String) : F :=
  (region.bind fun r => cfg.directRttMs.lookup r).getD ⊤

/-- Some bridge pays for a region: with two milliseconds added, a least of the totals is below the
direct RTT. Nothing is compared with a first total that is NaN. -/
def SmartRoutingConfig.Pays (cfg : SmartRoutingConfig Float) (region : Option String) : Prop :=
  (∀ first ∈ (cfg.totals region).head?, first.isNaN = false) ∧
    ∃ total ∈ cfg.totals region, (∀ other ∈ cfg.totals region, ¬ other < total) ∧
      total + (2 : ℕ) < cfg.directRtt region

/-- The resolvers of both start-ups answer alike. -/
def StartupsAgree (aws : Snapshot) (cfg : SmartRoutingConfig Float) (seen : List Outbound) : Prop :=
  ∀ routers resolver, runSmartMode aws cfg = some (routers, resolver) →
    resolver.actions routers seen = (runWithTui aws cfg).2.actions (runWithTui aws cfg).1 seen

variable {aws : Snapshot} {cfg : SmartRoutingConfig Float}

/-- The seeded router. -/
def tuiRouter (aws : Snapshot) (cfg : SmartRoutingConfig Float) : Router Float :=
  cfg.bridges.foldl Router.seed (Router.new aws cfg.bridges)

/-- The candidates of the router of TUI mode have the configuration's totals. -/
theorem tuiRouter_totals (region : Option String) :
    ((tuiRouter aws cfg).candidates region).map Prod.snd = cfg.totals region := by
  have bridges : (tuiRouter aws cfg).bridges = cfg.bridges := by
    rw [tuiRouter, Router.seeded]
    rfl
  rw [Router.candidates_snd, bridges]
  cases region with
  | none =>
    apply List.filterMap_eq_nil_iff.mpr
    intro b member
    rw [Router.total, tuiRouter, Router.lookup_seeded _ member]
  | some r =>
    apply List.filterMap_congr
    intro b member
    rw [Router.total, tuiRouter, Router.lookup_seeded _ member]

/-- The router of TUI mode routes through a bridge where one pays. -/
theorem tuiRouter_direct_iff (region : Option String) :
    ((tuiRouter aws cfg).fresh region (cfg.directRtt region)).1 = .direct ↔ ¬ cfg.Pays region := by
  have margin : (tuiRouter aws cfg).marginMs = (2 : ℕ) := by
    rw [tuiRouter, Router.seeded]
    rfl
  rw [Router.fresh_eq_direct, Router.bestBridge_eq, margin,
    float_search_add_lt (tuiRouter_totals region), SmartRoutingConfig.Pays]

/-- Plain mode never tunnels. -/
theorem plain_direct (region : Option String) (direct : Float) :
    ((Router.new aws cfg.bridges).fresh region direct).1 = .direct := by
  rw [Router.fresh_eq_direct]
  rintro ⟨best, found, _⟩
  have empty : (Router.new aws cfg.bridges).candidates region = [] := by
    apply List.filterMap_eq_nil_iff.mpr
    intro entry _
    rfl
  rw [Router.bestBridge_eq, empty] at found
  contradiction

/-- Plain mode passes every packet through. -/
theorem plain_actions {routers : List (Router Float)} {resolver : SmartResolver Float}
    (started : runSmartMode aws cfg = some (routers, resolver)) (seen : List Outbound) :
    resolver.actions routers seen = some (seen.map fun _ => .passthrough) := by
  obtain ⟨shared, _⟩ := plain_router started
  rw [SmartResolver.actions_settled shared (Router.settled_of_empty rfl _) seen]
  congr 1
  apply List.map_congr_left
  intro arrived _
  exact Router.answer_eq_passthrough.mpr (plain_direct _ _)

/-- TUI mode answers with its seeded router. -/
theorem tui_actions (seen : List Outbound) :
    (runWithTui aws cfg).2.actions (runWithTui aws cfg).1 seen = some (seen.map fun arrived =>
      (tuiRouter aws cfg).answer (runWithTui aws cfg).2.directRtt arrived.dst.ip) := by
  have empty : (tuiRouter aws cfg).cache = ∅ := by
    rw [tuiRouter, Router.seeded]
    rfl
  exact SmartResolver.actions_settled (tui_router aws cfg) (Router.settled_of_empty empty _) seen

/-- TUI mode passes a packet through exactly if no bridge pays. -/
theorem tui_answer_iff (ip : IpAddr) :
    (tuiRouter aws cfg).answer (runWithTui aws cfg).2.directRtt ip = .passthrough ↔
      ¬ cfg.Pays (aws.regionFor ip) := by
  have looked : (tuiRouter aws cfg).aws = aws := by
    rw [tuiRouter, Router.seeded]
    rfl
  rw [Router.answer_eq_passthrough, Router.routeTo, looked]
  exact tuiRouter_direct_iff (aws.regionFor ip)

/-- No bridge pays where there is none. -/
theorem not_pays_of_unstarted (unstarted : runSmartMode aws cfg = none) (region : Option String) :
    ¬ cfg.Pays region := by
  rintro ⟨_, total, member, _⟩
  have empty : cfg.bridges = [] := by
    unfold runSmartMode at unstarted
    split at unstarted
    · rename_i none
      exact List.isEmpty_iff.mp none
    · contradiction
  cases region with
  | none => contradiction
  | some r => simp [SmartRoutingConfig.totals, empty] at member

/-- The two start-ups agree on a sequence of destinations exactly if for no destination in it a
bridge pays. -/
theorem startups_agree_iff (aws : Snapshot) (cfg : SmartRoutingConfig Float)
    (seen : List Outbound) :
    StartupsAgree aws cfg seen ↔
      ∀ arrived ∈ seen, ¬ cfg.Pays (aws.regionFor arrived.dst.ip) := by
  constructor
  · intro agree arrived member
    cases started : runSmartMode aws cfg with
    | none => exact not_pays_of_unstarted started _
    | some result =>
      obtain ⟨routers, resolver⟩ := result
      have same := agree routers resolver started
      rw [plain_actions started, tui_actions] at same
      have answers := List.map_inj_left.mp (Option.some.inj same) arrived member
      exact (tui_answer_iff arrived.dst.ip).mp answers.symm
  · intro unpaid routers resolver started
    rw [plain_actions started, tui_actions]
    congr 1
    apply List.map_congr_left
    intro arrived member
    exact ((tui_answer_iff arrived.dst.ip).mpr (unpaid arrived member)).symm

/-- An excerpt of the snapshot. -/
def excerpt : Snapshot := .ofPrefixes [⟨"18.88.0.0/18", "us-east-1"⟩] (by decide +kernel)

/-- One bridge, 23 ms away from a region that is 40 ms away directly. -/
def dallasConfig : SmartRoutingConfig Float where
  bridges := [{
    endpoint := ⟨.v4 (Ipv4Addr.new 149 28 240 106), 52820⟩
    bridgeX25519PubkeyHex := "0000000000000000000000000000000000000000000000000000000000000000"
    licenseToken := "tok"
    listenPort := 9701
    name := "dallas"
    regionRttMs := (∅ : AList fun _ : String => Float).insert "us-east-1" 1 }]
  directRttMs := (∅ : AList fun _ : String => Float).insert "us-east-1" 40
  marginMs := 2

/-- A server in that region. -/
def eastServer : Outbound := ⟨0, ⟨.v4 (Ipv4Addr.new 18 88 19 234), 22222⟩, .udp⟩

/-- TUI mode tunnels to it and plain mode does not. -/
theorem dallas_disagree : ¬ ∀ (aws : Snapshot) (cfg : SmartRoutingConfig Float)
    (seen : List Outbound), StartupsAgree aws cfg seen := by
  intro agree
  have tunnelled : (runWithTui excerpt dallasConfig).2.actions (runWithTui excerpt dallasConfig).1
      [eastServer] = some [.rewriteTo ⟨.v4 (Ipv4Addr.new 127 0 0 1), 9701⟩] := by
    decide +kernel
  cases started : runSmartMode excerpt dallasConfig with
  | none => contradiction
  | some result =>
    have same := agree excerpt dallasConfig [eastServer] result.1 result.2 started
    rw [plain_actions started, tunnelled] at same
    revert same
    decide

end Agreement

end LowPing.Client
