import LowPing.Client.RouteChoice

/-!
# The hysteresis margin

`SmartRoutingConfig` carries a margin, "only choose a bridge if it beats direct by this margin", and
`Router::new` sets its own of two milliseconds. The configured margin is honoured where the two
leave the same choice.
-/

namespace LowPing.Client

open LowPing.Capture (Instant Protocol RouteAction)
open LowPing.Library

/-- The seeded client RTT of a bridge and the bridge's RTT to a region add up to a total. -/
def SmartRoutingConfig.Measures {F : Type} [NatCast F] [Add F] (region : Option String)
    (b : RoutedBridge F) (total : F) : Prop :=
  ∃ r fromB, region = some r ∧ b.regionRttMs.lookup r = some fromB ∧
    total = clientEstimate b.name + fromB

/-- The optimal bridge of a configuration. -/
def SmartRoutingConfig.Optimal (cfg : SmartRoutingConfig ExactMs) (region : Option String)
    (i : Nat) (total : ExactMs) : Prop :=
  Client.Optimal cfg.bridges (SmartRoutingConfig.Measures region) i total

/-- A bridge whose total is below the direct RTT by the configured margin. -/
def SmartRoutingConfig.Beats (cfg : SmartRoutingConfig ExactMs) (region : Option String)
    (total : ExactMs) : Prop :=
  total + cfg.marginMs < cfg.directRtt region

/-- An action honours the configuration: packets go to the listener of the optimal bridge if it
beats the direct path, and are passed through otherwise. -/
structure SmartRoutingConfig.Honours (cfg : SmartRoutingConfig ExactMs) (region : Option String)
    (action : RouteAction) : Prop where
  /-- Where a packet is redirected. -/
  rewriteTo_iff : ∀ target, action = .rewriteTo target ↔
    ∃ i b total, cfg.Optimal region i total ∧ cfg.Beats region total ∧ cfg.bridges[i]? = some b ∧
      target = ⟨.v4 (Ipv4Addr.new 127 0 0 1), b.listenPort⟩
  /-- When it is passed through. -/
  passthrough_iff : action = .passthrough ↔
    ¬ ∃ i total, cfg.Optimal region i total ∧ cfg.Beats region total

/-- The direct RTT lies outside the gap between the optimal total with the one margin and with the
other. -/
def SmartRoutingConfig.OutsideGap (cfg : SmartRoutingConfig ExactMs) (region : Option String) :
    Prop :=
  ∀ i total, cfg.Optimal region i total →
    cfg.directRtt region ≤ total + min cfg.marginMs 2 ∨
      total + max cfg.marginMs 2 < cfg.directRtt region

/-- Outside the gap a total beats a limit with both margins or with neither. -/
theorem beats_iff_outside_gap {total margin other limit : ExactMs} :
    (total + other < limit ↔ total + margin < limit) ↔
      limit ≤ total + min margin other ∨ total + max margin other < limit := by
  have smaller (a b : ExactMs) : total + min a b = min (total + a) (total + b) :=
    (min_add_add_left total a b).symm
  have larger (a b : ExactMs) : total + max a b = max (total + a) (total + b) :=
    (max_add_add_left total a b).symm
  rw [smaller, larger, le_min_iff, max_lt_iff]
  by_cases first : total + margin < limit
  · by_cases second : total + other < limit
    · simp [first, second]
    · simp [first, second]
  · by_cases second : total + other < limit
    · simp [first, second]
    · simp [first, second, not_lt.mp first, not_lt.mp second]

section

variable {aws : Snapshot} {cfg : SmartRoutingConfig ExactMs} {router : Router ExactMs}
  {region : Option String}

/-- The router that `run_with_tui` seeds. -/
def SmartRoutingConfig.seeded (cfg : SmartRoutingConfig ExactMs) (aws : Snapshot) :
    Router ExactMs :=
  cfg.bridges.foldl Router.seed (Router.new aws cfg.bridges)

/-- Whatever it has decided, it measures what the configuration measures. -/
theorem seeded_measures (same : (cfg.seeded aws).SameTables router) {b : RoutedBridge ExactMs}
    (member : b ∈ cfg.bridges) {total : ExactMs} :
    router.Measures region b total ↔ SmartRoutingConfig.Measures region b total := by
  have known : router.clientToBridgeMs.lookup b.name = some (clientEstimate b.name) := by
    rw [same]
    exact Router.lookup_seeded _ member
  unfold Router.Measures SmartRoutingConfig.Measures
  rw [known]
  constructor
  · rintro ⟨r, toB, fromB, here, found, listed, rfl⟩
    rw [Option.some.inj found]
    exact ⟨r, fromB, here, listed, rfl⟩
  · rintro ⟨r, fromB, here, listed, rfl⟩
    exact ⟨r, _, fromB, here, rfl, listed, rfl⟩

/-- Two measurements that agree on the bridges of a list have the same optimum. -/
theorem optimal_congr {bridges : List (RoutedBridge ExactMs)}
    {first second : RoutedBridge ExactMs → ExactMs → Prop}
    (agree : ∀ b ∈ bridges, ∀ total, first b total ↔ second b total) {i : Nat} {total : ExactMs} :
    Optimal bridges first i total ↔ Optimal bridges second i total := by
  unfold Optimal
  apply and_congr
  · apply exists_congr
    intro b
    apply and_congr_right
    intro listed
    exact agree b (List.mem_of_getElem? listed) total
  · constructor
    · intro least j b other listed measured
      exact least j b other listed ((agree b (List.mem_of_getElem? listed) other).mpr measured)
    · intro least j b other listed measured
      exact least j b other listed ((agree b (List.mem_of_getElem? listed) other).mp measured)

/-- The optimal bridge of a seeded router is that of the configuration. -/
theorem seeded_optimal (same : (cfg.seeded aws).SameTables router) {i : Nat} {total : ExactMs} :
    router.Optimal region i total ↔ cfg.Optimal region i total := by
  have bridges : router.bridges = cfg.bridges := by
    rw [same, SmartRoutingConfig.seeded, Router.seeded]
    rfl
  rw [Router.Optimal, bridges]
  exact optimal_congr fun b member total => seeded_measures same member

/-- The margin of a seeded router is two milliseconds. -/
theorem seeded_margin (same : (cfg.seeded aws).SameTables router) : router.marginMs = 2 := by
  rw [same, SmartRoutingConfig.seeded, Router.seeded]
  rfl

/-- What a seeded router chooses afresh, with its margin. -/
theorem seeded_chooses (same : (cfg.seeded aws).SameTables router) {direct : ExactMs}
    {route : Route} {via : ExactMs} (chosen : router.Chooses region direct route via) :
    (∀ i, route = .viaBridge i ↔ ∃ total, cfg.Optimal region i total ∧ total + 2 < direct) ∧
      (route = .direct ↔ ¬ ∃ i total, cfg.Optimal region i total ∧ total + 2 < direct) := by
  have routes := chosen.viaBridge_iff
  have passes := chosen.direct_iff
  simp only [seeded_optimal same, seeded_margin same] at routes passes
  exact ⟨routes, passes⟩

/-- There is one optimal bridge. -/
theorem optimal_unique {bridges : List (RoutedBridge ExactMs)}
    {measures : RoutedBridge ExactMs → ExactMs → Prop} {i j : Nat} {total other : ExactMs}
    (first : Optimal bridges measures i total) (second : Optimal bridges measures j other) :
    i = j ∧ total = other := by
  obtain ⟨⟨b, listed, measured⟩, least⟩ := first
  obtain ⟨⟨c, present, compared⟩, lowest⟩ := second
  have below := least j c other present compared
  have above := lowest i b total listed measured
  have same : total = other := le_antisymm below.1 above.1
  have before := below.2 same.symm
  have after := above.2 same
  exact ⟨by omega, same⟩

/-- The action for a route through the bridges of a configuration. -/
def SmartRoutingConfig.ActionOf (cfg : SmartRoutingConfig ExactMs) (route : Route)
    (action : RouteAction) : Prop :=
  match route with
  | .direct => action = .passthrough
  | .viaBridge i => ∃ b, cfg.bridges[i]? = some b ∧
    action = .rewriteTo ⟨.v4 (Ipv4Addr.new 127 0 0 1), b.listenPort⟩

/-- The action of a choice with one margin honours the other exactly outside the gap. -/
theorem honours_iff {route : Route} {action : RouteAction}
    (routes : ∀ i, route = .viaBridge i ↔
      ∃ total, cfg.Optimal region i total ∧ total + 2 < cfg.directRtt region)
    (passes : route = .direct ↔
      ¬ ∃ i total, cfg.Optimal region i total ∧ total + 2 < cfg.directRtt region)
    (acted : cfg.ActionOf route action) : cfg.Honours region action ↔ cfg.OutsideGap region := by
  constructor
  · intro honours i total optimal
    apply beats_iff_outside_gap.mp
    cases route with
    | direct =>
      have passed : action = .passthrough := acted
      have unbeaten := passes.mp rfl
      have unpaid := honours.passthrough_iff.mp passed
      constructor
      · intro beats
        exact absurd ⟨i, total, optimal, beats⟩ unbeaten
      · intro beats
        exact absurd ⟨i, total, optimal, beats⟩ unpaid
    | viaBridge j =>
      obtain ⟨b, listed, rewritten⟩ := acted
      obtain ⟨other, least, beats⟩ := (routes j).mp rfl
      obtain ⟨k, c, paid, best, pays, _⟩ := (honours.rewriteTo_iff _).mp rewritten
      have first := (optimal_unique optimal least).2
      have second := (optimal_unique optimal best).2
      rw [← first] at beats
      rw [← second] at pays
      exact iff_of_true beats pays
  · intro outside
    have agree {i : Nat} {total : ExactMs} (optimal : cfg.Optimal region i total) :
        total + 2 < cfg.directRtt region ↔ cfg.Beats region total :=
      beats_iff_outside_gap.mpr (outside i total optimal)
    cases route with
    | direct =>
      have passed : action = .passthrough := acted
      have unpaid : ¬ ∃ i total, cfg.Optimal region i total ∧ cfg.Beats region total := by
        rintro ⟨i, total, optimal, pays⟩
        exact passes.mp rfl ⟨i, total, optimal, (agree optimal).mpr pays⟩
      constructor
      · intro target
        rw [passed]
        constructor
        · intro rewritten
          contradiction
        · rintro ⟨i, b, total, optimal, pays, _⟩
          exact absurd ⟨i, total, optimal, pays⟩ unpaid
      · exact iff_of_true passed unpaid
    | viaBridge j =>
      obtain ⟨b, listed, rewritten⟩ := acted
      obtain ⟨total, optimal, beats⟩ := (routes j).mp rfl
      have pays := (agree optimal).mp beats
      constructor
      · intro target
        rw [rewritten]
        constructor
        · intro same
          exact ⟨j, b, total, optimal, pays, listed, (RouteAction.rewriteTo.inj same).symm⟩
        · rintro ⟨k, c, other, least, _, present, rfl⟩
          obtain rfl := (optimal_unique optimal least).1
          rw [Option.some.inj (present.symm.trans listed)]
      · rw [rewritten]
        constructor
        · intro same
          contradiction
        · intro unpaid
          exact absurd ⟨j, total, optimal, pays⟩ unpaid

end

/-- The resolver that `run_with_tui` installs honours the configured margin for a destination
without a cached decision exactly if its direct RTT is outside the gap. -/
theorem margin_honoured_iff (aws : Snapshot) (cfg : SmartRoutingConfig ExactMs)
    (routers : List (Router ExactMs)) (router : Router ExactMs) (now : Instant)
    (dst : SocketAddr) (protocol : Protocol)
    (shared : routers[(runWithTui aws cfg).2.router]? = some router)
    (same : (cfg.seeded aws).SameTables router) (stale : router.cached now dst.ip = none) :
    ∃ action later,
      (runWithTui aws cfg).2.resolve routers now dst protocol = some (action, later) ∧
        (cfg.Honours (aws.regionFor dst.ip) action ↔ cfg.OutsideGap (aws.regionFor dst.ip)) := by
  have looked : router.aws = aws := by
    rw [same, SmartRoutingConfig.seeded, Router.seeded]
    rfl
  have bridges : router.bridges = cfg.bridges := by
    rw [same, SmartRoutingConfig.seeded, Router.seeded]
    rfl
  have chosen := router.fresh_chooses (aws.regionFor dst.ip) (cfg.directRtt (aws.regionFor dst.ip))
  obtain ⟨name, picked⟩ := Router.pick_stale stale (cfg.directRtt (aws.regionFor dst.ip))
  rw [looked] at picked
  generalize (router.fresh (aws.regionFor dst.ip) (cfg.directRtt (aws.regionFor dst.ip))).1 =
    route at chosen picked
  generalize router.note _ = next at picked
  obtain ⟨routes, passes⟩ := seeded_chooses same chosen
  have kept : next.bridges = cfg.bridges := by
    rw [Router.pick_sameTables picked]
    exact bridges
  have acted : ∃ action, next.action route = some action ∧ cfg.ActionOf route action := by
    cases route with
    | direct => exact ⟨.passthrough, rfl, rfl⟩
    | viaBridge i =>
      obtain ⟨total, ⟨⟨b, listed, _⟩, _⟩, _⟩ := (routes i).mp rfl
      refine ⟨.rewriteTo ⟨.v4 (Ipv4Addr.new 127 0 0 1), b.listenPort⟩, ?_, b, listed, rfl⟩
      rw [Router.action, kept, listed]
      rfl
  obtain ⟨action, answered, acts⟩ := acted
  refine ⟨action, routers.set (runWithTui aws cfg).2.router next, ?_,
    honours_iff routes passes acts⟩
  have direct : (runWithTui aws cfg).2.directRtt dst.ip =
      cfg.directRtt (aws.regionFor dst.ip) := rfl
  rw [SmartResolver.resolve, shared, Option.bind_some, direct, picked, Option.bind_some]
  dsimp only
  rw [answered]
  rfl

/-- One bridge with a total of 23 ms where the direct path takes 30 ms, and a margin of 10 ms. -/
def wideMargin : SmartRoutingConfig ExactMs where
  bridges := [{
    endpoint := ⟨.v4 (Ipv4Addr.new 149 28 240 106), 52820⟩
    bridgeX25519PubkeyHex := "0000000000000000000000000000000000000000000000000000000000000000"
    licenseToken := "tok"
    listenPort := 9701
    name := "dallas"
    regionRttMs := (∅ : AList fun _ : String => ExactMs).insert "us-east-1" 1 }]
  directRttMs := (∅ : AList fun _ : String => ExactMs).insert "us-east-1" 30
  marginMs := 10

/-- The configuration `wideMargin` where the direct path takes 40 ms. -/
def clearMargin : SmartRoutingConfig ExactMs :=
  { wideMargin with directRttMs := (∅ : AList fun _ : String => ExactMs).insert "us-east-1" 40 }

/-- The bridge beats a direct path of 40 ms with either margin: a packet to the server is tunnelled
as configured. -/
theorem clearMargin_honoured : ∃ action later,
    (runWithTui excerpt clearMargin).2.resolve (runWithTui excerpt clearMargin).1 0 eastServer.dst
      .udp = some (action, later) ∧
    excerpt.regionFor eastServer.dst.ip = some "us-east-1" ∧
    action = .rewriteTo ⟨.v4 (Ipv4Addr.new 127 0 0 1), 9701⟩ ∧
    clearMargin.Honours (excerpt.regionFor eastServer.dst.ip) action := by
  have region : excerpt.regionFor eastServer.dst.ip = some "us-east-1" := by decide +kernel
  have outside : clearMargin.OutsideGap (excerpt.regionFor eastServer.dst.ip) := by
    rintro i total ⟨⟨b, listed, r, fromB, known, measured, rfl⟩, _⟩
    rw [region] at known
    obtain rfl := Option.some.inj known
    have position : i = 0 := by
      have bound := (List.getElem?_eq_some_iff.mp listed).1
      simpa [clearMargin, wideMargin] using bound
    subst position
    obtain rfl := Option.some.inj listed
    obtain rfl := Option.some.inj measured
    right
    decide +kernel
  have tunnelled : ((runWithTui excerpt clearMargin).2.resolve (runWithTui excerpt clearMargin).1 0
      eastServer.dst .udp).map Prod.fst =
        some (.rewriteTo ⟨.v4 (Ipv4Addr.new 127 0 0 1), 9701⟩) := by
    decide +kernel
  obtain ⟨action, later, resolved, honours⟩ := margin_honoured_iff excerpt clearMargin _ _ 0
    eastServer.dst .udp (tui_router excerpt clearMargin) rfl rfl
  rw [resolved] at tunnelled
  exact ⟨action, later, resolved, region, Option.some.inj tunnelled, honours.mpr outside⟩

/-- A packet to the server is tunnelled against the configured margin. -/
theorem wideMargin_ignored : ¬ ∀ (aws : Snapshot) (cfg : SmartRoutingConfig ExactMs)
    (dst : SocketAddr) (action : RouteAction) (later : List (Router ExactMs)),
    (runWithTui aws cfg).2.resolve (runWithTui aws cfg).1 0 dst .udp = some (action, later) →
    cfg.Honours (aws.regionFor dst.ip) action := by
  intro honoured
  have tunnelled : ((runWithTui excerpt wideMargin).2.resolve (runWithTui excerpt wideMargin).1 0
      eastServer.dst .udp).map Prod.fst =
        some (.rewriteTo ⟨.v4 (Ipv4Addr.new 127 0 0 1), 9701⟩) := by
    decide +kernel
  obtain ⟨⟨action, later⟩, resolved, rfl⟩ := Option.map_eq_some_iff.mp tunnelled
  have honours := honoured excerpt wideMargin eastServer.dst _ later resolved
  have region : excerpt.regionFor eastServer.dst.ip = some "us-east-1" := by decide +kernel
  rw [region] at honours
  obtain ⟨i, b, total, ⟨⟨c, listed, r, fromB, known, measured, rfl⟩, _⟩, beats, _⟩ :=
    (honours.rewriteTo_iff _).mp rfl
  obtain rfl := Option.some.inj known
  have position : i = 0 := by
    have bound := (List.getElem?_eq_some_iff.mp listed).1
    simpa [wideMargin] using bound
  subst position
  obtain rfl := Option.some.inj listed
  obtain rfl := Option.some.inj measured
  revert beats
  unfold SmartRoutingConfig.Beats
  decide +kernel

end LowPing.Client
