import LowPing.Client.Smart
import LowPing.Common.Snapshot
import LowPing.Library.Cost

/-!
# Route choice

`gr-client`'s `Router`. For a destination it compares the direct path with the paths through the
bridges whose round-trip times are known, and keeps each decision for a while. Round-trip times are
`f64` in the program; the model takes any type with its operations. The clock is read once in a
call.
-/

namespace LowPing.Client

open LowPing.Capture (Instant)
open LowPing.Library

/-- A `BridgeEntry` with the fields the router reads. -/
structure RoutedBridge (F : Type) extends BridgeEntry where
  /-- Stable name used in logs and config references. -/
  name : String
  /-- Bridge to AWS region RTT. -/
  regionRttMs : AList fun _ : String => F

/-- `Route`. -/
inductive Route where
  /-- Not captured. -/
  | direct
  /-- Tunnelled through a bridge, by its position. -/
  | viaBridge (idx : Nat)
  deriving DecidableEq

/-- `Decision`. -/
structure Decision (F : Type) where
  /-- The route. -/
  route : Route
  /-- When it was chosen. -/
  decidedAt : Instant
  /-- The direct RTT it was chosen with. -/
  directRttMs : F
  /-- The least RTT through a bridge. -/
  viaBridgeRttMs : F

/-- `DecisionLog`. -/
structure DecisionLog (F : Type) where
  /-- The time of the decision. -/
  time : Instant
  /-- The destination. -/
  dest : SocketAddr
  /-- Its region. -/
  region : Option String
  /-- The direct RTT. -/
  directRttMs : F
  /-- The least RTT through a bridge. -/
  viaBridgeRttMs : F
  /-- The route. -/
  route : Route
  /-- The name of the bridge chosen. -/
  bridgeName : Option String

/-- `Router`. -/
structure Router (F : Type) where
  /-- The bridges. -/
  bridges : List (RoutedBridge F)
  /-- Client's measured RTT to each bridge. -/
  clientToBridgeMs : AList fun _ : String => F
  /-- The region lookup. -/
  aws : Snapshot
  /-- Decisions by destination. -/
  cache : AList fun _ : IpAddr => Decision F
  /-- The last decisions, oldest first. -/
  recent : List (DecisionLog F)
  /-- How many of them are kept. -/
  recentCapacity : Nat
  /-- A bridge is chosen only if it beats direct by this margin. -/
  marginMs : F
  /-- Decisions older than this are made anew, in nanoseconds. -/
  rerouteInterval : Nat

variable {F : Type} [Add F] [LT F] [DecidableLT F]

/-- `Router::new`. -/
def Router.new [NatCast F] (aws : Snapshot) (bridges : List (RoutedBridge F)) : Router F where
  bridges
  clientToBridgeMs := ∅
  aws
  cache := ∅
  recent := []
  recentCapacity := 64
  marginMs := (2 : ℕ)
  rerouteInterval := 60 * 1000000000

/-- `record_client_to_bridge`. -/
def Router.recordClientToBridge (router : Router F) (bridgeName : String) (rttMs : F) : Router F :=
  { router with clientToBridgeMs := router.clientToBridgeMs.insert bridgeName rttMs }

/-- The RTT through a bridge to a region; `none` where the loop of `pick` continues. -/
def Router.total (router : Router F) (region : Option String) (b : RoutedBridge F) : Option F :=
  match router.clientToBridgeMs.lookup b.name with
  | none => none
  | some toB =>
    match region with
    | none => none
    | some r => (b.regionRttMs.lookup r).map (toB + ·)

/-- One turn of the loop of `pick`. -/
def Router.consider (router : Router F) (region : Option String) (best : Option (Nat × F))
    (entry : RoutedBridge F × Nat) : Option (Nat × F) :=
  match router.total region entry.1 with
  | none => best
  | some total => keepLess best (entry.2, total)

/-- The loop of `pick`. -/
def Router.bestBridge (router : Router F) (region : Option String) : Option (Nat × F) :=
  router.bridges.zipIdx.foldl (router.consider region) none

/-- The route `pick` computes, with the RTT through the best bridge. -/
def Router.fresh [Top F] (router : Router F) (region : Option String) (directRttMs : F) :
    Route × F :=
  match router.bestBridge region with
  | some (idx, total) =>
    if total + router.marginMs < directRttMs then (.viaBridge idx, total) else (.direct, total)
  | none => (.direct, ⊤)

/-- The cached route of an address; the age of a decision saturates at zero. -/
def Router.cached (router : Router F) (now : Instant) (ip : IpAddr) : Option Route :=
  match router.cache.lookup ip with
  | none => none
  | some d => if now - d.decidedAt < router.rerouteInterval then some d.route else none

/-- The bridge name of a log entry; the outer `none` is the panic of an index out of range. -/
def Router.bridgeName (router : Router F) : Route → Option (Option String)
  | .direct => some none
  | .viaBridge i => (router.bridges[i]?).map fun b => some b.name

/-- A decision is cached and logged. -/
def Router.note (router : Router F) (entry : DecisionLog F) : Router F :=
  let kept :=
    if router.recent.length ≥ router.recentCapacity then router.recent.tail else router.recent
  { router with
    cache := router.cache.insert entry.dest.ip
      ⟨entry.route, entry.time, entry.directRttMs, entry.viaBridgeRttMs⟩
    recent := kept ++ [entry] }

/-- `pick`; `none` is a panic. -/
def Router.pick [Top F] (router : Router F) (now : Instant) (dest : SocketAddr)
    (directRttMs : F) : Option (Route × Router F) :=
  match router.cached now dest.ip with
  | some route => some (route, router)
  | none =>
    let region := router.aws.regionFor dest.ip
    let (route, viaTotal) := router.fresh region directRttMs
    (router.bridgeName route).map fun name =>
      (route, router.note ⟨now, dest, region, directRttMs, viaTotal, route, name⟩)

/-! ## The loop -/

/-- The bridges with an RTT to a region, by position. -/
def Router.candidates (router : Router F) (region : Option String) : List (Nat × F) :=
  router.bridges.zipIdx.filterMap fun entry => (router.total region entry.1).map (entry.2, ·)

/-- The loop is a search for the least total. -/
theorem Router.bestBridge_eq (router : Router F) (region : Option String) :
    router.bestBridge region = (router.candidates region).foldl keepLess none := by
  rw [bestBridge, candidates, List.foldl_filterMap]
  congr 1
  funext best entry
  unfold consider
  cases router.total region entry.1 with
  | none => rfl
  | some total => rfl

omit [LT F] [DecidableLT F] in
/-- The totals of the candidates, in the order of the bridges. -/
theorem Router.candidates_snd (router : Router F) (region : Option String) :
    (router.candidates region).map Prod.snd = router.bridges.filterMap (router.total region) := by
  have unindexed : router.bridges.filterMap (router.total region) =
      (router.bridges.zipIdx.map Prod.fst).filterMap (router.total region) := by
    rw [List.zipIdx_map_fst]
  rw [unindexed, candidates, List.map_filterMap, List.filterMap_map]
  congr 1
  funext entry
  simp [Option.map_map, Function.comp_def]

/-- What the loop finds is a bridge. -/
theorem Router.bestBridge_lt {router : Router F} {region : Option String} {idx : Nat} {total : F}
    (found : router.bestBridge region = some (idx, total)) : idx < router.bridges.length := by
  rw [bestBridge_eq] at found
  rcases mem_of_search found with member | start
  · obtain ⟨⟨b, i⟩, listed, computed⟩ := List.mem_filterMap.mp member
    obtain ⟨_, _, same⟩ := Option.map_eq_some_iff.mp computed
    obtain ⟨rfl, rfl⟩ := Prod.mk.inj same
    exact (List.mem_zipIdx' listed).1
  · contradiction

/-- A fresh route is direct or through a bridge. -/
theorem Router.fresh_inRange [Top F] (router : Router F) (region : Option String)
    (directRttMs : F) :
    ∃ name, router.bridgeName (router.fresh region directRttMs).1 = some name := by
  unfold fresh
  cases found : router.bestBridge region with
  | none => exact ⟨none, rfl⟩
  | some best =>
    obtain ⟨idx, total⟩ := best
    dsimp only
    split
    · have bound := bestBridge_lt found
      simp [bridgeName, bound]
    · exact ⟨none, rfl⟩

/-! ## The cache -/

omit [Add F] [LT F] [DecidableLT F] in
/-- A cached route is that of a decision made within the interval. -/
theorem Router.decision_of_cached {router : Router F} {now : Instant} {ip : IpAddr} {route : Route}
    (hit : router.cached now ip = some route) : ∃ d, router.cache.lookup ip = some d ∧
      d.route = route ∧ now - d.decidedAt < router.rerouteInterval := by
  unfold cached at hit
  cases known : router.cache.lookup ip with
  | none =>
    rw [known] at hit
    contradiction
  | some d =>
    rw [known] at hit
    dsimp only at hit
    split at hit
    · rename_i young
      exact ⟨d, rfl, Option.some.inj hit, young⟩
    · contradiction

/-- A cached route is returned as it is. -/
theorem Router.pick_hit [Top F] {router : Router F} {now : Instant} {dest : SocketAddr}
    {route : Route} (hit : router.cached now dest.ip = some route) (direct : F) :
    router.pick now dest direct = some (route, router) := by
  rw [pick, hit]

/-- Without one the fresh route is noted and returned. -/
theorem Router.pick_stale [Top F] {router : Router F} {now : Instant} {dest : SocketAddr}
    (stale : router.cached now dest.ip = none) (direct : F) :
    ∃ name, router.pick now dest direct =
      some ((router.fresh (router.aws.regionFor dest.ip) direct).1,
        router.note ⟨now, dest, router.aws.regionFor dest.ip, direct,
          (router.fresh (router.aws.regionFor dest.ip) direct).2,
          (router.fresh (router.aws.regionFor dest.ip) direct).1, name⟩) := by
  obtain ⟨name, named⟩ := router.fresh_inRange (router.aws.regionFor dest.ip) direct
  refine ⟨name, ?_⟩
  rw [pick, stale]
  dsimp only
  rw [named]
  rfl

/-- The fresh route to an address under fixed direct RTTs. -/
def Router.routeTo [Top F] (router : Router F) (direct : IpAddr → F) (ip : IpAddr) : Route :=
  (router.fresh (router.aws.regionFor ip) (direct ip)).1

/-- Every cached route is the one that would be chosen now. -/
def Router.Settled [Top F] (router : Router F) (direct : IpAddr → F) : Prop :=
  ∀ ip d, router.cache.lookup ip = some d → d.route = router.routeTo direct ip

/-- Only cache and log differ. -/
def Router.SameTables (router next : Router F) : Prop :=
  next = { router with cache := next.cache, recent := next.recent }

/-- Cache and log play no part in a fresh route. -/
theorem Router.SameTables.routeTo [Top F] {router next : Router F} (same : router.SameTables next)
    (direct : IpAddr → F) : next.routeTo direct = router.routeTo direct := by
  rw [same]
  rfl

/-- A pick changes nothing else. -/
theorem Router.pick_sameTables [Top F] {router next : Router F} {now : Instant} {dest : SocketAddr}
    {direct : F} {route : Route} (picked : router.pick now dest direct = some (route, next)) :
    router.SameTables next := by
  cases hit : router.cached now dest.ip with
  | some cached =>
    rw [pick_hit hit] at picked
    obtain ⟨_, rfl⟩ := Prod.mk.inj (Option.some.inj picked)
    rfl
  | none =>
    obtain ⟨name, fresh⟩ := pick_stale hit direct
    obtain ⟨_, rfl⟩ := Prod.mk.inj (Option.some.inj (picked.symm.trans fresh))
    rfl

/-- A settled router picks the fresh route, whether or not it is cached, and stays settled. -/
theorem Router.pick_settled [Top F] {router : Router F} {direct : IpAddr → F}
    (settled : router.Settled direct) (now : Instant) (dest : SocketAddr) :
    ∃ next, router.pick now dest (direct dest.ip) =
        some (router.routeTo direct dest.ip, next) ∧
      router.SameTables next ∧ next.Settled direct := by
  cases hit : router.cached now dest.ip with
  | some route =>
    have fresh : route = router.routeTo direct dest.ip := by
      obtain ⟨d, known, rfl, _⟩ := decision_of_cached hit
      exact settled dest.ip d known
    exact ⟨router, by rw [pick_hit hit, fresh], rfl, settled⟩
  | none =>
    obtain ⟨name, picked⟩ := pick_stale hit (direct dest.ip)
    refine ⟨_, picked, rfl, ?_⟩
    intro ip d known
    change d.route = router.routeTo direct ip
    by_cases same : ip = dest.ip
    · rw [same, note, AList.lookup_insert] at known
      rw [← Option.some.inj known, same]
      rfl
    · rw [note, AList.lookup_insert_ne same] at known
      exact settled ip d known

end LowPing.Client
