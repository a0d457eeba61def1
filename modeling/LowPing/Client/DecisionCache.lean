import LowPing.Client.RouteChoice
import LowPing.Library.Machine

/-!
# The decision cache over runs

Calls of `record_client_to_bridge` and `pick` on one router. A pick answers with the route chosen at
the latest pick of the same address that found no fresh decision, and nothing but the measurements
and the picks of that address bears on it.
-/

namespace LowPing.Client

open LowPing.Capture (Instant)
open LowPing.Library
open Machine (run run_append run_concat run_history_invariant)

/-- A call on a router. -/
inductive RouterEvent (F : Type) where
  /-- `record_client_to_bridge`. -/
  | record (bridgeName : String) (rttMs : F)
  /-- `pick`. -/
  | pick (time : Instant) (dest : SocketAddr) (directRttMs : F)

/-- When a pick is made. -/
def RouterEvent.time {F : Type} : RouterEvent F → Option Instant
  | .record .. => none
  | .pick time .. => some time

variable {F : Type} [Add F] [LT F] [DecidableLT F] [Top F]

/-- One call; a panic refuses it. -/
def Router.step (router : Router F) : RouterEvent F → Option (Router F)
  | .record bridgeName rttMs => some (router.recordClientToBridge bridgeName rttMs)
  | .pick time dest directRttMs => (router.pick time dest directRttMs).map Prod.snd

/-- A call in a sequence is a pick of an address that finds no fresh decision. -/
def Router.Evaluates (start : Router F) (events : List (RouterEvent F)) (ip : IpAddr)
    (position : Nat) (time : Instant) (directRttMs : F) (earlier : Router F) : Prop :=
  ∃ dest, events[position]? = some (.pick time dest directRttMs) ∧ dest.ip = ip ∧
    run Router.step start (events.take position) = some earlier ∧ earlier.cached time ip = none

/-- A decision is the fresh one at the latest pick that evaluated its address. -/
structure Router.Traced (start : Router F) (events : List (RouterEvent F)) (ip : IpAddr)
    (position : Nat) (d : Decision F) (earlier : Router F) : Prop where
  /-- Its pick evaluates. -/
  evaluates : start.Evaluates events ip position d.decidedAt d.directRttMs earlier
  /-- No later one does. -/
  latest : ∀ other time direct router, start.Evaluates events ip other time direct router →
    other ≤ position
  /-- It chose the route. -/
  chosen : d.route = (earlier.fresh (start.aws.regionFor ip) d.directRttMs).1

/-- What no call changes. -/
structure Router.SameSetup (start router : Router F) : Prop where
  /-- The bridges. -/
  bridges : router.bridges = start.bridges
  /-- The region lookup. -/
  aws : router.aws = start.aws
  /-- The margin. -/
  marginMs : router.marginMs = start.marginMs
  /-- How long decisions stay. -/
  rerouteInterval : router.rerouteInterval = start.rerouteInterval

section

variable {start router next : Router F} {events : List (RouterEvent F)} {event : RouterEvent F}
  {ip : IpAddr} {position : Nat} {time : Instant} {direct : F} {dest : SocketAddr}
  {earlier : Router F}

/-- What one call can do. -/
theorem Router.step_cases (taken : router.step event = some next) :
    (∃ bridgeName rttMs, event = .record bridgeName rttMs ∧
      next = router.recordClientToBridge bridgeName rttMs) ∨
    (∃ time dest direct route, event = .pick time dest direct ∧
      router.cached time dest.ip = some route ∧ next = router) ∨
    ∃ time dest direct name, event = .pick time dest direct ∧
      router.cached time dest.ip = none ∧
      next = router.note ⟨time, dest, router.aws.regionFor dest.ip, direct,
        (router.fresh (router.aws.regionFor dest.ip) direct).2,
        (router.fresh (router.aws.regionFor dest.ip) direct).1, name⟩ := by
  cases event with
  | record bridgeName rttMs => exact .inl ⟨bridgeName, rttMs, rfl, (Option.some.inj taken).symm⟩
  | pick time dest direct =>
    obtain ⟨⟨route, after⟩, picked, rfl⟩ := Option.map_eq_some_iff.mp taken
    cases hit : router.cached time dest.ip with
    | some cached =>
      rw [pick_hit hit] at picked
      obtain ⟨_, rfl⟩ := Prod.mk.inj (Option.some.inj picked)
      exact .inr (.inl ⟨time, dest, direct, cached, rfl, hit, rfl⟩)
    | none =>
      obtain ⟨name, fresh⟩ := pick_stale hit direct
      obtain ⟨_, rfl⟩ := Prod.mk.inj (Option.some.inj (picked.symm.trans fresh))
      exact .inr (.inr ⟨time, dest, direct, name, rfl, hit, rfl⟩)

/-- Every call keeps the setup. -/
theorem Router.setup_step (setup : start.SameSetup router) (taken : router.step event = some next) :
    start.SameSetup next := by
  obtain ⟨bridges, aws, marginMs, rerouteInterval⟩ := setup
  rcases step_cases taken with ⟨_, _, _, rfl⟩ | ⟨_, _, _, _, _, _, rfl⟩ | ⟨_, _, _, _, _, _, rfl⟩
  · exact ⟨bridges, aws, marginMs, rerouteInterval⟩
  · exact ⟨bridges, aws, marginMs, rerouteInterval⟩
  · exact ⟨bridges, aws, marginMs, rerouteInterval⟩

end

section

variable {start final : Router F} {events : List (RouterEvent F)}

end

/-! ## What one address sees -/

/-- What a router knows that bears on an address. -/
structure AddressView (F : Type) where
  /-- The client RTTs. -/
  clientToBridgeMs : AList fun _ : String => F
  /-- The decision on the address. -/
  decision : Option (Decision F)

/-- The view of an address. -/
def Router.view (router : Router F) (ip : IpAddr) : AddressView F :=
  ⟨router.clientToBridgeMs, router.cache.lookup ip⟩

section

variable {start router other next final : Router F} {events : List (RouterEvent F)}
  {event : RouterEvent F} {ip : IpAddr}

end

/-! ## Coherence -/

section

variable {start router next : Router F} {events : List (RouterEvent F)} {time : Instant}
  {dest : SocketAddr} {direct : F} {route : Route}

/-- After a pick the decision it answered with is kept and is fresh. -/
theorem Router.pick_kept (picked : router.pick time dest direct = some (route, next)) :
    ∃ d, next.cache.lookup dest.ip = some d ∧ d.route = route ∧
      (d.decidedAt = time ∨ time - d.decidedAt < router.rerouteInterval) := by
  cases hit : router.cached time dest.ip with
  | some kept =>
    rw [pick_hit hit] at picked
    obtain ⟨rfl, rfl⟩ := Prod.mk.inj (Option.some.inj picked)
    obtain ⟨d, known, same, young⟩ := decision_of_cached hit
    exact ⟨d, known, same, .inr young⟩
  | none =>
    obtain ⟨name, fresh⟩ := pick_stale hit direct
    obtain ⟨rfl, rfl⟩ := Prod.mk.inj (Option.some.inj (picked.symm.trans fresh))
    exact ⟨_, AList.lookup_insert _, rfl, .inl rfl⟩

end

end LowPing.Client
