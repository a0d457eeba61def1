import Mathlib.Algebra.Order.AddGroupWithTop
import Mathlib.Algebra.Order.Monoid.Unbundled.WithTop
import Mathlib.Data.Rat.Cast.Order
import LowPing.Client.Startup

/-!
# Optimal routes

What `pick` chooses where no decision is cached, with exact round-trip times: the first of the
bridges with the least total, if that beats the direct path by the margin.
-/

namespace LowPing.Client

open LowPing.Capture (Instant)
open LowPing.Library

/-- An exact round-trip time, or infinity. -/
abbrev ExactMs := WithTop ℚ

/-- The client's measurement to a bridge and the bridge's to a region add up to a total. -/
def Router.Measures {F : Type} [Add F] (router : Router F) (region : Option String)
    (b : RoutedBridge F) (total : F) : Prop :=
  ∃ r toB fromB, region = some r ∧ router.clientToBridgeMs.lookup b.name = some toB ∧
    b.regionRttMs.lookup r = some fromB ∧ total = toB + fromB

/-- A measured bridge has the least total of those measured, and the lowest index of those with that
total. -/
def Optimal (bridges : List (RoutedBridge ExactMs))
    (measures : RoutedBridge ExactMs → ExactMs → Prop) (i : Nat) (total : ExactMs) : Prop :=
  (∃ b, bridges[i]? = some b ∧ measures b total) ∧
    ∀ j b other, bridges[j]? = some b → measures b other → total ≤ other ∧ (other = total → i ≤ j)

/-- The optimal bridge of a router. -/
def Router.Optimal (router : Router ExactMs) (region : Option String) (i : Nat)
    (total : ExactMs) : Prop :=
  Client.Optimal router.bridges (router.Measures region) i total

/-- Exact costs are their own rank. -/
theorem exact_ranks : Ranks (fun _ => True) (id : ExactMs → ExactMs) where
  lt_iff _ := Iff.rfl
  below _ := trivial

section

variable {F : Type} [Add F] {router : Router F} {region : Option String}

/-- A total is computed exactly where both measurements are known. -/
theorem Router.total_eq_some_iff {b : RoutedBridge F} {total : F} :
    router.total region b = some total ↔ router.Measures region b total := by
  rw [Router.total, Router.Measures]
  cases router.clientToBridgeMs.lookup b.name with
  | none => simp
  | some toB =>
    cases region with
    | none => simp
    | some r => simp [eq_comm]

/-- The candidates are the bridges with a total. -/
theorem Router.mem_candidates {i : Nat} {total : F} : (i, total) ∈ router.candidates region ↔
    ∃ b, router.bridges[i]? = some b ∧ router.Measures region b total := by
  simp only [candidates, List.mem_filterMap, Option.map_eq_some_iff, Prod.exists,
    List.mem_zipIdx_iff_getElem?, Prod.mk.injEq, total_eq_some_iff]
  constructor
  · rintro ⟨b, _, present, _, measured, rfl, rfl⟩
    exact ⟨b, present, measured⟩
  · rintro ⟨b, present, measured⟩
    exact ⟨b, i, present, total, measured, rfl, rfl⟩

/-- The candidates are numbered by their positions. -/
theorem Router.candidates_numbered :
    (router.candidates region).Pairwise fun left right => left.1 < right.1 := by
  have positions : router.bridges.zipIdx.Pairwise fun left right => left.2 < right.2 := by
    rw [List.pairwise_iff_getElem]
    intro i j first second before
    simpa using before
  refine positions.filterMap _ ?_
  intro left right before i measured j later
  obtain ⟨_, _, rfl⟩ := Option.map_eq_some_iff.mp measured
  obtain ⟨_, _, rfl⟩ := Option.map_eq_some_iff.mp later
  exact before

end

section Exact

variable {router : Router ExactMs} {region : Option String}

/-- The loop finds the optimal bridge. -/
theorem Router.bestBridge_eq_some_iff {i : Nat} {total : ExactMs} :
    router.bestBridge region = some (i, total) ↔ router.Optimal region i total := by
  rw [bestBridge_eq, exact_ranks.search_eq_some_iff candidates_numbered, Lowest, mem_candidates]
  constructor
  · rintro ⟨present, lowest⟩
    refine ⟨present, fun j b other listed measured => ?_⟩
    obtain ⟨least, first⟩ := lowest (j, other) (mem_candidates.mpr ⟨b, listed, measured⟩)
    exact ⟨least, fun same => first same.le⟩
  · rintro ⟨present, optimal⟩
    refine ⟨present, fun item member => ?_⟩
    obtain ⟨b, listed, measured⟩ := mem_candidates.mp member
    obtain ⟨least, first⟩ := optimal item.1 b item.2 listed measured
    exact ⟨least, fun lower => first (le_antisymm lower least)⟩

/-- A route is a fresh choice if it is through the optimal bridge where that beats direct by the
margin, and direct elsewhere. -/
structure Router.Chooses (router : Router ExactMs) (region : Option String) (direct : ExactMs)
    (route : Route) (viaBridge : ExactMs) : Prop where
  /-- Through a bridge exactly if it is optimal and pays. -/
  viaBridge_iff : ∀ i, route = .viaBridge i ↔
    ∃ total, router.Optimal region i total ∧ total + router.marginMs < direct
  /-- Direct exactly if there is no such bridge. -/
  direct_iff : route = .direct ↔
    ¬ ∃ i total, router.Optimal region i total ∧ total + router.marginMs < direct
  /-- The RTT of the optimal bridge. -/
  least : ∀ i total, router.Optimal region i total → viaBridge = total
  /-- Infinity without one. -/
  unmeasured : (¬ ∃ i total, router.Optimal region i total) → viaBridge = ⊤

/-- What a router computes afresh is a fresh choice. -/
theorem Router.fresh_chooses (router : Router ExactMs) (region : Option String)
    (direct : ExactMs) :
    router.Chooses region direct (router.fresh region direct).1
      (router.fresh region direct).2 := by
  cases found : router.bestBridge region with
  | none =>
    have no_optimal (i : Nat) (total : ExactMs) : ¬ router.Optimal region i total := by
      intro optimal
      rw [bestBridge_eq_some_iff.mpr optimal] at found
      contradiction
    have fresh : router.fresh region direct = (.direct, ⊤) := by rw [Router.fresh, found]
    rw [fresh]
    exact ⟨fun i => by simp [no_optimal], by simp [no_optimal],
      fun i total optimal => absurd optimal (no_optimal i total), fun _ => rfl⟩
  | some best =>
    obtain ⟨i, total⟩ := best
    have optimal := bestBridge_eq_some_iff.mp found
    have only (j : Nat) (other : ExactMs) (least : router.Optimal region j other) :
        j = i ∧ other = total := by
      have same := (bestBridge_eq_some_iff.mpr least).symm.trans found
      exact Prod.mk.inj (Option.some.inj same)
    by_cases pays : total + router.marginMs < direct
    · have fresh : router.fresh region direct = (.viaBridge i, total) := by
        rw [Router.fresh, found]
        exact if_pos pays
      rw [fresh]
      refine ⟨fun j => ?_, ?_, fun j other least => (only j other least).2.symm, ?_⟩
      · constructor
        · intro same
          obtain rfl := Route.viaBridge.inj same
          exact ⟨total, optimal, pays⟩
        · rintro ⟨other, least, _⟩
          rw [(only j other least).1]
      · simpa using ⟨i, total, optimal, pays⟩
      · exact fun unmeasured => absurd ⟨i, total, optimal⟩ unmeasured
    · have fresh : router.fresh region direct = (.direct, total) := by
        rw [Router.fresh, found]
        exact if_neg pays
      have none_pays : ¬ ∃ j other, router.Optimal region j other ∧
          other + router.marginMs < direct := by
        rintro ⟨j, other, least, beats⟩
        rw [(only j other least).2] at beats
        exact pays beats
      rw [fresh]
      refine ⟨fun j => ?_, by simpa using none_pays,
        fun j other least => (only j other least).2.symm, ?_⟩
      · constructor
        · intro same
          contradiction
        · rintro ⟨other, beats⟩
          exact absurd ⟨j, other, beats⟩ none_pays
      · exact fun unmeasured => absurd ⟨i, total, optimal⟩ unmeasured

/-- Where no decision is cached, `pick` returns a fresh choice and logs it. -/
theorem pick_optimal (router : Router ExactMs) (now : Instant) (dest : SocketAddr)
    (direct : ExactMs) (stale : router.cached now dest.ip = none) :
    ∃ route next entry, router.pick now dest direct = some (route, next) ∧
      next.recent.getLast? = some entry ∧ entry.route = route ∧
      router.Chooses (router.aws.regionFor dest.ip) direct route entry.viaBridgeRttMs := by
  obtain ⟨name, picked⟩ := Router.pick_stale stale direct
  have chosen := router.fresh_chooses (router.aws.regionFor dest.ip) direct
  exact ⟨_, _, _, picked, List.getLast?_concat .., rfl, chosen⟩

/-- Two bridges at equal totals, and a third without a measurement. -/
def threeBridges : Router ExactMs :=
  let bridge (name : String) (listenPort : UInt16) (eastMs : ExactMs) : RoutedBridge ExactMs := {
    endpoint := ⟨.v4 (Ipv4Addr.new 45 77 158 154), 52820⟩
    bridgeX25519PubkeyHex := "0000000000000000000000000000000000000000000000000000000000000000"
    licenseToken := "tok"
    listenPort
    name
    regionRttMs := (∅ : AList fun _ : String => ExactMs).insert "us-east-1" eastMs }
  ((Router.new excerpt [bridge "sea" 9702 1, bridge "nj" 9700 5, bridge "dallas" 9701 18]
    ).recordClientToBridge "nj" 35).recordClientToBridge "dallas" 22

/-- The second of them is chosen where the direct path takes 43 ms. -/
theorem nj_chosen : ∃ route next entry,
    threeBridges.pick 0 eastServer.dst 43 = some (route, next) ∧
      next.recent.getLast? = some entry ∧ entry.route = route ∧
      threeBridges.Chooses (threeBridges.aws.regionFor eastServer.dst.ip) 43 route
        entry.viaBridgeRttMs :=
  pick_optimal threeBridges 0 eastServer.dst 43 rfl

end Exact

end LowPing.Client
