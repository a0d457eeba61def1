import LowPing.Client.DecisionCache
import LowPing.Library.Ring

/-!
# The decision log

What `recent_decisions` and `cache_size` show of a router. Over any sequence of calls the panel has
the newest decisions, newest first; the cache has the newest decision on each address, and two
decisions on one address are an interval apart.
-/

namespace LowPing.Client

open LowPing.Capture (Instant)
open LowPing.Library
open Machine (run run_concat run_history_invariant)

section

variable {F : Type}

/-- `recent_decisions`: newest first. -/
def Router.recentDecisions (router : Router F) (n : Nat) : List (DecisionLog F) :=
  router.recent.reverse.take n

/-- `cache_size`. -/
def Router.cacheSize (router : Router F) : Nat := router.cache.keys.length

/-- The decision a log entry is of. -/
def DecisionLog.decision (entry : DecisionLog F) : Decision F where
  route := entry.route
  decidedAt := entry.time
  directRttMs := entry.directRttMs
  viaBridgeRttMs := entry.viaBridgeRttMs

/-- The newest entry on an address. -/
def newestOn (entries : List (DecisionLog F)) (ip : IpAddr) : Option (DecisionLog F) :=
  Ring.latest (fun entry => entry.dest.ip = ip) entries

end

variable {F : Type} [Add F] [LT F] [DecidableLT F] [Top F]

/-- What a call logs: a pick without a fresh decision on its address makes one. -/
def Router.evaluation (router : Router F) : RouterEvent F → Option (DecisionLog F)
  | .record .. => none
  | .pick time dest directRttMs =>
    match router.cached time dest.ip with
    | some _ => none
    | none =>
      let region := router.aws.regionFor dest.ip
      let (route, viaTotal) := router.fresh region directRttMs
      (router.bridgeName route).map fun name =>
        ⟨time, dest, region, directRttMs, viaTotal, route, name⟩

/-- Every decision a sequence of calls makes, in order. -/
def Router.decisions (router : Router F) : List (RouterEvent F) → List (DecisionLog F)
  | [] => []
  | event :: events =>
    (router.evaluation event).toList ++ match router.step event with
      | none => []
      | some next => next.decisions events

/-- An entry tells what was chosen: some calls into the sequence the address had no fresh decision,
and route and RTT are those computed then for its region. -/
structure Router.Tells (start : Router F) (events : List (RouterEvent F)) (entry : DecisionLog F) :
    Prop where
  /-- The region is that of the address. -/
  region : entry.region = start.aws.regionFor entry.dest.ip
  /-- The bridge is the one of the route, which is among those there are. -/
  named : start.bridgeName entry.route = some entry.bridgeName
  /-- What was known at the time gave the route. -/
  chosen : ∃ past earlier, past <+: events ∧ run Router.step start past = some earlier ∧
    earlier.cached entry.time entry.dest.ip = none ∧
    earlier.fresh entry.region entry.directRttMs = (entry.route, entry.viaBridgeRttMs)

/-- What a router shows is an account of the decisions it made. -/
structure Router.Accounts (start : Router F) (events : List (RouterEvent F))
    (entries : List (DecisionLog F)) (router : Router F) : Prop where
  /-- The log holds the newest. -/
  recent : router.recent = entries.rtake start.recentCapacity
  /-- The cache has the newest on each address. -/
  cached : ∀ ip, router.cache.lookup ip = (newestOn entries ip).map DecisionLog.decision
  /-- Two on one address are an interval apart. -/
  spaced : entries.Pairwise fun older newer => older.dest.ip = newer.dest.ip →
    older.time + start.rerouteInterval ≤ newer.time
  /-- Each is told as it was made. -/
  told : ∀ entry ∈ entries, start.Tells events entry

section

variable {start router next : Router F} {events : List (RouterEvent F)} {event : RouterEvent F}
  {entries : List (DecisionLog F)} {entry : DecisionLog F}

/-- The decisions of one more call come last. -/
theorem Router.decisions_concat (reached : run Router.step start events = some router) :
    start.decisions (events ++ [event]) =
      start.decisions events ++ (router.evaluation event).toList := by
  induction events generalizing start with
  | nil =>
    obtain rfl := Option.some.inj reached
    rw [List.nil_append, decisions, decisions, List.nil_append]
    cases start.step event with
    | none => exact List.append_nil _
    | some next => exact List.append_nil _
  | cons first events ih =>
    obtain ⟨middle, taken, rest⟩ := Option.bind_eq_some_iff.mp reached
    rw [List.cons_append, decisions, decisions, taken]
    dsimp only
    rw [ih rest, List.append_assoc]

/-- A call that makes no decision changes neither log nor cache; another one notes it. -/
theorem Router.evaluation_cases (taken : router.step event = some next) :
    (router.evaluation event = none ∧ next.recent = router.recent ∧ next.cache = router.cache) ∨
    ∃ entry, router.evaluation event = some entry ∧ next = router.note entry ∧
      router.cached entry.time entry.dest.ip = none ∧
      entry.region = router.aws.regionFor entry.dest.ip ∧
      router.fresh entry.region entry.directRttMs = (entry.route, entry.viaBridgeRttMs) ∧
      router.bridgeName entry.route = some entry.bridgeName := by
  cases event with
  | record bridgeName rttMs =>
    obtain rfl := Option.some.inj taken
    exact .inl ⟨rfl, rfl, rfl⟩
  | pick time dest direct =>
    cases hit : router.cached time dest.ip with
    | some route =>
      rw [step, pick_hit hit] at taken
      obtain rfl := Option.some.inj taken
      exact .inl ⟨by rw [evaluation, hit], rfl, rfl⟩
    | none =>
      obtain ⟨name, named⟩ := router.fresh_inRange (router.aws.regionFor dest.ip) direct
      rw [step, pick, hit] at taken
      dsimp only at taken
      rw [named] at taken
      refine .inr ⟨⟨time, dest, router.aws.regionFor dest.ip, direct, _, _, name⟩, ?_,
        (Option.some.inj taken).symm, hit, rfl, rfl, named⟩
      rw [evaluation, hit]
      dsimp only
      rw [named]
      rfl

/-- An entry goes on telling what it told. -/
theorem Router.Tells.more (tells : start.Tells events entry) :
    start.Tells (events ++ [event]) entry := by
  obtain ⟨past, earlier, early, chosen⟩ := tells.chosen
  exact ⟨tells.region, tells.named, past, earlier, early.trans (List.prefix_append _ _), chosen⟩

/-- No older decision on an address is later than the one in the cache. -/
theorem Router.Accounts.older (accounts : start.Accounts events entries router)
    (member : entry ∈ entries) :
    ∃ newest, newestOn entries entry.dest.ip = some newest ∧ entry.time ≤ newest.time ∧
      router.cache.lookup entry.dest.ip = some newest.decision := by
  have any : (newestOn entries entry.dest.ip).isSome :=
    Ring.latest_isSome.mpr ⟨entry, member, decide_eq_true rfl⟩
  obtain ⟨newest, found⟩ := Option.isSome_iff_exists.mp any
  refine ⟨newest, found, ?_, ?_⟩
  · have here : newest.dest.ip = entry.dest.ip := by
      simpa using List.find?_some found
    rcases Ring.latest_related accounts.spaced found member (decide_eq_true rfl) with same | before
    · rw [same]
    · have apart : entry.time + start.rerouteInterval ≤ newest.time := before here.symm
      exact Nat.le_trans (Nat.le_add_right _ _) apart
  · rw [accounts.cached, found]
    rfl

/-- A decision made without a fresh one on its address is an interval later than any on it. -/
theorem Router.Accounts.apart (accounts : start.Accounts events entries router)
    (interval : 0 < start.rerouteInterval) (setup : start.SameSetup router)
    (stale : router.cached entry.time entry.dest.ip = none) {older : DecisionLog F}
    (member : older ∈ entries) (here : older.dest.ip = entry.dest.ip) :
    older.time + start.rerouteInterval ≤ entry.time := by
  obtain ⟨newest, _, later, known⟩ := accounts.older member
  rw [here] at known
  rw [Router.cached, known] at stale
  dsimp only at stale
  split at stale
  · contradiction
  · rename_i expired
    rw [setup.rerouteInterval] at expired
    have gone : start.rerouteInterval ≤ entry.time - newest.time := Nat.le_of_not_lt expired
    have past : newest.time ≤ entry.time :=
      Nat.le_of_lt (Nat.lt_of_sub_pos (Nat.lt_of_lt_of_le interval gone))
    calc
      older.time + start.rerouteInterval ≤ newest.time + start.rerouteInterval :=
        Nat.add_le_add_right later _
      _ = start.rerouteInterval + newest.time := Nat.add_comm _ _
      _ ≤ entry.time := Nat.add_le_of_le_sub past gone

/-- A decision noted is accounted for. -/
theorem Router.Accounts.noted (accounts : start.Accounts events entries router)
    (room : 0 < start.recentCapacity) (interval : 0 < start.rerouteInterval)
    (setup : start.SameSetup router) (capacity : router.recentCapacity = start.recentCapacity)
    (stale : router.cached entry.time entry.dest.ip = none)
    (tells : start.Tells (events ++ [event]) entry) :
    start.Accounts (events ++ [event]) (entries ++ [entry]) (router.note entry) where
  recent := by
    rw [← Ring.push_rtake room, ← accounts.recent, ← capacity]
    rfl
  cached ip := by
    rw [newestOn, Ring.latest_concat]
    by_cases here : entry.dest.ip = ip
    · subst here
      rw [if_pos (decide_eq_true rfl)]
      exact AList.lookup_insert _
    · rw [if_neg (by simpa using here)]
      exact (AList.lookup_insert_ne (Ne.symm here)).trans (accounts.cached ip)
  spaced := by
    rw [List.pairwise_append]
    refine ⟨accounts.spaced, List.pairwise_singleton _ _, fun older member newer last here => ?_⟩
    obtain rfl := List.mem_singleton.mp last
    exact accounts.apart interval setup stale member here
  told other member := by
    rcases List.mem_append.mp member with old | last
    · exact (accounts.told other old).more
    · obtain rfl := List.mem_singleton.mp last
      exact tells

/-- One call is accounted for. -/
theorem Router.accounts_step (room : 0 < start.recentCapacity)
    (interval : 0 < start.rerouteInterval) (reached : run Router.step start events = some router)
    (setup : start.SameSetup router) (capacity : router.recentCapacity = start.recentCapacity)
    (accounts : start.Accounts events entries router) (taken : router.step event = some next) :
    next.recentCapacity = start.recentCapacity ∧
      start.Accounts (events ++ [event]) (entries ++ (router.evaluation event).toList) next := by
  rcases evaluation_cases taken with ⟨idle, recent, cache⟩ |
    ⟨entry, made, rfl, stale, region, chosen, named⟩
  · refine ⟨?_, ?_⟩
    · rcases step_cases taken with ⟨_, _, rfl, rfl⟩ | ⟨_, _, _, _, rfl, _, rfl⟩ |
        ⟨_, _, _, _, rfl, _, rfl⟩
      · exact capacity
      · exact capacity
      · exact capacity
    · rw [idle, Option.toList_none, List.append_nil]
      exact {
        recent := recent.trans accounts.recent
        cached := fun ip => by rw [cache, accounts.cached]
        spaced := accounts.spaced
        told := fun entry member => (accounts.told entry member).more }
  · refine ⟨capacity, ?_⟩
    rw [made, Option.toList_some]
    refine accounts.noted room interval setup capacity stale ⟨?_, ?_, events, router,
      List.prefix_append _ _, reached, stale, chosen⟩
    · rw [region, setup.aws]
    · rw [← named]
      cases entry.route with
      | direct => rfl
      | viaBridge i => rw [bridgeName, bridgeName, setup.bridges]

/-- Every call is answered. -/
theorem Router.step_isSome (router : Router F) (event : RouterEvent F) :
    ∃ next, router.step event = some next := by
  cases event with
  | record bridgeName rttMs => exact ⟨_, rfl⟩
  | pick time dest direct =>
    cases hit : router.cached time dest.ip with
    | some route => exact ⟨_, by rw [step, pick_hit hit]; rfl⟩
    | none =>
      obtain ⟨name, picked⟩ := pick_stale hit direct
      exact ⟨_, by rw [step, picked]; rfl⟩

/-- After every run the router accounts for the decisions made. -/
theorem Router.accounts_run (room : 0 < start.recentCapacity)
    (interval : 0 < start.rerouteInterval) (fresh : start.recent = [] ∧ start.cache = ∅)
    (events : List (RouterEvent F)) :
    ∃ final, run Router.step start events = some final ∧ start.SameSetup final ∧
      final.recentCapacity = start.recentCapacity ∧
      start.Accounts events (start.decisions events) final := by
  induction events using List.reverseRecOn with
  | nil =>
    refine ⟨start, rfl, ⟨rfl, rfl, rfl, rfl⟩, rfl, ?_, ?_, .nil, nofun⟩
    · rw [fresh.1, decisions, List.rtake_nil]
    · intro ip
      rw [fresh.2]
      rfl
  | append_singleton events event ih =>
    obtain ⟨router, reached, setup, capacity, accounts⟩ := ih
    obtain ⟨next, taken⟩ := router.step_isSome event
    obtain ⟨capacity', accounts'⟩ :=
      accounts_step room interval reached setup capacity accounts taken
    refine ⟨next, ?_, setup_step setup taken, capacity', ?_⟩
    · rw [run_concat, reached]
      exact taken
    · rw [decisions_concat reached]
      exact accounts'

/-- The cache has one entry for each address decided on. -/
theorem Router.Accounts.size (accounts : start.Accounts events entries router) :
    router.cacheSize = (entries.map fun entry => entry.dest.ip).dedup.length := by
  refine List.Perm.length_eq ((List.perm_ext_iff_of_nodup router.cache.keys_nodup
    (List.nodup_dedup _)).mpr fun ip => ?_)
  rw [← AList.mem_keys, ← AList.lookup_isSome, accounts.cached, Option.isSome_map, newestOn,
    Ring.latest_isSome, List.mem_dedup, List.mem_map]
  simp only [decide_eq_true_eq]

/-- A pick answers with the newest decision on its address. -/
theorem Router.Accounts.answered (accounts : start.Accounts events entries router)
    {time : Instant} {dest : SocketAddr} {direct : F} {route : Route}
    (picked : next.pick time dest direct = some (route, router)) :
    ∃ newest, newestOn entries dest.ip = some newest ∧ newest.route = route := by
  obtain ⟨d, known, chosen, _⟩ := pick_kept picked
  rw [accounts.cached] at known
  obtain ⟨newest, found, rfl⟩ := Option.map_eq_some_iff.mp known
  exact ⟨newest, found, chosen⟩

end

/-- What `recent_decisions`, `cache_size` and `pick` say agrees with the decisions made. -/
structure Router.Shows (start : Router F) (events : List (RouterEvent F))
    (entries : List (DecisionLog F)) (router : Router F) : Prop
    extends start.Accounts events entries router where
  /-- The panel has the newest decisions, newest first, and at most 64. -/
  panel : ∀ n, router.recentDecisions n = entries.reverse.take (min n 64)
  /-- The cache counts the addresses decided on. -/
  counted : router.cacheSize = (entries.map fun entry => entry.dest.ip).dedup.length
  /-- The next pick answers with the newest decision on its address, the one it makes included. -/
  answers : ∀ time dest direct, ∃ route next newest,
    router.pick time dest direct = some (route, next) ∧
      newestOn (start.decisions (events ++ [.pick time dest direct])) dest.ip = some newest ∧
      newest.route = route

/-- After every sequence of calls, none of which panics, a router shows the decisions it made. -/
theorem decisions_shown [NatCast F] (aws : Snapshot) (bridges : List (RoutedBridge F))
    (events : List (RouterEvent F)) :
    ∃ router, run Router.step (Router.new aws bridges) events = some router ∧
      (Router.new aws bridges).Shows events ((Router.new aws bridges).decisions events) router := by
  have room : 0 < (Router.new aws bridges).recentCapacity := by
    change 0 < 64
    decide
  have interval : 0 < (Router.new aws bridges).rerouteInterval := by
    change 0 < 60 * 1000000000
    decide
  have accounted := Router.accounts_run room interval ⟨rfl, rfl⟩
  obtain ⟨router, reached, setup, capacity, accounts⟩ := accounted events
  refine ⟨router, reached, { accounts with panel := ?_, counted := accounts.size, answers := ?_ }⟩
  · intro n
    rw [Router.recentDecisions, accounts.recent, Ring.take_reverse_rtake]
    rfl
  · intro time dest direct
    obtain ⟨next, longer, _, _, accounts'⟩ := accounted (events ++ [.pick time dest direct])
    rw [run_concat, reached] at longer
    obtain ⟨⟨route, after⟩, picked, rfl⟩ := Option.map_eq_some_iff.mp longer
    obtain ⟨newest, found, chosen⟩ := accounts'.answered picked
    exact ⟨route, after, newest, picked, found, chosen⟩

end LowPing.Client
