import Mathlib.Logic.Function.Basic
import Mathlib.Data.List.Forall2
import Mathlib.Data.List.Infix
import LowPing.Library.Machine

/-!
# Relays

What a relay is for, without its concurrency. It admits sessions under keys and carries messages
between the two sides of each: a message of the near side is taken as a whole and given to the far
side piece by piece; what the far sides send waits in one queue until it is wrapped, as the next
message of the session then live under its key.

From the single actions follows what a whole run does. The pieces given for a session are the
messages taken for it, in order, none begun before the one before it is finished and each cut short
at most (`given_pieces`, `given_all`). What is wrapped was queued, in that order
(`wrapped_sublist`), goes back under the key it came by (`wrapped_keyed`) and is numbered
1, 2, 3, ... for each session (`numbers_eq`).
-/

namespace LowPing.Library

/-- A message of a far side. -/
structure Relay.Answer (κ β : Type*) where
  /-- The key it goes by. -/
  key : κ
  /-- The session it came from. -/
  origin : Nat
  /-- What was sent. -/
  message : List β
  deriving DecidableEq

/-- A relay between sessions with keys in `κ` and their far sides, for messages over `β`. -/
structure Relay (κ β : Type*) where
  /-- The key of each session ever admitted, in order of admission. -/
  admitted : List κ
  /-- The session now under a key. -/
  live : κ → Option Nat
  /-- What is left of the message being given to the far side of a session. -/
  outgoing : Nat → Option (List β)
  /-- What far sides have sent, oldest first. -/
  queue : List (Relay.Answer κ β)
  /-- A message taken from the queue, and the session it will be wrapped for. -/
  inHand : Option (Relay.Answer κ β × Nat)
  /-- How many messages were wrapped for a session. -/
  wrapped : Nat → Nat

namespace Relay

variable {κ β : Type*}

/-- A relay that has just started. -/
def start : Relay κ β where
  admitted := []
  live _ := none
  outgoing _ := none
  queue := []
  inHand := none
  wrapped _ := 0

/-- What a relay does at once. -/
inductive Action (κ β : Type*) where
  /-- A session is admitted under a key, in place of one that may be live there. -/
  | register (key : κ) (session : Nat)
  /-- The session live under a key is dismissed. -/
  | dismiss (key : κ) (session : Nat)
  /-- A message of the near side is taken. -/
  | take (key : κ) (session : Nat) (message : List β)
  /-- The far side accepts a piece of it. -/
  | give (session : Nat) (piece : List β)
  /-- It has been given whole. -/
  | finish (session : Nat)
  /-- The rest of it is given up. -/
  | abandon (session : Nat)
  /-- The far side sends a message. -/
  | answer (item : Answer κ β)
  /-- The oldest of them is picked for the session live under its key, or dropped without one. -/
  | pick
  /-- It is wrapped for that session. -/
  | wrap (item : Answer κ β) (target number : Nat)

/-- One action; `none` where the relay never takes it. -/
def step [DecidableEq κ] [DecidableEq β] (relay : Relay κ β) : Action κ β → Option (Relay κ β)
  | .register key session =>
    if session = relay.admitted.length then some { relay with
      admitted := relay.admitted ++ [key]
      live := Function.update relay.live key (some session) }
    else none
  | .dismiss key session =>
    if relay.live key = some session then
      some { relay with live := Function.update relay.live key none }
    else none
  | .take key session message =>
    if relay.admitted[session]? = some key ∧ relay.outgoing session = none then
      some { relay with outgoing := Function.update relay.outgoing session (some message) }
    else none
  | .give session piece =>
    match relay.outgoing session with
    | some rest =>
      if piece <+: rest then some { relay with
        outgoing := Function.update relay.outgoing session (some (rest.drop piece.length)) }
      else none
    | none => none
  | .finish session =>
    if relay.outgoing session = some [] then
      some { relay with outgoing := Function.update relay.outgoing session none }
    else none
  | .abandon session =>
    if (relay.outgoing session).isSome then
      some { relay with outgoing := Function.update relay.outgoing session none }
    else none
  | .answer item =>
    if relay.admitted[item.origin]? = some item.key then
      some { relay with queue := relay.queue ++ [item] }
    else none
  | .pick =>
    match relay.inHand, relay.queue with
    | none, item :: later => some { relay with
        queue := later
        inHand := (relay.live item.key).map fun target => (item, target) }
    | _, _ => none
  | .wrap item target number =>
    if relay.inHand = some (item, target) ∧ number = relay.wrapped target + 1 then some { relay with
      inHand := none
      wrapped := Function.update relay.wrapped target number }
    else none

/-! ## What a run has done -/

/-- The message an action takes for a session. -/
def Action.taken (session : Nat) : Action κ β → Option (List β)
  | .take _ target message => if target = session then some message else none
  | _ => none

/-- The piece an action gives to a session's far side. -/
def Action.given (session : Nat) : Action κ β → Option (List β)
  | .give target piece => if target = session then some piece else none
  | _ => none

/-- The message of a far side an action queues. -/
def Action.answered : Action κ β → Option (Answer κ β)
  | .answer item => some item
  | _ => none

/-- The message an action wraps. -/
def Action.wrapping : Action κ β → Option (Answer κ β)
  | .wrap item _ _ => some item
  | _ => none

/-- The number an action wraps a message with for a session. -/
def Action.number (session : Nat) : Action κ β → Option Nat
  | .wrap _ target number => if target = session then some number else none
  | _ => none

/-- The messages taken for a session. -/
def takenFor (session : Nat) (actions : List (Action κ β)) : List (List β) :=
  actions.filterMap (Action.taken session)

/-- Everything its far side was given. -/
def givenFor (session : Nat) (actions : List (Action κ β)) : List β :=
  (actions.filterMap (Action.given session)).flatten

/-- The numbers its messages were wrapped with. -/
def numbersFor (session : Nat) (actions : List (Action κ β)) : List Nat :=
  actions.filterMap (Action.number session)

/-- What the last action adds to a history. -/
theorem filterMap_concat {α γ : Type*} (shows : α → Option γ) (past : List α) (last : α) :
    (past ++ [last]).filterMap shows = past.filterMap shows ++ (shows last).toList := by
  cases shown : shows last <;> simp [shown]

/-- What the last action adds to what was taken for a session and given to its far side. -/
theorem histories_concat (session : Nat) (past : List (Action κ β)) (last : Action κ β) :
    takenFor session (past ++ [last]) = takenFor session past ++ (last.taken session).toList ∧
      givenFor session (past ++ [last]) =
        givenFor session past ++ (last.given session).getD [] := by
  refine ⟨filterMap_concat _ past last, ?_⟩
  rw [givenFor, filterMap_concat, List.flatten_append]
  cases last.given session <;> simp [givenFor]

section

variable [DecidableEq κ] [DecidableEq β] {relay next final : Relay κ β} {action : Action κ β}
  {actions : List (Action κ β)} {session : Nat}

/-! ## Towards the far side -/

/-- What one action does to the far side of one session. -/
inductive Upstream (relay next : Relay κ β) (action : Action κ β) (session : Nat) : Prop where
  /-- Nothing. -/
  | still (left : next.outgoing session = relay.outgoing session)
      (taken : action.taken session = none) (given : action.given session = none)
  /-- A message is taken. -/
  | taken (message : List β) (idle : relay.outgoing session = none)
      (left : next.outgoing session = some message)
      (taken : action.taken session = some message) (given : action.given session = none)
  /-- A piece is given. -/
  | given (rest piece : List β) (held : relay.outgoing session = some rest)
      (begins : piece <+: rest) (left : next.outgoing session = some (rest.drop piece.length))
      (taken : action.taken session = none) (given : action.given session = some piece)
  /-- A message is finished, with nothing left or given up. -/
  | ended (rest : List β) (held : relay.outgoing session = some rest)
      (left : next.outgoing session = none) (whole : rest = [] ∨ action = .abandon session)
      (taken : action.taken session = none) (given : action.given session = none)

/-- Every action does one of these. -/
theorem upstream_step (done : relay.step action = some next) (session : Nat) :
    Upstream relay next action session := by
  cases action with
  | take key target message =>
    simp only [step] at done
    split at done
    · rename_i guard
      obtain rfl := Option.some.inj done
      by_cases same : target = session
      · subst same
        exact .taken message guard.2 (Function.update_self ..) (if_pos rfl) rfl
      · exact .still (Function.update_of_ne (Ne.symm same) ..) (if_neg same) rfl
    · contradiction
  | give target piece =>
    simp only [step] at done
    split at done
    · rename_i rest held
      split at done
      · rename_i begins
        obtain rfl := Option.some.inj done
        by_cases same : target = session
        · subst same
          exact .given rest piece held begins (Function.update_self ..) rfl (if_pos rfl)
        · exact .still (Function.update_of_ne (Ne.symm same) ..) rfl (if_neg same)
      · contradiction
    · contradiction
  | finish target =>
    simp only [step] at done
    split at done
    · rename_i held
      obtain rfl := Option.some.inj done
      by_cases same : target = session
      · subst same
        exact .ended [] held (Function.update_self ..) (.inl rfl) rfl rfl
      · exact .still (Function.update_of_ne (Ne.symm same) ..) rfl rfl
    · contradiction
  | abandon target =>
    simp only [step] at done
    split at done
    · rename_i held
      obtain ⟨rest, held⟩ := Option.isSome_iff_exists.mp held
      obtain rfl := Option.some.inj done
      by_cases same : target = session
      · subst same
        exact .ended rest held (Function.update_self ..) (.inr rfl) rfl rfl
      · exact .still (Function.update_of_ne (Ne.symm same) ..) rfl rfl
    · contradiction
  | _ =>
    simp only [step] at done
    split at done
    · obtain rfl := Option.some.inj done
      exact .still rfl rfl rfl
    · contradiction

/-- How far the messages taken for a session have been given: each earlier one up to some point, the
one under way up to what is left of it. -/
inductive Progress (taken : List (List β)) (given : List β) : Option (List β) → Prop where
  /-- No message is under way. -/
  | idle (pieces : List (List β)) (begun : List.Forall₂ (· <+: ·) pieces taken)
      (whole : given = pieces.flatten) : Progress taken given none
  /-- One is. -/
  | busy (pieces earlier : List (List β)) (message piece rest : List β)
      (last : taken = earlier ++ [message]) (begun : List.Forall₂ (· <+: ·) pieces earlier)
      (whole : given = pieces.flatten ++ piece) (left : message = piece ++ rest) :
      Progress taken given (some rest)

/-- Every action keeps the progress. -/
theorem progress_step (session : Nat)
    (held : Progress (takenFor session actions) (givenFor session actions) (relay.outgoing session))
    (done : relay.step action = some next) :
    Progress (takenFor session (actions ++ [action])) (givenFor session (actions ++ [action]))
      (next.outgoing session) := by
  obtain ⟨taken, given⟩ := histories_concat session actions action
  rw [taken, given]
  cases upstream_step done session with
  | still left nothing none =>
    rw [left, nothing, none, Option.toList_none, Option.getD_none, List.append_nil, List.append_nil]
    exact held
  | taken message idle left starts none =>
    rw [left, starts, none, Option.toList_some, Option.getD_none, List.append_nil]
    rw [idle] at held
    cases held with
    | idle pieces begun whole =>
      exact .busy pieces _ message [] message rfl begun (by rw [whole, List.append_nil]) rfl
  | given rest piece under begins left nothing gives =>
    rw [left, nothing, gives, Option.toList_none, Option.getD_some, List.append_nil]
    rw [under] at held
    obtain ⟨later, rfl⟩ := begins
    cases held with
    | busy pieces earlier message before _ last begun whole divided =>
      refine .busy pieces earlier message (before ++ piece) _ last begun ?_ ?_
      · rw [whole, List.append_assoc]
      · rw [divided, List.drop_left, List.append_assoc]
  | ended rest under left _ nothing none =>
    rw [left, nothing, none, Option.toList_none, Option.getD_none, List.append_nil, List.append_nil]
    rw [under] at held
    cases held with
    | busy pieces earlier message piece _ last begun whole divided =>
      refine .idle (pieces ++ [piece]) ?_ ?_
      · rw [last]
        exact List.rel_append begun (.cons ⟨rest, divided.symm⟩ .nil)
      · rw [whole, List.flatten_append, List.flatten_singleton]

/-- The far side of a session is given the messages taken for it, in order, each from its beginning
up to some point. -/
theorem given_pieces (reached : Machine.run step start actions = some final) (session : Nat) :
    ∃ pieces, List.Forall₂ (· <+: ·) pieces (takenFor session actions) ∧
      givenFor session actions = pieces.flatten := by
  have progress := @Machine.run_history_invariant _ _ step
    (fun past relay => Progress (takenFor session past) (givenFor session past)
      (relay.outgoing session))
    (fun _ _ _ _ held done => progress_step session held done) start _ _
    (.idle [] .nil rfl) reached
  generalize final.outgoing session = left at progress
  cases progress with
  | idle pieces begun whole => exact ⟨pieces, begun, whole⟩
  | busy pieces earlier message piece rest last begun whole divided =>
    refine ⟨pieces ++ [piece], ?_, ?_⟩
    · rw [last]
      exact List.rel_append begun (.cons ⟨rest, divided.symm⟩ .nil)
    · rw [whole, List.flatten_append, List.flatten_singleton]

/-- As long as none of them is given up, what was given and what is left of the last are all of
them. -/
theorem given_all (reached : Machine.run step start actions = some final) (session : Nat)
    (kept : ∀ action ∈ actions, action ≠ .abandon session) :
    givenFor session actions ++ (final.outgoing session).getD [] =
      (takenFor session actions).flatten := by
  refine @Machine.run_history_invariant _ _ _ (fun past relay =>
      (∀ action ∈ past, action ≠ .abandon session) →
        givenFor session past ++ (relay.outgoing session).getD [] =
          (takenFor session past).flatten)
    (fun past relay action next held done kept => ?_) _ _ _ (fun _ => rfl) reached kept
  have before := held fun one member => kept one (List.mem_append_left _ member)
  have here : action ≠ .abandon session := kept action (List.mem_append_right _ List.mem_cons_self)
  obtain ⟨taken, given⟩ := histories_concat session past action
  rw [taken, given, List.flatten_append, ← before]
  cases upstream_step done session with
  | still left nothing none =>
    rw [left, nothing, none]
    simp
  | taken message idle left starts none =>
    rw [left, starts, none, idle]
    simp
  | given rest piece under begins left nothing gives =>
    obtain ⟨later, rfl⟩ := begins
    rw [left, nothing, gives, under]
    simp
  | ended rest under left whole nothing none =>
    obtain rfl : rest = [] := whole.resolve_right here
    rw [left, nothing, none, under]
    simp

/-! ## Back to the near side -/

/-- What a relay has in store for the near side: the message in hand, then the queue. -/
def waiting (relay : Relay κ β) : List (Answer κ β) :=
  (relay.inHand.map Prod.fst).toList ++ relay.queue

/-- What one action does on the way back. -/
inductive Downstream (relay next : Relay κ β) : Action κ β → Prop where
  /-- Nothing. -/
  | still (action : Action κ β) (waits : next.waiting = relay.waiting)
      (counts : next.wrapped = relay.wrapped) (answered : action.answered = none)
      (wrapping : action.wrapping = none) : Downstream relay next action
  /-- A message is queued. -/
  | answered (item : Answer κ β) (waits : next.waiting = relay.waiting ++ [item])
      (counts : next.wrapped = relay.wrapped) : Downstream relay next (.answer item)
  /-- The oldest message is dropped. -/
  | dropped (item : Answer κ β) (waits : relay.waiting = item :: next.waiting)
      (counts : next.wrapped = relay.wrapped) : Downstream relay next .pick
  /-- It is wrapped. -/
  | wrapped (item : Answer κ β) (target : Nat) (waits : relay.waiting = item :: next.waiting)
      (counts : next.wrapped = Function.update relay.wrapped target (relay.wrapped target + 1)) :
      Downstream relay next (.wrap item target (relay.wrapped target + 1))

/-- Every action does one of these. -/
theorem downstream_step (done : relay.step action = some next) : Downstream relay next action := by
  cases action with
  | answer item =>
    simp only [step] at done
    split at done
    · obtain rfl := Option.some.inj done
      exact .answered item (List.append_assoc ..).symm rfl
    · contradiction
  | pick =>
    simp only [step] at done
    split at done
    · rename_i item later empty queue
      obtain rfl := Option.some.inj done
      cases found : relay.live item.key with
      | none => exact .dropped item (by simp [waiting, empty, queue]) rfl
      | some target => exact .still _ (by simp [waiting, empty, queue]) rfl rfl rfl
    · contradiction
  | wrap item target number =>
    simp only [step] at done
    split at done
    · rename_i guard
      obtain ⟨held, rfl⟩ := guard
      obtain rfl := Option.some.inj done
      exact .wrapped item target (by simp [waiting, held]) rfl
    · contradiction
  | give target piece =>
    simp only [step] at done
    split at done
    · split at done
      · obtain rfl := Option.some.inj done
        exact .still _ rfl rfl rfl rfl
      · contradiction
    · contradiction
  | _ =>
    simp only [step] at done
    split at done
    · obtain rfl := Option.some.inj done
      exact .still _ rfl rfl rfl rfl
    · contradiction

/-- What was wrapped, in order, and then what still waits, was answered in this order. -/
theorem wrapped_sublist (reached : Machine.run step start actions = some final) :
    List.Sublist (actions.filterMap Action.wrapping ++ final.waiting)
      (actions.filterMap Action.answered) := by
  refine @Machine.run_history_invariant _ _ _ (fun past relay =>
      List.Sublist (past.filterMap Action.wrapping ++ relay.waiting)
        (past.filterMap Action.answered))
    (fun past relay action next held done => ?_) _ _ _ (List.Sublist.refl _) reached
  rw [filterMap_concat, filterMap_concat]
  cases downstream_step done with
  | still _ waits _ answered wrapping =>
    rw [answered, wrapping, waits]
    simpa using held
  | answered item waits =>
    rw [waits]
    simpa [Action.answered, Action.wrapping] using held.append (List.Sublist.refl [item])
  | dropped item waits =>
    rw [waits] at held
    have fewer : List.Sublist (past.filterMap Action.wrapping ++ next.waiting)
        (past.filterMap Action.wrapping ++ item :: next.waiting) :=
      (List.Sublist.refl _).append (List.sublist_cons_self item next.waiting)
    simpa [Action.answered, Action.wrapping] using fewer.trans held
  | wrapped item target waits =>
    rw [waits] at held
    simpa [Action.answered, Action.wrapping] using held

/-- The messages wrapped for a session are numbered from one on. -/
theorem numbers_eq (reached : Machine.run step start actions = some final) (session : Nat) :
    numbersFor session actions = (List.range (final.wrapped session)).map (· + 1) := by
  refine @Machine.run_history_invariant _ _ _ (fun past relay =>
      numbersFor session past = (List.range (relay.wrapped session)).map (· + 1))
    (fun past relay action next held done => ?_) _ _ _ rfl reached
  unfold numbersFor at held ⊢
  rw [filterMap_concat, held]
  cases downstream_step done with
  | still action _ counts _ wrapping =>
    have silent : action.number session = none := by
      cases action with
      | wrap => contradiction
      | _ => rfl
    rw [silent, counts]
    simp
  | answered item _ counts =>
    rw [counts]
    simp [Action.number]
  | dropped item _ counts =>
    rw [counts]
    simp [Action.number]
  | wrapped item target _ counts =>
    rw [counts]
    by_cases same : target = session
    · subst same
      simp [Action.number, List.range_succ]
    · simp [Action.number, same, Function.update_of_ne (Ne.symm same)]

/-! ## Keys -/

/-- Sessions are live, and messages travel, under the key of their admission. -/
structure Keyed (relay : Relay κ β) : Prop where
  /-- Live sessions. -/
  live : ∀ key session, relay.live key = some session → relay.admitted[session]? = some key
  /-- Queued messages. -/
  queue : ∀ item ∈ relay.queue, relay.admitted[item.origin]? = some item.key
  /-- The message in hand, and the session it was picked for. -/
  inHand : ∀ item target, relay.inHand = some (item, target) →
    relay.admitted[item.origin]? = some item.key ∧ relay.admitted[target]? = some item.key

omit [DecidableEq κ] [DecidableEq β] in
/-- Sessions keep their key when another is admitted. -/
theorem admitted_later {key other : κ} {position : Nat}
    (before : relay.admitted[position]? = some other) :
    (relay.admitted ++ [key])[position]? = some other := by
  rw [List.getElem?_append_left (List.getElem?_eq_some_iff.mp before).1]
  exact before

/-- Every action keeps sessions and messages under their keys. -/
theorem keyed_step (held : Keyed relay) (done : relay.step action = some next) : Keyed next := by
  cases action with
  | register key session =>
    simp only [step] at done
    split at done
    · rename_i last
      obtain rfl := Option.some.inj done
      refine ⟨fun other target live => ?_,
        fun item member => admitted_later (held.queue item member), fun item target point => ?_⟩
      · dsimp only at live
        by_cases same : other = key
        · subst same
          rw [Function.update_self] at live
          obtain rfl := Option.some.inj live
          rw [last, List.getElem?_concat_length]
        · rw [Function.update_of_ne same] at live
          exact admitted_later (held.live other target live)
      · obtain ⟨origin, chosen⟩ := held.inHand item target point
        exact ⟨admitted_later origin, admitted_later chosen⟩
    · contradiction
  | dismiss key session =>
    simp only [step] at done
    split at done
    · obtain rfl := Option.some.inj done
      refine ⟨fun other target live => ?_, held.queue, held.inHand⟩
      dsimp only at live
      by_cases same : other = key
      · subst same
        rw [Function.update_self] at live
        contradiction
      · rw [Function.update_of_ne same] at live
        exact held.live other target live
    · contradiction
  | give session piece =>
    simp only [step] at done
    split at done
    · split at done
      · obtain rfl := Option.some.inj done
        exact ⟨held.live, held.queue, held.inHand⟩
      · contradiction
    · contradiction
  | answer item =>
    simp only [step] at done
    split at done
    · rename_i origin
      obtain rfl := Option.some.inj done
      refine ⟨held.live, fun one member => ?_, held.inHand⟩
      rcases List.mem_append.mp member with old | new
      · exact held.queue one old
      · obtain rfl := List.mem_singleton.mp new
        exact origin
    · contradiction
  | pick =>
    simp only [step] at done
    split at done
    · rename_i item later empty queue
      obtain rfl := Option.some.inj done
      refine ⟨held.live,
        fun one member => held.queue one (queue ▸ List.mem_cons_of_mem item member),
        fun one target point => ?_⟩
      obtain ⟨chosen, live, same⟩ := Option.map_eq_some_iff.mp point
      obtain ⟨rfl, rfl⟩ := Prod.mk.inj same
      exact ⟨held.queue item (queue ▸ List.mem_cons_self), held.live item.key chosen live⟩
    · contradiction
  | wrap item target number =>
    simp only [step] at done
    split at done
    · obtain rfl := Option.some.inj done
      exact ⟨held.live, held.queue, nofun⟩
    · contradiction
  | _ =>
    simp only [step] at done
    split at done
    · obtain rfl := Option.some.inj done
      exact ⟨held.live, held.queue, held.inHand⟩
    · contradiction

/-- No action changes the key of a session. -/
theorem admitted_step {key : κ} {position : Nat} (done : relay.step action = some next)
    (before : relay.admitted[position]? = some key) : next.admitted[position]? = some key := by
  cases action with
  | register other session =>
    simp only [step] at done
    split at done
    · obtain rfl := Option.some.inj done
      exact admitted_later before
    · contradiction
  | give =>
    simp only [step] at done
    split at done
    · split at done
      · obtain rfl := Option.some.inj done
        exact before
      · contradiction
    · contradiction
  | _ =>
    simp only [step] at done
    split at done
    · obtain rfl := Option.some.inj done
      exact before
    · contradiction

/-- A message is wrapped for a session with the key of the session it came from. -/
theorem wrapped_keyed (reached : Machine.run step start actions = some final) {item : Answer κ β}
    {target number : Nat} (member : .wrap item target number ∈ actions) :
    final.admitted[item.origin]? = some item.key ∧ final.admitted[target]? = some item.key := by
  have keyed := @Machine.run_history_invariant _ _ step
    (fun (past : List (Action κ β)) relay => Keyed relay ∧ ∀ item target number,
      Action.wrap item target number ∈ past →
        relay.admitted[item.origin]? = some item.key ∧ relay.admitted[target]? = some item.key)
    (fun past relay action next held done => ?_) start _ _
    ⟨⟨nofun, nofun, nofun⟩, nofun⟩ reached
  · exact keyed.2 item target number member
  · refine ⟨keyed_step held.1 done, fun item target number member => ?_⟩
    have before : relay.admitted[item.origin]? = some item.key ∧
        relay.admitted[target]? = some item.key := by
      rcases List.mem_append.mp member with early | last
      · exact held.2 item target number early
      · obtain rfl := List.mem_singleton.mp last
        simp only [step] at done
        split at done
        · rename_i guard
          exact held.1.inHand item target guard.1
        · contradiction
    exact ⟨admitted_step done before.1, admitted_step done before.2⟩

/-! ## Many at once -/

/-- Sessions are dismissed one key after the other, each where one is live. -/
theorem dismiss_all (relay : Relay κ β) {keys : List κ} (distinct : keys.Nodup) :
    Machine.run step relay
        (keys.filterMap fun key => (relay.live key).map (Action.dismiss key)) =
      some { relay with live := fun key => if key ∈ keys then none else relay.live key } := by
  induction keys generalizing relay with
  | nil => simp [Machine.run]
  | cons first keys ih =>
    obtain ⟨absent, distinct⟩ := List.nodup_cons.mp distinct
    have merged (live : κ → Option Nat)
        (later : ∀ key, key ≠ first → live key = relay.live key) (gone : live first = none) :
        (fun key => if key ∈ keys then none else live key) =
          fun key => if key ∈ first :: keys then none else relay.live key := by
      funext key
      by_cases same : key = first
      · subst same
        simp [gone]
      · simp [same, later key same]
    cases live : relay.live first with
    | none =>
      rw [List.filterMap_cons_none (by rw [live]; rfl), ih relay distinct,
        merged relay.live (fun _ _ => rfl) live]
    | some session =>
      have done : relay.step (.dismiss first session) =
          some { relay with live := Function.update relay.live first none } := by
        simp [step, live]
      have rest : (keys.filterMap fun key => (relay.live key).map (Action.dismiss key)) =
          (keys.filterMap fun key =>
            (Function.update relay.live first none key).map (Action.dismiss (β := β) key)) := by
        refine List.filterMap_congr fun key member => ?_
        have different : key ≠ first := by
          rintro rfl
          exact absent member
        rw [Function.update_of_ne different]
      rw [List.filterMap_cons_some (by rw [live]; rfl), Machine.run_cons done, rest,
        ih { relay with live := Function.update relay.live first none } distinct,
        merged _ (fun key different => Function.update_of_ne different ..)
          (Function.update_self ..)]

end

end Relay

end LowPing.Library
