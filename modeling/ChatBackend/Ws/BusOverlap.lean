import ChatBackend.Collections.Ordered
import ChatBackend.Transition.Runs
import Mathlib.Logic.Function.Iterate

/-!
# Overlapping subscriptions at the bus

The first `subscribe` on a channel puts a new set into the map, awaits Redis
and then adds its handler to that set, wherever the set has got to.  The others
add theirs at once.  `unsubscribe` takes a handler out of the set that the map
leads to, and drops the set when it is empty.

Redis executes the commands in the order in which they were issued.  Once they
all have been executed, an event is passed once to every handler that is
subscribed, and to no other, exactly in the runs in which no `unsubscribe`
empties the set while a first `subscribe` waits, or takes out a handler that
another subscription shares.
-/

namespace ChatBackend.Ws.BusOverlap

open Collections
open Transition

/-! ## The bus -/

/-- The function that one call of `subscribe` resolves to. -/
structure Subscription (Handler : Type) where
  id : Nat
  channel : String
  handler : Handler
deriving DecidableEq

/-- A command that has been issued and not executed. -/
inductive Command (Handler : Type) where
  /-- The call goes on with the set that it has captured. -/
  | subscribe (sub : Subscription Handler) (set : Nat)
  | unsubscribe (channel : String)
deriving DecidableEq

/-- A bus whose sets of handlers have identities. -/
structure Bus (Handler : Type) where
  channelHandlers : OrderedMap String Nat
  sets : Nat → OrderedSet Handler
  nextSet : Nat
  /-- The listeners at the Redis client. -/
  listeners : List String
  queue : List (Command Handler)
  nextId : Nat
  resolved : List (Subscription Handler)
  /-- The subscriptions whose unsubscribe has been called. -/
  called : List (Subscription Handler)

variable {Handler : Type}

namespace Bus

/-- A bus nobody has subscribed to. -/
def start : Bus Handler where
  channelHandlers := ∅
  sets _ := ∅
  nextSet := 0
  listeners := []
  queue := []
  nextId := 0
  resolved := []
  called := []

/-- The handlers that an event is passed to: each listener runs the set. -/
def receivers (bus : Bus Handler) (channel : String) : List Handler :=
  (bus.listeners.filter fun other => decide (other = channel)).flatMap fun _ =>
    match bus.channelHandlers.get channel with
    | none => []
    | some set => (bus.sets set).toList

variable [DecidableEq Handler]

/-- `subscribe`, up to its `await`. -/
def subscribe (bus : Bus Handler) (channel : String) (handler : Handler) :
    Bus Handler :=
  let sub := { id := bus.nextId, channel, handler }
  match bus.channelHandlers.get channel with
  -- `isNew`
  | none =>
      { bus with
        channelHandlers := bus.channelHandlers.set channel bus.nextSet
        sets := Function.update bus.sets bus.nextSet ∅
        nextSet := bus.nextSet + 1
        queue := bus.queue ++ [.subscribe sub bus.nextSet]
        nextId := bus.nextId + 1 }
  | some set =>
      { bus with
        sets := Function.update bus.sets set ((bus.sets set).add handler)
        nextId := bus.nextId + 1
        resolved := bus.resolved ++ [sub] }

/-- Redis executes a command, and the call that has issued it goes on. -/
def execute (bus : Bus Handler) : Bus Handler :=
  match bus.queue with
  | [] => bus
  | .subscribe sub set :: rest =>
      { bus with
        queue := rest
        listeners := bus.listeners ++ [sub.channel]
        sets := Function.update bus.sets set ((bus.sets set).add sub.handler)
        resolved := bus.resolved ++ [sub] }
  | .unsubscribe channel :: rest =>
      { bus with
        queue := rest
        listeners :=
          bus.listeners.filter fun other => decide (other ≠ channel) }

/-- A call of the function that `subscribe` has resolved to. -/
def unsubscribe (bus : Bus Handler) (sub : Subscription Handler) :
    Bus Handler :=
  if sub ∈ bus.resolved then
    let bus := { bus with called := bus.called ++ [sub] }
    match bus.channelHandlers.get sub.channel with
    | none => bus
    | some set =>
        let left := (bus.sets set).delete sub.handler
        if left.size = 0 then
          { bus with
            sets := Function.update bus.sets set left
            channelHandlers := bus.channelHandlers.delete sub.channel
            queue := bus.queue ++ [.unsubscribe sub.channel] }
        else { bus with sets := Function.update bus.sets set left }
  else bus

end Bus

/-- What happens between two await points. -/
inductive BusCall (Handler : Type) where
  | subscribes (channel : String) (handler : Handler)
  | unsubscribes (sub : Subscription Handler)
  /-- Redis has executed the oldest command. -/
  | executes

/-- One step of a run. -/
def step [DecidableEq Handler] (bus : Bus Handler) :
    BusCall Handler → Bus Handler
  | .subscribes channel handler => bus.subscribe channel handler
  | .unsubscribes sub => bus.unsubscribe sub
  | .executes => bus.execute

/-! ## Specification -/

section Specification

variable (bus : Bus Handler) (channel : String) (handler : Handler)

/-- The subscription has resolved, and its unsubscribe has not been called. -/
def Live (sub : Subscription Handler) : Prop :=
  sub ∈ bus.resolved ∧ sub ∉ bus.called

/-- A subscription of the handler to the channel is live. -/
def Subscribed : Prop :=
  ∃ sub, Live bus sub ∧ sub.channel = channel ∧ sub.handler = handler

/-- A first `subscribe` waits for Redis on the channel. -/
def Waits : Prop :=
  ∃ sub set, .subscribe sub set ∈ bus.queue ∧ sub.channel = channel

end Specification

section Delivery

variable [DecidableEq Handler] (bus : Bus Handler)

/-- Subscribed handlers are passed an event once, and other handlers not. -/
structure Delivers : Prop where
  once : ∀ channel handler, Subscribed bus channel handler →
    (bus.receivers channel).count handler = 1
  never : ∀ channel handler, ¬ Subscribed bus channel handler →
    (bus.receivers channel).count handler = 0

/-- The bus delivers once the commands issued so far have been executed. -/
def DeliversAtRest : Prop :=
  ∀ commands, (Bus.execute^[commands] bus).queue = [] →
    Delivers (Bus.execute^[commands] bus)

/--
The call empties the set of its channel while a first `subscribe` waits, or it
takes out a handler that another live subscription shares.
-/
def Harms : BusCall Handler → Prop
  | .unsubscribes sub => sub ∈ bus.resolved ∧
      ((∃ set, bus.channelHandlers.get sub.channel = some set ∧
          ((bus.sets set).delete sub.handler).size = 0 ∧
            Waits bus sub.channel) ∨
        ((∃ other, Live bus other ∧ other ≠ sub ∧
            other.channel = sub.channel ∧ other.handler = sub.handler) ∧
          ∀ waiting set, .subscribe waiting set ∈ bus.queue →
            waiting.channel = sub.channel → waiting.handler ≠ sub.handler))
  | _ => False

end Delivery

/-! ## What the commands lead to -/

section Outcome

variable (bus : Bus Handler) (channel : String) (handler : Handler)

/-- The handler will be in the set that the map leads to. -/
def Fed : Prop :=
  ∃ set, bus.channelHandlers.get channel = some set ∧
    (handler ∈ bus.sets set ∨
      ∃ sub, .subscribe sub set ∈ bus.queue ∧ sub.handler = handler)

/-- The handler will be subscribed. -/
def Wanted : Prop :=
  ∃ sub, sub.channel = channel ∧ sub.handler = handler ∧
    (Live bus sub ∨ ∃ set, .subscribe sub set ∈ bus.queue)

/-- What a command makes of the listeners. -/
def listen (listeners : List String) : Command Handler → List String
  | .subscribe sub _ => listeners ++ [sub.channel]
  | .unsubscribe channel =>
      listeners.filter fun other => decide (other ≠ channel)

/-- The listeners once all commands have been executed. -/
def listenersAfter : List String :=
  bus.queue.foldl listen bus.listeners

/-- The subscription of a command that subscribes. -/
def subscribing : Command Handler → Option (Subscription Handler)
  | .subscribe sub _ => some sub
  | .unsubscribe _ => none

/-- Subscriptions and sets are new when they are made. -/
structure Fresh : Prop where
  distinct : (bus.queue.filterMap subscribing ++ bus.resolved).Nodup
  ids : ∀ sub ∈ bus.queue.filterMap subscribing ++ bus.resolved,
    sub.id < bus.nextId
  called : ∀ sub ∈ bus.called, sub ∈ bus.resolved
  mapped : ∀ channel set, bus.channelHandlers.get channel = some set →
    set < bus.nextSet
  captured : ∀ sub set, .subscribe sub set ∈ bus.queue → set < bus.nextSet
  apart : ∀ channel other set, bus.channelHandlers.get channel = some set →
    bus.channelHandlers.get other = some set → channel = other

/--
A channel with a set will have one listener and feed the subscribed handlers,
and the calls that wait on it have captured that set.
-/
structure Kept : Prop where
  agrees : ∀ handler, Fed bus channel handler ↔ Wanted bus channel handler
  listens : (listenersAfter bus).filter (fun other =>
      decide (other = channel)) =
    if (bus.channelHandlers.get channel).isSome then [channel] else []
  own : ∀ set, bus.channelHandlers.get channel = some set →
    ∀ sub captured, .subscribe sub captured ∈ bus.queue →
      (sub.channel = channel ↔ captured = set)

end Outcome

theorem mem_subscribing {queue : List (Command Handler)}
    {sub : Subscription Handler} :
    sub ∈ queue.filterMap subscribing ↔
      ∃ set, .subscribe sub set ∈ queue := by
  rw [List.mem_filterMap]
  constructor
  · rintro ⟨command, issued, named⟩
    cases command with
    | subscribe other set =>
        cases named
        exact ⟨set, issued⟩
    | unsubscribe channel => cases named
  · rintro ⟨set, issued⟩
    exact ⟨_, issued, rfl⟩

/-- A call that waits has not returned its unsubscribe yet. -/
theorem Fresh.not_called {bus : Bus Handler} (fresh : Fresh bus)
    {sub : Subscription Handler} {set : Nat}
    (waits : .subscribe sub set ∈ bus.queue) :
    sub ∉ bus.resolved ∧ sub ∉ bus.called := by
  have absent : sub ∉ bus.resolved := by
    intro resolved
    have disjoint := List.nodup_append.mp fresh.distinct
    exact disjoint.2.2 sub (mem_subscribing.mpr ⟨set, waits⟩) sub resolved rfl
  exact ⟨absent, fun called => absent (fresh.called sub called)⟩

section Executing

variable [DecidableEq Handler] {bus : Bus Handler} {channel : String}
  {handler : Handler}

theorem Fresh.execute (fresh : Fresh bus) : Fresh bus.execute := by
  unfold Bus.execute
  cases queue : bus.queue with
  | nil => exact fresh
  | cons command rest =>
      have distinct := fresh.distinct
      have ids := fresh.ids
      have captured := fresh.captured
      rw [queue] at distinct ids captured
      cases command with
      | subscribe sub set =>
          have moved : (rest.filterMap subscribing ++
              (bus.resolved ++ [sub])).Perm
                (sub :: (rest.filterMap subscribing ++ bus.resolved)) := by
            rw [← List.append_assoc]
            exact List.perm_append_singleton sub _
          exact
            { fresh with
              distinct := moved.nodup_iff.mpr distinct
              ids := fun other member => ids other (moved.mem_iff.mp member)
              called := fun other called =>
                List.mem_append_left _ (fresh.called other called)
              captured := fun other captures waits =>
                captured other captures (.tail _ waits) }
      | unsubscribe other =>
          exact
            { fresh with
              distinct := distinct
              ids := ids
              captured := fun other captures waits =>
                captured other captures (.tail _ waits) }

theorem fed_execute : Fed bus.execute channel handler ↔
    Fed bus channel handler := by
  unfold Bus.execute Fed
  cases queue : bus.queue with
  | nil => simp only [queue]
  | cons command rest =>
      cases command with
      | unsubscribe other => simp
      | subscribe sub set =>
          dsimp only
          refine exists_congr fun fed => and_congr_right fun _ => ?_
          by_cases same : fed = set
          · subst same
            have flip : handler = sub.handler ↔ sub.handler = handler :=
              eq_comm
            simp [or_and_right, exists_or, or_assoc, flip]
          · rw [Function.update_of_ne same]
            simp only [List.mem_cons, Command.subscribe.injEq, same, and_false,
              false_or]

theorem wanted_execute (fresh : Fresh bus) :
    Wanted bus.execute channel handler ↔ Wanted bus channel handler := by
  have called := fun sub set => @fresh.not_called _ _ sub set
  unfold Bus.execute Wanted Live
  cases queue : bus.queue with
  | nil => simp only [queue]
  | cons command rest =>
      rw [queue] at called
      cases command with
      | unsubscribe other => simp
      | subscribe sub set =>
          dsimp only
          have absent := (called sub set (.head _)).2
          refine exists_congr fun other => and_congr_right fun _ =>
            and_congr_right fun _ => ?_
          by_cases same : other = sub
          · subst same
            simp [absent]
          · simp [same]

theorem listenersAfter_execute :
    listenersAfter bus.execute = listenersAfter bus := by
  unfold Bus.execute listenersAfter
  cases queue : bus.queue with
  | nil => rw [queue]
  | cons command rest => cases command <;> rfl

/-- What a channel will come to does not change when commands are executed. -/
theorem Kept.execute (fresh : Fresh bus) (kept : Kept bus channel) :
    Kept bus.execute channel := by
  have map : bus.execute.channelHandlers = bus.channelHandlers := by
    unfold Bus.execute
    split <;> rfl
  have fewer (command : Command Handler)
      (issued : command ∈ bus.execute.queue) : command ∈ bus.queue := by
    unfold Bus.execute at issued
    split at issued
    · exact issued
    all_goals
      rename_i queue
      rw [queue]
      exact .tail _ issued
  constructor
  · intro handler
    rw [fed_execute, wanted_execute fresh]
    exact kept.agrees handler
  · rw [listenersAfter_execute, map]
    exact kept.listens
  · rw [map]
    exact fun set found sub captured waits =>
      kept.own set found sub captured (fewer _ waits)

end Executing

/-! ## At rest -/

section Rest

variable {bus : Bus Handler} {channel : String} {handler : Handler}

theorem subscribed_iff_wanted (rest : bus.queue = []) :
    Subscribed bus channel handler ↔ Wanted bus channel handler := by
  unfold Subscribed Wanted
  simp only [rest, List.not_mem_nil, exists_false, or_false]
  exact exists_congr fun sub => and_rotate

/-- Only fed handlers are passed an event. -/
theorem fed_of_received
    (received : handler ∈ bus.receivers channel) :
    Fed bus channel handler := by
  rcases List.mem_flatMap.mp received with ⟨_, -, member⟩
  cases found : bus.channelHandlers.get channel with
  | none =>
      rw [found] at member
      cases member
  | some set =>
      rw [found] at member
      exact ⟨set, found, .inl member⟩

variable [DecidableEq Handler]

/-- At rest, a kept channel passes an event once to every fed handler. -/
theorem Kept.count (kept : Kept bus channel) (rest : bus.queue = [])
    (fed : Fed bus channel handler) :
    (bus.receivers channel).count handler = 1 := by
  rcases fed with ⟨set, found, member⟩
  simp only [rest, List.not_mem_nil, false_and, exists_false, or_false]
    at member
  have listens := kept.listens
  rw [found] at listens
  have listeners : listenersAfter bus = bus.listeners := by
    unfold listenersAfter
    rw [rest]
    rfl
  have received : bus.receivers channel = (bus.sets set).toList := by
    unfold Bus.receivers
    rw [← listeners, listens, found]
    exact List.append_nil _
  rw [received]
  exact List.count_eq_one_of_mem (bus.sets set).nodup member

theorem Fresh.iterate (fresh : Fresh bus) (commands : Nat) :
    Fresh (Bus.execute^[commands] bus) := by
  induction commands generalizing bus with
  | zero => exact fresh
  | succ commands induction => exact induction fresh.execute

theorem Kept.iterate (fresh : Fresh bus) (kept : Kept bus channel)
    (commands : Nat) : Kept (Bus.execute^[commands] bus) channel := by
  induction commands generalizing bus with
  | zero => exact kept
  | succ commands induction =>
      exact induction fresh.execute (kept.execute fresh)

theorem fed_iterate (commands : Nat) :
    Fed (Bus.execute^[commands] bus) channel handler ↔
      Fed bus channel handler := by
  induction commands generalizing bus with
  | zero => exact Iff.rfl
  | succ commands induction => exact induction.trans fed_execute

theorem wanted_iterate (fresh : Fresh bus) (commands : Nat) :
    Wanted (Bus.execute^[commands] bus) channel handler ↔
      Wanted bus channel handler := by
  induction commands generalizing bus with
  | zero => exact Iff.rfl
  | succ commands induction =>
      exact (induction fresh.execute).trans (wanted_execute fresh)

/-- As many commands as there are empty the queue. -/
theorem queue_iterate (bus : Bus Handler) :
    (Bus.execute^[bus.queue.length] bus).queue = [] := by
  generalize issued : bus.queue = queue
  induction queue generalizing bus with
  | nil => exact issued
  | cons command rest induction =>
      apply induction
      unfold Bus.execute
      rw [issued]
      cases command <;> rfl

/-- A bus whose channels are kept will deliver. -/
theorem deliversAtRest_of_kept (fresh : Fresh bus)
    (kept : ∀ channel, Kept bus channel) : DeliversAtRest bus := by
  intro commands rest
  have later (channel : String) := (kept channel).iterate fresh commands
  constructor
  · intro channel handler subscribed
    apply (later channel).count rest
    exact ((later channel).agrees handler).mpr
      ((subscribed_iff_wanted rest).mp subscribed)
  · intro channel handler unsubscribed
    apply List.count_eq_zero.mpr
    intro received
    apply unsubscribed
    exact (subscribed_iff_wanted rest).mpr
      (((later channel).agrees handler).mp (fed_of_received received))

/-- A bus that does not feed a wanted handler will not deliver. -/
theorem not_deliversAtRest (fresh : Fresh bus)
    (wanted : Wanted bus channel handler) (unfed : ¬ Fed bus channel handler) :
    ¬ DeliversAtRest bus := by
  intro delivers
  have rest := queue_iterate bus
  have subscribed := (subscribed_iff_wanted rest).mpr
    ((wanted_iterate fresh bus.queue.length).mpr wanted)
  have once := (delivers bus.queue.length rest).once channel handler subscribed
  have received := List.count_pos_iff.mp (by rw [once]; exact Nat.one_pos)
  exact unfed ((fed_iterate bus.queue.length).mp (fed_of_received received))

end Rest

/-! ## Subscribing -/

section Subscribing

variable [DecidableEq Handler] {bus : Bus Handler} {channel : String}
  {handler : Handler}

/-- The subscription that a call makes. -/
def nextSubscription (bus : Bus Handler) (channel : String)
    (handler : Handler) : Subscription Handler where
  id := bus.nextId
  channel
  handler

omit [DecidableEq Handler] in
theorem Fresh.next_absent (fresh : Fresh bus) (channel : String)
    (handler : Handler) :
    nextSubscription bus channel handler ∉
      bus.queue.filterMap subscribing ++ bus.resolved :=
  fun member => Nat.lt_irrefl _ (fresh.ids _ member)

omit [DecidableEq Handler] in
theorem Fresh.next_not_called (fresh : Fresh bus) (channel : String)
    (handler : Handler) :
    nextSubscription bus channel handler ∉ bus.called :=
  fun called => fresh.next_absent channel handler
    (List.mem_append_right _ (fresh.called _ called))

omit [DecidableEq Handler] in
/-- A new subscription joins those that wait or have resolved. -/
theorem Fresh.join (fresh : Fresh bus) (channel : String) (handler : Handler)
    {all : List (Subscription Handler)}
    (moved : all.Perm (nextSubscription bus channel handler ::
      (bus.queue.filterMap subscribing ++ bus.resolved))) :
    all.Nodup ∧ ∀ sub ∈ all, sub.id < bus.nextId + 1 := by
  constructor
  · rw [moved.nodup_iff, List.nodup_cons]
    exact ⟨fresh.next_absent channel handler, fresh.distinct⟩
  · intro sub member
    rcases List.mem_cons.mp (moved.mem_iff.mp member) with rfl | old
    · exact Nat.lt_succ_self _
    · exact Nat.lt_succ_of_lt (fresh.ids sub old)

/-- The first call on a channel. -/
theorem subscribe_of_none
    (found : bus.channelHandlers.get channel = none) :
    bus.subscribe channel handler =
      { bus with
        channelHandlers := bus.channelHandlers.set channel bus.nextSet
        sets := Function.update bus.sets bus.nextSet ∅
        nextSet := bus.nextSet + 1
        queue := bus.queue ++
          [.subscribe (nextSubscription bus channel handler) bus.nextSet]
        nextId := bus.nextId + 1 } := by
  unfold Bus.subscribe
  rw [found]
  rfl

/-- A later call on a channel. -/
theorem subscribe_of_some {set : Nat}
    (found : bus.channelHandlers.get channel = some set) :
    bus.subscribe channel handler =
      { bus with
        sets := Function.update bus.sets set ((bus.sets set).add handler)
        nextId := bus.nextId + 1
        resolved := bus.resolved ++
          [nextSubscription bus channel handler] } := by
  unfold Bus.subscribe
  rw [found]
  rfl

theorem Fresh.subscribe (fresh : Fresh bus) (channel : String)
    (handler : Handler) : Fresh (bus.subscribe channel handler) := by
  cases found : bus.channelHandlers.get channel with
  | none =>
      rw [subscribe_of_none found]
      have moved : ((bus.queue ++ [Command.subscribe
          (nextSubscription bus channel handler) bus.nextSet]).filterMap
            subscribing ++ bus.resolved).Perm
          (nextSubscription bus channel handler ::
            (bus.queue.filterMap subscribing ++ bus.resolved)) := by
        rw [List.filterMap_append, List.append_assoc]
        exact List.perm_middle
      have joined := fresh.join channel handler moved
      refine
        { distinct := joined.1
          ids := joined.2
          called := fresh.called
          mapped := ?_
          captured := ?_
          apart := ?_ }
      · intro other set mapped
        dsimp only at mapped
        rw [OrderedMap.get_set] at mapped
        split_ifs at mapped with same
        · cases mapped
          exact Nat.lt_succ_self _
        · exact Nat.lt_succ_of_lt (fresh.mapped other set mapped)
      · intro sub set waits
        rcases List.mem_append.mp waits with old | new
        · exact Nat.lt_succ_of_lt (fresh.captured sub set old)
        · cases List.mem_singleton.mp new
          exact Nat.lt_succ_self _
      · intro first second set leads also
        dsimp only at leads also
        rw [OrderedMap.get_set] at leads also
        split_ifs at leads also with here there there
        · exact here.trans there.symm
        · cases leads
          exact absurd (fresh.mapped _ _ also) (Nat.lt_irrefl _)
        · cases also
          exact absurd (fresh.mapped _ _ leads) (Nat.lt_irrefl _)
        · exact fresh.apart first second set leads also
  | some set =>
      rw [subscribe_of_some found]
      have moved : (bus.queue.filterMap subscribing ++
          (bus.resolved ++ [nextSubscription bus channel handler])).Perm
            (nextSubscription bus channel handler ::
              (bus.queue.filterMap subscribing ++ bus.resolved)) := by
        rw [← List.append_assoc]
        exact List.perm_append_singleton _ _
      have joined := fresh.join channel handler moved
      exact
        { fresh with
          distinct := joined.1
          ids := joined.2
          called := fun sub called =>
            List.mem_append_left _ (fresh.called sub called) }

omit [DecidableEq Handler] in
/-- A channel without a set has nobody waiting. -/
theorem Kept.none_waits (kept : Kept bus channel)
    (found : bus.channelHandlers.get channel = none) :
    ¬ Waits bus channel := by
  rintro ⟨sub, captured, waits, rfl⟩
  have wanted : Wanted bus sub.channel sub.handler :=
    ⟨sub, rfl, rfl, .inr ⟨captured, waits⟩⟩
  rcases (kept.agrees sub.handler).mpr wanted with ⟨set, mapped, -⟩
  cases mapped.symm.trans found

theorem fed_subscribe (fresh : Fresh bus) {other : String}
    {receiver : Handler} :
    Fed (bus.subscribe channel handler) other receiver ↔
      Fed bus other receiver ∨ other = channel ∧ receiver = handler := by
  cases found : bus.channelHandlers.get channel with
  | none =>
      rw [subscribe_of_none found]
      unfold Fed
      dsimp only
      rw [OrderedMap.get_set]
      by_cases same : other = channel
      · subst same
        have unclaimed (sub : Subscription Handler) :
            .subscribe sub bus.nextSet ∉ bus.queue :=
          fun waits => Nat.lt_irrefl _ (fresh.captured sub _ waits)
        simp [found, unclaimed, nextSubscription, eq_comm]
      · have elsewhere (set : Nat)
            (leads : bus.channelHandlers.get other = some set) :
            set ≠ bus.nextSet :=
          Nat.ne_of_lt (fresh.mapped other set leads)
        simp only [same, if_false, false_and, or_false]
        refine exists_congr fun set => and_congr_right fun leads => ?_
        simp [elsewhere set leads]
  | some set =>
      rw [subscribe_of_some found]
      unfold Fed
      dsimp only
      by_cases same : other = channel
      · subst same
        simp [found, or_right_comm]
      · simp only [same, false_and, or_false]
        refine exists_congr fun fed => and_congr_right fun leads => ?_
        have apart : fed ≠ set := by
          rintro rfl
          exact same (fresh.apart other channel fed leads found)
        rw [Function.update_of_ne apart]

theorem wanted_subscribe (fresh : Fresh bus) {other : String}
    {receiver : Handler} :
    Wanted (bus.subscribe channel handler) other receiver ↔
      Wanted bus other receiver ∨ other = channel ∧ receiver = handler := by
  have uncalled := fresh.next_not_called channel handler
  have split (sub : Subscription Handler) {old new : Prop}
      (grows : new ↔ old ∨ sub = nextSubscription bus channel handler) :
      (sub.channel = other ∧ sub.handler = receiver ∧ new) ↔
        (sub.channel = other ∧ sub.handler = receiver ∧ old) ∨
          (sub = nextSubscription bus channel handler ∧
            other = channel ∧ receiver = handler) := by
    rw [grows]
    constructor
    · rintro ⟨rfl, rfl, old | rfl⟩
      · exact .inl ⟨rfl, rfl, old⟩
      · exact .inr ⟨rfl, rfl, rfl⟩
    · rintro (⟨rfl, rfl, old⟩ | ⟨rfl, rfl, rfl⟩)
      · exact ⟨rfl, rfl, .inl old⟩
      · exact ⟨rfl, rfl, .inr rfl⟩
  have grown : Wanted (bus.subscribe channel handler) other receiver ↔
      ∃ sub, (sub.channel = other ∧ sub.handler = receiver ∧
          (Live bus sub ∨ ∃ set, .subscribe sub set ∈ bus.queue)) ∨
        (sub = nextSubscription bus channel handler ∧
          other = channel ∧ receiver = handler) := by
    refine exists_congr fun sub => split sub ?_
    cases found : bus.channelHandlers.get channel with
    | none =>
        rw [subscribe_of_none found]
        simp [Live, exists_or, or_assoc]
    | some set =>
        rw [subscribe_of_some found]
        by_cases same : sub = nextSubscription bus channel handler
        · subst same
          simp [Live, uncalled]
        · simp [Live, same]
  rw [grown, exists_or, exists_eq_left]
  rfl

/-- What a channel will come to is kept by `subscribe`. -/
theorem Kept.subscribe (fresh : Fresh bus)
    (kept : ∀ channel, Kept bus channel) (channel : String)
    (handler : Handler) (other : String) :
    Kept (bus.subscribe channel handler) other := by
  constructor
  · intro receiver
    rw [fed_subscribe fresh, wanted_subscribe fresh, (kept other).agrees]
  · have listens := (kept other).listens
    cases found : bus.channelHandlers.get channel with
    | some set =>
        rw [subscribe_of_some found]
        exact listens
    | none =>
        rw [subscribe_of_none found]
        unfold listenersAfter at listens ⊢
        dsimp only
        rw [List.foldl_append, OrderedMap.get_set]
        simp only [List.foldl_cons, List.foldl_nil, listen,
          List.filter_append, listens]
        by_cases same : other = channel
        · subst same
          simp [found, nextSubscription]
        · simp [same, Ne.symm same, nextSubscription]
  · cases found : bus.channelHandlers.get channel with
    | some set =>
        rw [subscribe_of_some found]
        exact (kept other).own
    | none =>
        rw [subscribe_of_none found]
        intro set leads sub captured waits
        dsimp only at leads waits
        rw [OrderedMap.get_set] at leads
        by_cases same : other = channel
        · subst same
          rw [if_pos rfl] at leads
          cases leads
          rcases List.mem_append.mp waits with old | new
          · have apart := Nat.ne_of_lt (fresh.captured sub captured old)
            have elsewhere : sub.channel ≠ other := fun here =>
              (kept other).none_waits found ⟨sub, captured, old, here⟩
            exact iff_of_false elsewhere apart
          · cases List.mem_singleton.mp new
            exact iff_of_true rfl rfl
        · rw [if_neg same] at leads
          rcases List.mem_append.mp waits with old | new
          · exact (kept other).own set leads sub captured old
          · cases List.mem_singleton.mp new
            have apart := Nat.ne_of_lt (fresh.mapped other set leads)
            exact iff_of_false (Ne.symm same) apart.symm

end Subscribing

/-! ## Unsubscribing -/

section Unsubscribing

variable [DecidableEq Handler] {bus : Bus Handler} {sub : Subscription Handler}

/-- A function that has not been returned cannot be called. -/
theorem unsubscribe_of_unresolved (unresolved : sub ∉ bus.resolved) :
    bus.unsubscribe sub = bus :=
  if_neg unresolved

/-- A call on a channel that has no set. -/
theorem unsubscribe_of_none (resolved : sub ∈ bus.resolved)
    (found : bus.channelHandlers.get sub.channel = none) :
    bus.unsubscribe sub = { bus with called := bus.called ++ [sub] } := by
  unfold Bus.unsubscribe
  rw [if_pos resolved]
  dsimp only
  rw [found]

/-- A call that takes the last handler out of a set. -/
theorem unsubscribe_of_last {set : Nat} (resolved : sub ∈ bus.resolved)
    (found : bus.channelHandlers.get sub.channel = some set)
    (last : ((bus.sets set).delete sub.handler).size = 0) :
    bus.unsubscribe sub =
      { bus with
        called := bus.called ++ [sub]
        sets := Function.update bus.sets set
          ((bus.sets set).delete sub.handler)
        channelHandlers := bus.channelHandlers.delete sub.channel
        queue := bus.queue ++ [.unsubscribe sub.channel] } := by
  unfold Bus.unsubscribe
  rw [if_pos resolved]
  dsimp only
  rw [found]
  exact if_pos last

/-- A call that leaves handlers in a set. -/
theorem unsubscribe_of_others {set : Nat} (resolved : sub ∈ bus.resolved)
    (found : bus.channelHandlers.get sub.channel = some set)
    (others : ((bus.sets set).delete sub.handler).size ≠ 0) :
    bus.unsubscribe sub =
      { bus with
        called := bus.called ++ [sub]
        sets := Function.update bus.sets set
          ((bus.sets set).delete sub.handler) } := by
  unfold Bus.unsubscribe
  rw [if_pos resolved]
  dsimp only
  rw [found]
  exact if_neg others

theorem mem_queue_unsubscribe {waiting : Subscription Handler} {set : Nat} :
    .subscribe waiting set ∈ (bus.unsubscribe sub).queue ↔
      .subscribe waiting set ∈ bus.queue := by
  unfold Bus.unsubscribe
  split
  · dsimp only
    split
    · rfl
    · split
      · simp
      · rfl
  · rfl

theorem live_unsubscribe (resolved : sub ∈ bus.resolved)
    {other : Subscription Handler} :
    Live (bus.unsubscribe sub) other ↔ Live bus other ∧ other ≠ sub := by
  unfold Bus.unsubscribe Live
  rw [if_pos resolved]
  dsimp only
  have grown : other ∈ bus.resolved ∧ other ∉ bus.called ++ [sub] ↔
      (other ∈ bus.resolved ∧ other ∉ bus.called) ∧ other ≠ sub := by
    rw [List.mem_append, List.mem_singleton, not_or, and_assoc]
  split
  · exact grown
  · split
    · exact grown
    · exact grown

theorem Fresh.unsubscribe (fresh : Fresh bus) (sub : Subscription Handler) :
    Fresh (bus.unsubscribe sub) := by
  by_cases resolved : sub ∈ bus.resolved
  · have called : ∀ other ∈ bus.called ++ [sub], other ∈ bus.resolved := by
      intro other member
      rcases List.mem_append.mp member with old | new
      · exact fresh.called other old
      · cases List.mem_singleton.mp new
        exact resolved
    cases found : bus.channelHandlers.get sub.channel with
    | none =>
        rw [unsubscribe_of_none resolved found]
        exact { fresh with called }
    | some set =>
        by_cases last : ((bus.sets set).delete sub.handler).size = 0
        · rw [unsubscribe_of_last resolved found last]
          have same : (bus.queue ++ [Command.unsubscribe sub.channel]).filterMap
              subscribing = bus.queue.filterMap subscribing := by
            rw [List.filterMap_append]
            exact List.append_nil _
          have remains {channel : String} {other : Nat}
              (leads : (bus.channelHandlers.delete sub.channel).get channel =
                some other) : bus.channelHandlers.get channel = some other := by
            rw [OrderedMap.get_delete] at leads
            split_ifs at leads
            exact leads
          refine
            { distinct := ?_
              ids := ?_
              called
              mapped := fun channel other leads =>
                fresh.mapped channel other (remains leads)
              captured := ?_
              apart := fun first second other leads also =>
                fresh.apart first second other (remains leads) (remains also) }
          · rw [same]
            exact fresh.distinct
          · rw [same]
            exact fresh.ids
          · intro waiting captured waits
            apply fresh.captured waiting captured
            simpa using waits
        · rw [unsubscribe_of_others resolved found last]
          exact { fresh with called }
  · rw [unsubscribe_of_unresolved resolved]
    exact fresh

/-- Who is subscribed elsewhere does not change. -/
theorem wanted_unsubscribe_of_ne (resolved : sub ∈ bus.resolved)
    {channel : String} {handler : Handler}
    (elsewhere : channel ≠ sub.channel ∨ handler ≠ sub.handler) :
    Wanted (bus.unsubscribe sub) channel handler ↔
      Wanted bus channel handler := by
  unfold Wanted
  simp only [live_unsubscribe resolved, mem_queue_unsubscribe]
  refine exists_congr fun other => and_congr_right fun onChannel =>
    and_congr_right fun handles => ?_
  have distinct : other ≠ sub := by
    rintro rfl
    rcases elsewhere with apart | apart
    · exact apart onChannel.symm
    · exact apart handles.symm
  rw [and_iff_left distinct]

/-- The handler is still subscribed if it is shared or waits. -/
theorem wanted_unsubscribe_self (resolved : sub ∈ bus.resolved) :
    Wanted (bus.unsubscribe sub) sub.channel sub.handler ↔
      (∃ other, Live bus other ∧ other ≠ sub ∧
        other.channel = sub.channel ∧ other.handler = sub.handler) ∨
      ∃ waiting set, .subscribe waiting set ∈ bus.queue ∧
        waiting.channel = sub.channel ∧ waiting.handler = sub.handler := by
  unfold Wanted
  simp only [live_unsubscribe resolved, mem_queue_unsubscribe]
  constructor
  · rintro ⟨other, here, same, ⟨live, distinct⟩ | ⟨set, waits⟩⟩
    · exact .inl ⟨other, live, distinct, here, same⟩
    · exact .inr ⟨other, set, waits, here, same⟩
  · rintro (⟨other, live, distinct, here, same⟩ |
      ⟨other, set, waits, here, same⟩)
    · exact ⟨other, here, same, .inl ⟨live, distinct⟩⟩
    · exact ⟨other, here, same, .inr ⟨set, waits⟩⟩

/-- A channel whose set is dropped feeds nobody. -/
theorem not_fed_of_last {set : Nat} (resolved : sub ∈ bus.resolved)
    (found : bus.channelHandlers.get sub.channel = some set)
    (last : ((bus.sets set).delete sub.handler).size = 0)
    (handler : Handler) :
    ¬ Fed (bus.unsubscribe sub) sub.channel handler := by
  rw [unsubscribe_of_last resolved found last]
  rintro ⟨other, leads, -⟩
  simp at leads

/-- A set that is left feeds what it has fed, less the handler deleted. -/
theorem fed_of_others {set : Nat} (resolved : sub ∈ bus.resolved)
    (found : bus.channelHandlers.get sub.channel = some set)
    (others : ((bus.sets set).delete sub.handler).size ≠ 0)
    (handler : Handler) :
    Fed (bus.unsubscribe sub) sub.channel handler ↔
      (handler ≠ sub.handler ∧ handler ∈ bus.sets set) ∨
        ∃ waiting, .subscribe waiting set ∈ bus.queue ∧
          waiting.handler = handler := by
  rw [unsubscribe_of_others resolved found others]
  unfold Fed
  dsimp only
  simp [found]

theorem fed_unsubscribe_of_ne (fresh : Fresh bus) {channel : String}
    {handler : Handler} (elsewhere : channel ≠ sub.channel) :
    Fed (bus.unsubscribe sub) channel handler ↔ Fed bus channel handler := by
  by_cases resolved : sub ∈ bus.resolved
  · cases found : bus.channelHandlers.get sub.channel with
    | none =>
        rw [unsubscribe_of_none resolved found]
        exact Iff.rfl
    | some set =>
        have apart (other : Nat)
            (leads : bus.channelHandlers.get channel = some other) :
            other ≠ set := by
          rintro rfl
          exact elsewhere (fresh.apart _ _ _ leads found)
        by_cases last : ((bus.sets set).delete sub.handler).size = 0
        · rw [unsubscribe_of_last resolved found last]
          unfold Fed
          dsimp only
          rw [OrderedMap.get_delete, if_neg elsewhere]
          refine exists_congr fun other => and_congr_right fun leads => ?_
          rw [Function.update_of_ne (apart other leads)]
          simp
        · rw [unsubscribe_of_others resolved found last]
          unfold Fed
          dsimp only
          refine exists_congr fun other => and_congr_right fun leads => ?_
          rw [Function.update_of_ne (apart other leads)]
  · rw [unsubscribe_of_unresolved resolved]

/-- Where a set is left or dropped, the others keep theirs. -/
theorem get_of_get_unsubscribe {channel : String} {set : Nat}
    (leads : (bus.unsubscribe sub).channelHandlers.get channel = some set) :
    bus.channelHandlers.get channel = some set := by
  by_cases resolved : sub ∈ bus.resolved
  · cases found : bus.channelHandlers.get sub.channel with
    | none =>
        rw [unsubscribe_of_none resolved found] at leads
        exact leads
    | some dropped =>
        by_cases last : ((bus.sets dropped).delete sub.handler).size = 0
        · rw [unsubscribe_of_last resolved found last] at leads
          dsimp only at leads
          rw [OrderedMap.get_delete] at leads
          split_ifs at leads
          exact leads
        · rw [unsubscribe_of_others resolved found last] at leads
          exact leads
  · rw [unsubscribe_of_unresolved resolved] at leads
    exact leads

/-- The listeners follow the map. -/
theorem Kept.listens_unsubscribe {channel : String}
    (kept : Kept bus channel) :
    (listenersAfter (bus.unsubscribe sub)).filter (fun other =>
        decide (other = channel)) =
      if ((bus.unsubscribe sub).channelHandlers.get channel).isSome
        then [channel] else [] := by
  have listens := kept.listens
  by_cases resolved : sub ∈ bus.resolved
  · cases found : bus.channelHandlers.get sub.channel with
    | none =>
        rw [unsubscribe_of_none resolved found]
        exact listens
    | some set =>
        by_cases last : ((bus.sets set).delete sub.handler).size = 0
        · rw [unsubscribe_of_last resolved found last]
          unfold listenersAfter at listens ⊢
          dsimp only
          rw [List.foldl_append, OrderedMap.get_delete]
          simp only [List.foldl_cons, List.foldl_nil, listen]
          rw [List.filter_comm, listens]
          by_cases same : channel = sub.channel
          · subst same
            simp [found]
          · rw [if_neg same]
            split
            · simp [same]
            · rfl
        · rw [unsubscribe_of_others resolved found last]
          exact listens
  · rw [unsubscribe_of_unresolved resolved]
    exact listens

/-- A call of an unsubscribe subscribes nobody. -/
theorem wanted_of_unsubscribe (resolved : sub ∈ bus.resolved)
    {channel : String} {handler : Handler}
    (wanted : Wanted (bus.unsubscribe sub) channel handler) :
    Wanted bus channel handler := by
  rcases wanted with ⟨other, here, handles, live | ⟨set, waits⟩⟩
  · exact ⟨other, here, handles, .inl ((live_unsubscribe resolved).mp live).1⟩
  · exact ⟨other, here, handles,
      .inr ⟨set, mem_queue_unsubscribe.mp waits⟩⟩

/-- On a channel that has no set nobody is fed and nobody subscribed. -/
theorem Kept.agrees_unsubscribe_none (resolved : sub ∈ bus.resolved)
    (kept : Kept bus sub.channel)
    (found : bus.channelHandlers.get sub.channel = none) (handler : Handler) :
    Fed (bus.unsubscribe sub) sub.channel handler ↔
      Wanted (bus.unsubscribe sub) sub.channel handler := by
  have unfed : ¬ Fed bus sub.channel handler := by
    rintro ⟨set, mapped, -⟩
    cases mapped.symm.trans found
  apply iff_of_false
  · rw [unsubscribe_of_none resolved found]
    exact unfed
  · exact fun wanted => unfed
      ((kept.agrees handler).mpr (wanted_of_unsubscribe resolved wanted))

/-- A call that empties a set nobody waits on leaves nobody subscribed. -/
theorem Kept.agrees_unsubscribe_last {set : Nat}
    (resolved : sub ∈ bus.resolved) (kept : Kept bus sub.channel)
    (harmless : ¬ Harms bus (.unsubscribes sub))
    (found : bus.channelHandlers.get sub.channel = some set)
    (last : ((bus.sets set).delete sub.handler).size = 0)
    (handler : Handler) :
    Fed (bus.unsubscribe sub) sub.channel handler ↔
      Wanted (bus.unsubscribe sub) sub.channel handler := by
  have nobodyWaits : ¬ Waits bus sub.channel := fun waits =>
    harmless ⟨resolved, .inl ⟨set, found, last, waits⟩⟩
  refine iff_of_false (not_fed_of_last resolved found last handler) ?_
  by_cases same : handler = sub.handler
  · subst same
    rw [wanted_unsubscribe_self resolved]
    rintro (shared | ⟨waiting, captured, waits, here, -⟩)
    · apply harmless
      refine ⟨resolved, .inr ⟨shared, ?_⟩⟩
      exact fun waiting captured waits here =>
        absurd ⟨waiting, captured, waits, here⟩ nobodyWaits
    · exact nobodyWaits ⟨waiting, captured, waits, here⟩
  · intro wanted
    have fed := (kept.agrees handler).mpr
      (wanted_of_unsubscribe resolved wanted)
    rcases fed with ⟨mapped, leads, member | ⟨waiting, waits, -⟩⟩
    · cases leads.symm.trans found
      rw [OrderedSet.size_eq_zero_iff, OrderedSet.eq_empty_iff] at last
      exact last handler (OrderedSet.mem_delete.mpr ⟨same, member⟩)
    · have here := (kept.own mapped leads waiting mapped waits).mpr rfl
      exact nobodyWaits ⟨waiting, mapped, waits, here⟩

/-- A harmless call that leaves a set leaves it to those subscribed. -/
theorem Kept.agrees_unsubscribe_others {set : Nat}
    (resolved : sub ∈ bus.resolved) (kept : Kept bus sub.channel)
    (harmless : ¬ Harms bus (.unsubscribes sub))
    (found : bus.channelHandlers.get sub.channel = some set)
    (others : ((bus.sets set).delete sub.handler).size ≠ 0)
    (handler : Handler) :
    Fed (bus.unsubscribe sub) sub.channel handler ↔
      Wanted (bus.unsubscribe sub) sub.channel handler := by
  have own := kept.own set found
  rw [fed_of_others resolved found others]
  by_cases same : handler = sub.handler
  · subst same
    rw [wanted_unsubscribe_self resolved]
    constructor
    · rintro (⟨distinct, -⟩ | ⟨waiting, waits, handles⟩)
      · exact absurd rfl distinct
      · exact .inr
          ⟨waiting, set, waits, (own waiting set waits).mpr rfl, handles⟩
    · intro wanted
      by_contra unfed
      have nobodyWaits (waiting : Subscription Handler) (captured : Nat)
          (waits : .subscribe waiting captured ∈ bus.queue)
          (here : waiting.channel = sub.channel) :
          waiting.handler ≠ sub.handler := by
        intro handles
        cases (own waiting captured waits).mp here
        exact unfed (.inr ⟨waiting, waits, handles⟩)
      rcases wanted with shared | ⟨waiting, captured, waits, here, handles⟩
      · exact harmless ⟨resolved, .inr ⟨shared, nobodyWaits⟩⟩
      · exact nobodyWaits waiting captured waits here handles
  · rw [wanted_unsubscribe_of_ne resolved (.inr same), ← kept.agrees handler]
    unfold Fed
    simp [found, same]

/-- What a channel will come to is kept by a harmless call. -/
theorem Kept.unsubscribe (fresh : Fresh bus)
    (kept : ∀ channel, Kept bus channel)
    (harmless : ¬ Harms bus (.unsubscribes sub)) (channel : String) :
    Kept (bus.unsubscribe sub) channel := by
  by_cases resolved : sub ∈ bus.resolved
  · refine
      { agrees := fun handler => ?_
        listens := (kept channel).listens_unsubscribe
        own := ?_ }
    · by_cases same : channel = sub.channel
      · subst same
        have here := kept sub.channel
        cases found : bus.channelHandlers.get sub.channel with
        | none => exact here.agrees_unsubscribe_none resolved found handler
        | some set =>
            by_cases last : ((bus.sets set).delete sub.handler).size = 0
            · exact here.agrees_unsubscribe_last resolved harmless found last
                handler
            · exact here.agrees_unsubscribe_others resolved harmless found last
                handler
      · rw [fed_unsubscribe_of_ne fresh same,
          wanted_unsubscribe_of_ne resolved (.inl same)]
        exact (kept channel).agrees handler
    · intro set leads waiting captured waits
      exact (kept channel).own set (get_of_get_unsubscribe leads) waiting
        captured (mem_queue_unsubscribe.mp waits)
  · rw [unsubscribe_of_unresolved resolved]
    exact kept channel

/-- A harmful call leaves a subscribed handler that will not be fed. -/
theorem wanted_unfed_of_harms (kept : Kept bus sub.channel)
    (harms : Harms bus (.unsubscribes sub)) :
    ∃ handler, Wanted (bus.unsubscribe sub) sub.channel handler ∧
      ¬ Fed (bus.unsubscribe sub) sub.channel handler := by
  rcases harms with
    ⟨resolved, ⟨set, found, last, waiting, captured, waits, here⟩ |
      ⟨shared, nobodyWaits⟩⟩
  · have remains : .subscribe waiting captured ∈ (bus.unsubscribe sub).queue :=
      mem_queue_unsubscribe.mpr waits
    exact ⟨waiting.handler, ⟨waiting, here, rfl, .inr ⟨captured, remains⟩⟩,
      not_fed_of_last resolved found last waiting.handler⟩
  · refine ⟨sub.handler,
      (wanted_unsubscribe_self resolved).mpr (.inl shared), ?_⟩
    cases found : bus.channelHandlers.get sub.channel with
    | none =>
        rw [unsubscribe_of_none resolved found]
        rintro ⟨set, mapped, -⟩
        cases mapped.symm.trans found
    | some set =>
        by_cases last : ((bus.sets set).delete sub.handler).size = 0
        · exact not_fed_of_last resolved found last sub.handler
        · rw [fed_of_others resolved found last]
          rintro (⟨distinct, -⟩ | ⟨waiting, waits, handles⟩)
          · exact distinct rfl
          · have here := (kept.own set found waiting set waits).mpr rfl
            exact nobodyWaits waiting set waits here handles

end Unsubscribing

/-! ## Bus delivery -/

theorem start_fresh : Fresh (.start : Bus Handler) where
  distinct := List.nodup_nil
  ids _ member := by cases member
  called _ called := by cases called
  mapped _ _ leads := by cases leads
  captured _ _ waits := by cases waits
  apart _ _ _ leads := by cases leads

theorem start_kept (channel : String) :
    Kept (.start : Bus Handler) channel where
  agrees handler := by
    apply iff_of_false
    · rintro ⟨_, leads, -⟩
      cases leads
    · rintro ⟨_, -, -, ⟨resolved, -⟩ | ⟨_, waits⟩⟩
      · cases resolved
      · cases waits
  listens := rfl
  own _ leads := by cases leads

/--
Bus delivery, exactly.  In a run the bus delivers at every quiescent point just
when no `unsubscribe` call harms.
-/
theorem bus_delivers_iff [DecidableEq Handler]
    (calls : List (BusCall Handler)) :
    Throughout step DeliversAtRest .start calls ↔
      Along step (fun bus call => ¬ Harms bus call) .start calls := by
  have shaped (bus : Bus Handler)
      (shape : Fresh bus ∧ ∀ channel, Kept bus channel) : DeliversAtRest bus :=
    deliversAtRest_of_kept shape.1 shape.2
  have kept (bus : Bus Handler) (call : BusCall Handler)
      (shape : Fresh bus ∧ ∀ channel, Kept bus channel) (_ : True)
      (harmless : ¬ Harms bus call) :
      Fresh (step bus call) ∧ ∀ channel, Kept (step bus call) channel := by
    rcases shape with ⟨fresh, kept⟩
    cases call with
    | subscribes channel handler =>
        exact ⟨fresh.subscribe channel handler,
          Kept.subscribe fresh kept channel handler⟩
    | unsubscribes sub =>
        exact ⟨fresh.unsubscribe sub, Kept.unsubscribe fresh kept harmless⟩
    | executes =>
        exact ⟨fresh.execute, fun channel => (kept channel).execute fresh⟩
  have lost (bus : Bus Handler) (call : BusCall Handler)
      (shape : Fresh bus ∧ ∀ channel, Kept bus channel) (_ : True)
      (harmful : ¬ ¬ Harms bus call) : ¬ DeliversAtRest (step bus call) := by
    rcases shape with ⟨fresh, kept⟩
    have harms := not_not.mp harmful
    cases call with
    | subscribes channel handler => exact harms.elim
    | executes => exact harms.elim
    | unsubscribes sub =>
        rcases wanted_unfed_of_harms (kept sub.channel) harms with
          ⟨handler, wanted, unfed⟩
        exact not_deliversAtRest (fresh.unsubscribe sub) wanted unfed
  exact throughout_iff_along_of_shape shaped kept lost
    ⟨start_fresh, start_kept⟩
    (along_of_forall (fun _ _ => trivial) _ _)

/--
The second call on a channel adds its handler at once, and its unsubscribe
drops the set before Redis has answered the first call.
-/
def droppedEarly : List (BusCall Nat) :=
  [.subscribes "room:team" 1, .subscribes "room:team" 2,
    .unsubscribes ⟨1, "room:team", 2⟩, .executes, .executes]

theorem bus_delivers_fails :
    ¬ ∀ calls : List (BusCall Nat),
      Throughout step DeliversAtRest .start calls := by
  intro claim
  have rest : (run step .start droppedEarly).queue = [] := by decide
  have delivers : Delivers (run step .start droppedEarly) :=
    (claim droppedEarly).final 0 rest
  have subscribed :
      Subscribed (run step .start droppedEarly) "room:team" 1 :=
    ⟨⟨0, "room:team", 1⟩, ⟨by decide, by decide⟩, rfl, rfl⟩
  have unheard :
      (run step .start droppedEarly).receivers "room:team" = [] := by
    decide
  have once := delivers.once _ _ subscribed
  rw [unheard] at once
  exact absurd once (by decide)

end ChatBackend.Ws.BusOverlap
