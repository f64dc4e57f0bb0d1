import ChatBackend.Chat.Store
import ChatBackend.Collections.Ordered

/-!
# The message bus of an instance

`RedisMessageBus` keeps one set of handlers a channel and one listener at the
Redis client for every channel with a set.  The Redis client is not part of the
repository: its commands are taken to succeed, and each of them to be done
before the next operation starts.
-/

namespace ChatBackend.Ws.MessageBus

open Collections
open ChatBackend.Chat.Store

variable {Handler : Type}

/-- The function that `subscribe` resolves to. -/
structure Unsubscribe (Handler : Type) where
  channel : Channel
  handler : Handler
deriving DecidableEq

/-- The handlers of the bus and the listeners at the Redis client. -/
structure RedisMessageBus (Handler : Type) where
  channelHandlers : OrderedMap Channel (OrderedSet Handler)
  listeners : List Channel

/-- A bus nobody has subscribed to. -/
def RedisMessageBus.empty : RedisMessageBus Handler where
  channelHandlers := ∅
  listeners := []

/-- The handlers that an event is passed to: each listener runs the set. -/
def RedisMessageBus.receivers (bus : RedisMessageBus Handler)
    (channel : Channel) : List Handler :=
  (bus.listeners.filter fun other => decide (other = channel)).flatMap
    fun _ => ((bus.channelHandlers.get channel).getD ∅).toList

variable [DecidableEq Handler]

def RedisMessageBus.subscribe (bus : RedisMessageBus Handler)
    (channel : Channel) (handler : Handler) :
    Unsubscribe Handler × RedisMessageBus Handler :=
  match bus.channelHandlers.get channel with
  -- `isNew`
  | none =>
      ({ channel, handler },
        { channelHandlers :=
            bus.channelHandlers.set channel
              ((∅ : OrderedSet Handler).add handler)
          listeners := bus.listeners ++ [channel] })
  | some handlers =>
      ({ channel, handler },
        { bus with
          channelHandlers :=
            bus.channelHandlers.set channel (handlers.add handler) })

/-- What calling the function that `subscribe` resolved to does. -/
def Unsubscribe.call (unsub : Unsubscribe Handler)
    (bus : RedisMessageBus Handler) : RedisMessageBus Handler :=
  match bus.channelHandlers.get unsub.channel with
  | none => bus
  | some set =>
      if (set.delete unsub.handler).size = 0 then
        { channelHandlers := bus.channelHandlers.delete unsub.channel
          listeners := bus.listeners.filter fun other =>
            decide (other ≠ unsub.channel) }
      else
        { bus with
          channelHandlers :=
            bus.channelHandlers.set unsub.channel
              (set.delete unsub.handler) }

/-! ## Channels that feed at most one handler -/

namespace RedisMessageBus

section Feeds

variable {Handler : Type} {bus : RedisMessageBus Handler} {channel : Channel}

/--
The channel is not listened to, or one listener feeds the single handler that
the given function takes out again.
-/
def Feeds (bus : RedisMessageBus Handler) (channel : Channel) :
    Option (Unsubscribe Handler) → Prop
  | none => bus.channelHandlers.get channel = none ∧ channel ∉ bus.listeners
  | some unsub => unsub.channel = channel ∧
      bus.channelHandlers.get channel =
        some (OrderedSet.single unsub.handler) ∧
      bus.listeners.filter (fun other => decide (other = channel)) = [channel]

theorem feeds_empty (channel : Channel) :
    (empty : RedisMessageBus Handler).Feeds channel none :=
  ⟨rfl, List.not_mem_nil⟩

theorem filter_listeners (unlistened : channel ∉ bus.listeners) :
    bus.listeners.filter (fun other => decide (other = channel)) = [] := by
  rw [List.filter_eq_nil_iff]
  intro other listened same
  exact unlistened (of_decide_eq_true same ▸ listened)

theorem receivers_of_feeds {unsub : Option (Unsubscribe Handler)}
    (feeds : bus.Feeds channel unsub) :
    bus.receivers channel = unsub.toList.map Unsubscribe.handler := by
  unfold receivers
  cases unsub with
  | none =>
      rw [filter_listeners feeds.2]
      rfl
  | some unsub =>
      rcases feeds with ⟨-, handlers, listened⟩
      rw [listened, handlers]
      rfl

end Feeds

variable {bus : RedisMessageBus Handler} {channel other : Channel}
  {handler : Handler}

/-- Subscribing to a channel that is not listened to starts feeding it. -/
theorem Feeds.subscribe (feeds : bus.Feeds channel none) (handler : Handler) :
    (bus.subscribe channel handler).2.Feeds channel
      (some (bus.subscribe channel handler).1) := by
  rcases feeds with ⟨unhandled, unlistened⟩
  unfold RedisMessageBus.subscribe
  rw [unhandled]
  refine ⟨rfl, ?_, ?_⟩
  · rw [OrderedMap.get_set, if_pos rfl, OrderedSet.empty_add]
  · simp [List.filter_append, filter_listeners unlistened]

@[simp]
theorem subscribe_handler : (bus.subscribe channel handler).1.handler =
    handler := by
  unfold subscribe
  split <;> rfl

@[simp]
theorem subscribe_channel : (bus.subscribe channel handler).1.channel =
    channel := by
  unfold subscribe
  split <;> rfl

/-- Subscribing leaves the other channels as they are. -/
theorem Feeds.subscribe_other {unsub : Option (Unsubscribe Handler)}
    (feeds : bus.Feeds other unsub) (handler : Handler)
    (different : other ≠ channel) :
    (bus.subscribe channel handler).2.Feeds other unsub := by
  have handlers (subscribed : OrderedSet Handler) :
      (bus.channelHandlers.set channel subscribed).get other =
        bus.channelHandlers.get other := by
    rw [OrderedMap.get_set, if_neg different]
  have listeners : (bus.listeners ++ [channel]).filter
      (fun listener => decide (listener = other)) =
        bus.listeners.filter fun listener => decide (listener = other) := by
    simp [List.filter_append, different.symm]
  unfold RedisMessageBus.subscribe
  split <;> cases unsub <;>
    simpa [Feeds, handlers, listeners, different] using feeds

/-- Taking the only handler out ends the feed. -/
theorem Feeds.call {unsub : Unsubscribe Handler}
    (feeds : bus.Feeds channel (some unsub)) :
    (unsub.call bus).Feeds channel none := by
  rcases feeds with ⟨rfl, handlers, -⟩
  unfold Unsubscribe.call
  rw [handlers]
  simp [Feeds]

/-- Unsubscribing leaves the other channels as they are. -/
theorem Feeds.call_other {unsub : Option (Unsubscribe Handler)}
    {called : Unsubscribe Handler} (feeds : bus.Feeds other unsub)
    (different : other ≠ called.channel) :
    (called.call bus).Feeds other unsub := by
  have listeners : (bus.listeners.filter fun listener =>
      decide (listener ≠ called.channel)).filter
        (fun listener => decide (listener = other)) =
          bus.listeners.filter fun listener => decide (listener = other) := by
    rw [List.filter_filter]
    apply List.filter_congr
    intro listener _
    by_cases same : listener = other
    · subst same
      simp [different]
    · simp [same]
  unfold Unsubscribe.call
  split
  · exact feeds
  · split_ifs
    · cases unsub with
      | none => simpa [Feeds, different] using feeds
      | some _ => simpa only [Feeds, OrderedMap.get_delete, if_neg different,
          listeners] using feeds
    · cases unsub <;> simpa [Feeds, different] using feeds

/-! ## Channels with any number of handlers -/

/-- A channel has one listener if it has a set of handlers, and else none. -/
def Listening (bus : RedisMessageBus Handler) : Prop :=
  ∀ channel, bus.listeners.filter (fun other => decide (other = channel)) =
    if (bus.channelHandlers.get channel).isSome then [channel] else []

omit [DecidableEq Handler] in
theorem listening_empty : (empty : RedisMessageBus Handler).Listening :=
  fun _ => rfl

omit [DecidableEq Handler] in
theorem Listening.receivers_eq (listening : bus.Listening)
    (channel : Channel) :
    bus.receivers channel =
      ((bus.channelHandlers.get channel).getD ∅).toList := by
  unfold receivers
  rw [listening]
  cases bus.channelHandlers.get channel with
  | none => rfl
  | some handlers => exact List.append_nil _

theorem Listening.subscribe (listening : bus.Listening) (channel : Channel)
    (handler : Handler) : (bus.subscribe channel handler).2.Listening := by
  unfold RedisMessageBus.subscribe
  intro other
  cases found : bus.channelHandlers.get channel with
  | none =>
      dsimp only
      rw [List.filter_append, listening, OrderedMap.get_set]
      by_cases same : other = channel
      · subst same
        simp [found]
      · simp [same, Ne.symm same]
  | some handlers =>
      dsimp only
      rw [listening, OrderedMap.get_set]
      by_cases same : other = channel
      · subst same
        simp [found]
      · simp [same]

/-- A new handler is the last one that an event is passed to. -/
theorem Listening.receivers_subscribe (listening : bus.Listening)
    (fresh : handler ∉ bus.receivers channel) :
    (bus.subscribe channel handler).2.receivers other =
      if other = channel then bus.receivers channel ++ [handler]
      else bus.receivers other := by
  rw [(listening.subscribe channel handler).receivers_eq]
  rw [listening.receivers_eq] at fresh
  rw [listening.receivers_eq, listening.receivers_eq]
  unfold RedisMessageBus.subscribe
  cases found : bus.channelHandlers.get channel with
  | none =>
      dsimp only
      rw [OrderedMap.get_set]
      split_ifs <;> rfl
  | some handlers =>
      dsimp only
      rw [OrderedMap.get_set]
      rw [found] at fresh
      split_ifs
      · exact OrderedSet.toList_add_of_not_mem fresh
      · rfl

theorem Listening.call (listening : bus.Listening)
    (unsub : Unsubscribe Handler) : (unsub.call bus).Listening := by
  unfold Unsubscribe.call
  cases found : bus.channelHandlers.get unsub.channel with
  | none => exact listening
  | some handlers =>
      dsimp only
      by_cases last : (handlers.delete unsub.handler).size = 0
      · rw [if_pos last]
        intro other
        dsimp only
        rw [OrderedMap.get_delete]
        by_cases same : other = unsub.channel
        · simp [same, List.filter_filter]
        · have kept : (bus.listeners.filter fun listener =>
              decide (listener ≠ unsub.channel)).filter
                (fun listener => decide (listener = other)) =
              bus.listeners.filter fun listener =>
                decide (listener = other) := by
            rw [List.filter_filter]
            apply List.filter_congr
            intro listener _
            by_cases here : listener = other
            · simp [here, same]
            · simp [here]
          rw [kept, listening, if_neg same]
      · rw [if_neg last]
        intro other
        dsimp only
        rw [listening, OrderedMap.get_set]
        by_cases same : other = unsub.channel
        · simp [same, found]
        · simp [same]

/-- Unsubscribing takes the handler out of its channel. -/
theorem Listening.receivers_call (listening : bus.Listening)
    (unsub : Unsubscribe Handler) :
    (unsub.call bus).receivers other =
      if other = unsub.channel then
        (bus.receivers other).erase unsub.handler
      else bus.receivers other := by
  rw [(listening.call unsub).receivers_eq, listening.receivers_eq]
  unfold Unsubscribe.call
  cases found : bus.channelHandlers.get unsub.channel with
  | none =>
      dsimp only
      split_ifs with same
      · rw [same, found]
        rfl
      · rfl
  | some handlers =>
      dsimp only
      split_ifs with last same same
      · rw [OrderedMap.get_delete, if_pos same, same, found]
        rw [OrderedSet.size_eq_zero_iff] at last
        exact congrArg OrderedSet.toList last.symm
      · rw [OrderedMap.get_delete, if_neg same]
      · rw [OrderedMap.get_set, if_pos same, same, found]
        rfl
      · rw [OrderedMap.get_set, if_neg same]

end RedisMessageBus

end ChatBackend.Ws.MessageBus
