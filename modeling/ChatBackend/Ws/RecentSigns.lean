import ChatBackend.Ws.PresenceStore
import Mathlib.Data.List.Chain

/-!
# Presence and signs of life

A user should be online while one of its connections has given a sign of life
within the time to live.  The store lets the hash of a user expire as a whole,
so every sign of the user carries the fields of all its connections along, also
of those that have vanished.  `Carried` says so of one connection in terms of
the history; a user lingers online if it has a connection that is carried and
none that is fresh.
-/

namespace ChatBackend.Ws.RecentSigns

open Collections
open Effects
open Transition
open ChatBackend.Ws.PresenceStore

/-- Calls and their times, in the order of the calls. -/
abbrev History := List (PresenceCall × Time)

/-! ## Specification -/

section Specification

variable (ttlSec : Int) (history : History) (now : Time) (userId : String)

/-- The clock does not decrease in the history and up to the time. -/
def NonDecreasing : Prop :=
  (history.map Prod.snd ++ [now]).Pairwise (· ≤ ·)

instance : Decidable (NonDecreasing history now) :=
  inferInstanceAs (Decidable (List.Pairwise _ _))

/--
The last call about the connection is a sign of life at the time, which was
followed by other calls.
-/
def LastSign (connId : String) (time : Time) (later : History) : Prop :=
  ∃ before call, history = before ++ (call, time) :: later ∧ call.IsSign ∧
    call.Concerns userId connId ∧
      ∀ other ∈ later, ¬ other.1.Concerns userId connId

/-- The connection has given a sign of life within the time to live. -/
def Fresh (connId : String) : Prop :=
  ∃ time later, LastSign history userId connId time later ∧
    now - time < ttlSec * 1000

/-- The times at which connections of the user have given a sign of life. -/
def signTimes : List Time :=
  (history.filter fun call => call.1.IsSign ∧ call.1.userId = userId).map
    Prod.snd

/--
From the last sign of life of the connection up to the time, the user has given
signs of life that are less than the time to live apart.
-/
def Carried (connId : String) : Prop :=
  ∃ time later, LastSign history userId connId time later ∧
    List.IsChain (fun earlier later => later - earlier < ttlSec * 1000)
      (time :: (signTimes later userId ++ [now]))

/-- A connection that is not fresh is carried along, and no fresh one is. -/
def Lingers : Prop :=
  (∃ connId, Carried ttlSec history now userId connId) ∧
    ∀ connId, ¬ Fresh ttlSec history now userId connId

/-- The user is online if one of its connections is fresh. -/
def OnlineIfFresh : Prop :=
  ∃ online,
    ((RedisPresenceStore.isOnline userId).run presenceAdapter now
      (stored ttlSec history)).1 = .ok online ∧
    (online = true ↔ ∃ connId, Fresh ttlSec history now userId connId)

/-- Of the users, in order, those are listed that have a fresh connection. -/
def ListsFresh (userIds : List String) : Prop :=
  ∃ fresh : String → Bool,
    (∀ userId ∈ userIds,
      fresh userId = true ↔ ∃ connId, Fresh ttlSec history now userId connId) ∧
    ((RedisPresenceStore.listOnline userIds).run presenceAdapter now
      (stored ttlSec history)).1 = .ok (userIds.filter fresh)

end Specification

/-! ## The last call of a history -/

section Last

variable {ttlSec : Int} {history : History} {call : PresenceCall}
  {time now : Time} {userId connId : String}

theorem not_lastSign_nil {later : History} :
    ¬ LastSign [] userId connId time later := by
  rintro ⟨before, call, split, -⟩
  cases before <;> cases split

theorem lastSign_concat_iff {last : PresenceCall × Time} {later : History} :
    LastSign (history ++ [last]) userId connId time later ↔
      (later = [] ∧ last.2 = time ∧ last.1.IsSign ∧
        last.1.Concerns userId connId) ∨
      ∃ earlier, later = earlier ++ [last] ∧
        LastSign history userId connId time earlier ∧
        ¬ last.1.Concerns userId connId := by
  constructor
  · rintro ⟨before, call, split, sign, concerns, others⟩
    rcases List.eq_nil_or_concat later with rfl | ⟨earlier, final, rfl⟩
    · rcases List.append_inj' split rfl with ⟨rfl, same⟩
      cases same
      exact .inl ⟨rfl, rfl, sign, concerns⟩
    · rw [List.concat_eq_append, ← List.cons_append, ← List.append_assoc]
        at split
      rcases List.append_inj' split rfl with ⟨rfl, same⟩
      cases same
      rw [List.concat_eq_append] at others ⊢
      refine .inr ⟨earlier, rfl, ⟨before, call, rfl, sign, concerns, ?_⟩, ?_⟩
      · exact fun other member => others other (List.mem_append_left _ member)
      · exact others last (List.mem_append_right _ (List.mem_singleton_self _))
  · rintro (⟨rfl, rfl, sign, concerns⟩ |
      ⟨earlier, rfl, ⟨before, call, rfl, sign, concerns, others⟩, last⟩)
    · exact ⟨history, last.1, rfl, sign, concerns, nofun⟩
    · refine ⟨before, call, ?_, sign, concerns, ?_⟩
      · rw [List.append_assoc, List.cons_append]
      · intro other member
        rcases List.mem_append.mp member with old | new
        · exact others other old
        · cases List.mem_singleton.mp new
          exact last

/-- A call about the connection makes it fresh, or not. -/
theorem fresh_concat_of_concerns (concerns : call.Concerns userId connId) :
    Fresh ttlSec (history ++ [(call, time)]) now userId connId ↔
      call.IsSign ∧ now - time < ttlSec * 1000 := by
  constructor
  · rintro ⟨sinceTime, later, last, inTime⟩
    rcases lastSign_concat_iff.mp last with
      ⟨-, rfl, sign, -⟩ | ⟨-, -, -, otherwise⟩
    · exact ⟨sign, inTime⟩
    · exact absurd concerns otherwise
  · rintro ⟨sign, inTime⟩
    exact ⟨time, [], lastSign_concat_iff.mpr (.inl ⟨rfl, rfl, sign, concerns⟩),
      inTime⟩

theorem fresh_concat_of_not (otherwise : ¬ call.Concerns userId connId) :
    Fresh ttlSec (history ++ [(call, time)]) now userId connId ↔
      Fresh ttlSec history now userId connId := by
  constructor
  · rintro ⟨sinceTime, later, last, inTime⟩
    rcases lastSign_concat_iff.mp last with
      ⟨-, -, -, concerns⟩ | ⟨earlier, -, before, -⟩
    · exact absurd concerns otherwise
    · exact ⟨sinceTime, earlier, before, inTime⟩
  · rintro ⟨sinceTime, earlier, before, inTime⟩
    exact ⟨sinceTime, _,
      lastSign_concat_iff.mpr (.inr ⟨earlier, rfl, before, otherwise⟩), inTime⟩

theorem signTimes_concat_of_not
    (otherwise : ¬ (call.IsSign ∧ call.userId = userId)) :
    signTimes (history ++ [(call, time)]) userId =
      signTimes history userId := by
  simp [signTimes, otherwise]

theorem signTimes_concat_of_sign (sign : call.IsSign)
    (same : call.userId = userId) :
    signTimes (history ++ [(call, time)]) userId =
      signTimes history userId ++ [time] := by
  simp [signTimes, sign, same]

/-- A call about another connection carries on what its sign reaches. -/
theorem carried_concat_of_not (otherwise : ¬ call.Concerns userId connId) :
    Carried ttlSec (history ++ [(call, time)]) now userId connId ↔
      if call.IsSign ∧ call.userId = userId then
        now - time < ttlSec * 1000 ∧
          Carried ttlSec history time userId connId
      else Carried ttlSec history now userId connId := by
  have reduces : Carried ttlSec (history ++ [(call, time)]) now userId connId ↔
      ∃ sinceTime earlier, LastSign history userId connId sinceTime earlier ∧
        List.IsChain (fun earlier later => later - earlier < ttlSec * 1000)
          (sinceTime ::
            (signTimes (earlier ++ [(call, time)]) userId ++ [now])) := by
    constructor
    · rintro ⟨sinceTime, later, last, chain⟩
      rcases lastSign_concat_iff.mp last with
        ⟨-, -, -, concerns⟩ | ⟨earlier, rfl, before, -⟩
      · exact absurd concerns otherwise
      · exact ⟨sinceTime, earlier, before, chain⟩
    · rintro ⟨sinceTime, earlier, before, chain⟩
      exact ⟨sinceTime, _,
        lastSign_concat_iff.mpr (.inr ⟨earlier, rfl, before, otherwise⟩),
        chain⟩
  rw [reduces]
  split_ifs with carries
  · simp only [signTimes_concat_of_sign carries.1 carries.2,
      List.append_assoc, List.cons_append, List.nil_append,
      List.isChain_cons_append_cons_cons, List.IsChain.singleton, and_true]
    constructor
    · rintro ⟨sinceTime, earlier, before, chain, inTime⟩
      exact ⟨inTime, sinceTime, earlier, before, chain⟩
    · rintro ⟨inTime, sinceTime, earlier, before, chain⟩
      exact ⟨sinceTime, earlier, before, chain, inTime⟩
  · simp only [signTimes_concat_of_not carries]
    exact Iff.rfl

theorem carried_concat_of_concerns (concerns : call.Concerns userId connId) :
    Carried ttlSec (history ++ [(call, time)]) now userId connId ↔
      call.IsSign ∧ now - time < ttlSec * 1000 := by
  constructor
  · rintro ⟨sinceTime, later, last, chain⟩
    rcases lastSign_concat_iff.mp last with
      ⟨rfl, rfl, sign, -⟩ | ⟨-, -, -, otherwise⟩
    · have inTime := List.isChain_pair.mp chain
      exact ⟨sign, inTime⟩
    · exact absurd concerns otherwise
  · rintro ⟨sign, inTime⟩
    exact ⟨time, [], lastSign_concat_iff.mpr (.inl ⟨rfl, rfl, sign, concerns⟩),
      List.isChain_pair.mpr inTime⟩

end Last

/-! ## The clock -/

section Clock

variable {ttlSec : Int} {history : History} {call : PresenceCall}
  {time now : Time} {userId connId : String}

theorem NonDecreasing.before
    (ordered : NonDecreasing (history ++ [(call, time)]) now) :
    NonDecreasing history time := by
  unfold NonDecreasing at ordered ⊢
  rw [List.map_append] at ordered
  exact (List.pairwise_append.mp ordered).1

theorem NonDecreasing.passed
    (ordered : NonDecreasing (history ++ [(call, time)]) now) :
    time ≤ now := by
  unfold NonDecreasing at ordered
  rw [List.map_append] at ordered
  exact (List.pairwise_append.mp ordered).2.2 time
    (List.mem_append_right _ (List.mem_singleton_self _)) now
    (List.mem_singleton_self _)

theorem NonDecreasing.skip
    (ordered : NonDecreasing (history ++ [(call, time)]) now) :
    NonDecreasing history now := by
  refine ordered.sublist ?_
  rw [List.map_append]
  exact (List.sublist_append_left _ _).append_right [now]

theorem LastSign.le (ordered : NonDecreasing history now) {later : History}
    (last : LastSign history userId connId time later) : time ≤ now := by
  rcases last with ⟨before, call, rfl, -⟩
  refine (List.pairwise_append.mp ordered).2.2 time ?_ now
    (List.mem_singleton_self _)
  exact List.mem_map_of_mem (List.mem_append_right _ List.mem_cons_self)

/-- A fresh connection has been fresh since its last sign of life. -/
theorem Fresh.before (ordered : NonDecreasing history time)
    (passed : time ≤ now) (fresh : Fresh ttlSec history now userId connId) :
    Fresh ttlSec history time userId connId ∧
      now - time < ttlSec * 1000 := by
  rcases fresh with ⟨sinceTime, later, last, inTime⟩
  constructor
  · exact ⟨sinceTime, later, last,
      Int.lt_of_le_of_lt (Int.sub_le_sub_right passed sinceTime) inTime⟩
  · exact Int.lt_of_le_of_lt (Int.sub_le_sub_left (last.le ordered) now) inTime

/-- A fresh connection is carried by its own last sign of life. -/
theorem Fresh.carried (ordered : NonDecreasing history now)
    (fresh : Fresh ttlSec history now userId connId) :
    Carried ttlSec history now userId connId := by
  induction history using List.reverseRecOn generalizing now with
  | nil =>
      rcases fresh with ⟨time, later, last, -⟩
      exact absurd last not_lastSign_nil
  | append_singleton history last induction =>
      rcases last with ⟨call, time⟩
      by_cases concerns : call.Concerns userId connId
      · rw [carried_concat_of_concerns concerns]
        exact (fresh_concat_of_concerns concerns).mp fresh
      · rw [carried_concat_of_not concerns]
        rw [fresh_concat_of_not concerns] at fresh
        split_ifs
        · obtain ⟨freshBefore, inTime⟩ :=
            fresh.before ordered.before ordered.passed
          exact ⟨inTime, induction ordered.before freshBefore⟩
        · exact induction ordered.skip fresh

end Clock

/-! ## The store along a history -/

section Store

variable {ttlSec : Int} {history : History} {now : Time}
  {userId connId : String}

theorem stored_concat (last : PresenceCall × Time) :
    stored ttlSec (history ++ [last]) =
      perform ttlSec (stored ttlSec history) last :=
  run_concat _ _ _ _

/-- The store has a field for what is carried, and for nothing else. -/
theorem marks_stored_iff (ordered : NonDecreasing history now) :
    Marks (stored ttlSec history) now userId connId ↔
      Carried ttlSec history now userId connId := by
  induction history using List.reverseRecOn generalizing now with
  | nil =>
      refine iff_of_false not_marks_empty ?_
      rintro ⟨time, later, last, -⟩
      exact not_lastSign_nil last
  | append_singleton history last induction =>
      rcases last with ⟨call, time⟩
      rw [stored_concat]
      by_cases same : call.userId = userId
      · subst same
        by_cases sign : call.IsSign
        · rw [marks_perform_sign sign ordered.passed,
            induction ordered.before]
          by_cases concerns : call.Concerns call.userId connId
          · rw [carried_concat_of_concerns concerns]
            simp [sign, concerns.2]
          · have other : connId ≠ call.connId :=
              fun equal => concerns ⟨rfl, equal.symm⟩
            rw [carried_concat_of_not concerns]
            simp [sign, other]
        · rw [marks_perform_offline sign ordered.passed,
            induction ordered.skip]
          by_cases concerns : call.Concerns call.userId connId
          · rw [carried_concat_of_concerns concerns]
            simp [sign, concerns.2]
          · have other : connId ≠ call.connId :=
              fun equal => concerns ⟨rfl, equal.symm⟩
            rw [carried_concat_of_not concerns]
            simp [sign, other]
      · have concerns : ¬ call.Concerns userId connId :=
          fun concerns => same concerns.1
        rw [marks_perform_of_ne same, carried_concat_of_not concerns,
          if_neg fun carries => same carries.2]
        exact induction ordered.skip

/-- The answers of the store are about what is carried. -/
theorem online_stored_iff (ordered : NonDecreasing history now) :
    Online (stored ttlSec history) now userId = true ↔
      ∃ connId, Carried ttlSec history now userId connId := by
  rw [online_iff]
  exact exists_congr fun connId => marks_stored_iff ordered

theorem onlineIfFresh_iff :
    OnlineIfFresh ttlSec history now userId ↔
      (Online (stored ttlSec history) now userId = true ↔
        ∃ connId, Fresh ttlSec history now userId connId) := by
  constructor
  · rintro ⟨online, answers, right⟩
    rw [run_isOnline] at answers
    cases answers
    exact right
  · intro right
    exact ⟨_, congrArg Prod.fst run_isOnline, right⟩

/-- A listing is right if the answers about its users are. -/
theorem listsFresh_iff {userIds : List String} :
    ListsFresh ttlSec history now userIds ↔
      ∀ userId ∈ userIds, OnlineIfFresh ttlSec history now userId := by
  simp only [onlineIfFresh_iff]
  constructor
  · rintro ⟨fresh, right, answers⟩ userId member
    rw [run_listOnline] at answers
    have listed := congrArg (userId ∈ ·) (Except.ok.inj answers)
    simp only [List.mem_filter, member, true_and, eq_iff_iff] at listed
    exact listed.trans (right userId member)
  · intro right
    exact ⟨_, right, congrArg Prod.fst (run_listOnline userIds)⟩

/-- The answer about a user is right unless the user lingers. -/
theorem onlineIfFresh_iff_not_lingers (ordered : NonDecreasing history now) :
    OnlineIfFresh ttlSec history now userId ↔
      ¬ Lingers ttlSec history now userId := by
  rw [onlineIfFresh_iff, online_stored_iff ordered]
  unfold Lingers
  rw [← not_exists, not_and_not_right]
  constructor
  · exact fun right => right.mp
  · intro right
    refine ⟨right, ?_⟩
    rintro ⟨connId, fresh⟩
    exact ⟨connId, fresh.carried ordered⟩

end Store

/--
At any time after any history a user is online if and only if one of its
connections has given a sign of life within the time to live, and just such
users are listed, exactly when no connection that is not fresh is carried along
by the signs of others while none is fresh.
-/
theorem presence_iff (ttlSec : Int) (history : History) (now : Time)
    (ordered : NonDecreasing history now) :
    (∀ userId, OnlineIfFresh ttlSec history now userId ↔
        ¬ Lingers ttlSec history now userId) ∧
      ∀ userIds, ListsFresh ttlSec history now userIds ↔
        ∀ userId ∈ userIds, ¬ Lingers ttlSec history now userId := by
  constructor
  · exact fun userId => onlineIfFresh_iff_not_lingers ordered
  · intro userIds
    rw [listsFresh_iff]
    exact forall₂_congr fun userId _ => onlineIfFresh_iff_not_lingers ordered

/--
A closing connection has its user announced as offline exactly when it was
carried and no other connection is, fresh or not.
-/
theorem markUserOffline_publishes_iff {ttlSec : Int} {history : History}
    {now : Time} (ordered : NonDecreasing history now)
    (userId connId : String) :
    ((MarkUserOffline.execute now userId connId).run presenceAdapter now
        (stored ttlSec history)).2.published =
      (stored ttlSec history).published ++
        [(.presenceGlobal, .presenceOffline userId now)] ↔
    Carried ttlSec history now userId connId ∧
      ∀ other, Carried ttlSec history now userId other → other = connId := by
  simp only [← marks_stored_iff ordered]
  exact publishes_markUserOffline_iff

/-! ## A connection that vanishes -/

/--
Ana's phone vanishes after its first sign of life; her laptop goes on for 100
seconds and is then closed.
-/
def vanishing : History :=
  [(.markOnline "ana" "phone", 0), (.markOnline "ana" "laptop", 0),
    (.heartbeat "ana" "laptop", 50000), (.heartbeat "ana" "laptop", 100000),
    (.markOffline "ana" "laptop", 110000)]

theorem presence_iff_vanishing :
    (∀ userId, OnlineIfFresh 60 vanishing 120000 userId ↔
        ¬ Lingers 60 vanishing 120000 userId) ∧
      ∀ userIds, ListsFresh 60 vanishing 120000 userIds ↔
        ∀ userId ∈ userIds, ¬ Lingers 60 vanishing 120000 userId :=
  presence_iff 60 vanishing 120000 (by decide)

theorem not_fresh_vanishing (connId : String) :
    ¬ Fresh 60 vanishing 120000 "ana" connId := by
  rintro ⟨time, later, ⟨before, call, split, sign, concerns, others⟩, inTime⟩
  unfold vanishing at split
  rcases before with
    _ | ⟨_, _ | ⟨_, _ | ⟨_, _ | ⟨_, _ | ⟨_, before⟩⟩⟩⟩⟩
  · cases split
    exact absurd inTime (by decide)
  · cases split
    exact absurd inTime (by decide)
  · cases split
    exact absurd inTime (by decide)
  · cases split
    exact others _ (List.mem_singleton_self _) concerns
  · cases split
    exact sign
  · cases before <;> cases split

/-- Ten seconds later her phone, silent for two minutes, keeps her online. -/
theorem vanished_connection_keeps_user_online :
    NonDecreasing vanishing 120000 ∧
      ¬ OnlineIfFresh 60 vanishing 120000 "ana" ∧
      ¬ ListsFresh 60 vanishing 120000 ["ana"] := by
  have online : Online (stored 60 vanishing) 120000 "ana" = true := by decide
  have wrong : ¬ OnlineIfFresh 60 vanishing 120000 "ana" := by
    rw [onlineIfFresh_iff]
    intro right
    rcases right.mp online with ⟨connId, fresh⟩
    exact not_fresh_vanishing connId fresh
  refine ⟨by decide, wrong, ?_⟩
  rw [listsFresh_iff]
  exact fun right => wrong (right "ana" (List.mem_singleton_self _))

end ChatBackend.Ws.RecentSigns
