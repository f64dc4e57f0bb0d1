import ChatBackend.Collections.Expiring
import ChatBackend.Collections.Ordered

/-!
# Rankings that expire as a whole

A store of rankings, which give each of their members a score.  A ranking may
have a moment from which on it is gone; adding a member leaves that moment as
it is, and a ranking that is made so does not expire.  A ranking without
members is deleted.
-/

namespace Collections

/-- A store of rankings that expire. -/
abbrev ExpiringRankings (Key Member Score Moment : Type*) :=
  Expiring Key (OrderedMap Member Score) Moment

namespace ExpiringRankings

variable {Key Member Score Moment : Type*} [LinearOrder Moment]

/-- The members of a ranking and their scores, in the order of their arrival. -/
def contents (rankings : ExpiringRankings Key Member Score Moment)
    (now : Moment) (key : Key) : List (Member × Score) :=
  match rankings.live now key with
  | some ranking => ranking.value.entries
  | none => []

section Operations

variable [DecidableEq Key]
  (rankings : ExpiringRankings Key Member Score Moment) (now : Moment)
  (key : Key)

/-- Give a member a score. -/
def zadd [DecidableEq Member] (member : Member) (score : Score) :
    ExpiringRankings Key Member Score Moment :=
  match rankings.live now key with
  | some ranking =>
      rankings.put key
        { ranking with value := ranking.value.set member score }
  | none =>
      rankings.put key
        { value := (∅ : OrderedMap Member Score).set member score
          expiresAt := none }

/-- Remove the members whose score is at most the highest one given. -/
def zremrangebyscore [LinearOrder Score] (highest : Score) :
    ExpiringRankings Key Member Score Moment :=
  match rankings.live now key with
  | some ranking =>
      let kept := ranking.value.keep fun entry => highest < entry.2
      if kept.size = 0 then rankings.delete key
      else rankings.put key { ranking with value := kept }
  | none => rankings

/-- The number of members. -/
def zcard : Nat :=
  (rankings.contents now key).length

/-- Let a ranking expire at a moment, at once if the moment has passed. -/
def expireAt (moment : Moment) :
    ExpiringRankings Key Member Score Moment :=
  match rankings.live now key with
  | some ranking =>
      if moment ≤ now then rankings.delete key
      else rankings.put key { ranking with expiresAt := some moment }
  | none => rankings

end Operations

section Contents

variable {rankings : ExpiringRankings Key Member Score Moment}
  {now later moment : Moment} {key other : Key} {member : Member}
  {score highest : Score}

theorem contents_of_live {ranking : Perishable (OrderedMap Member Score) Moment}
    (live : rankings.live now key = some ranking) :
    rankings.contents now key = ranking.value.entries := by
  rw [contents, live]

/-- What is gone now is gone later. -/
theorem contents_of_gone (gone : rankings.live now key = none)
    (passed : now ≤ later) : rankings.contents later key = [] := by
  rw [contents, Expiring.live_eq_none_of_le gone passed]

variable [DecidableEq Key]

theorem contents_put_of_ne
    {ranking : Perishable (OrderedMap Member Score) Moment}
    (elsewhere : other ≠ key) :
    contents (Expiring.put rankings key ranking) now other =
      rankings.contents now other := by
  rw [contents, Expiring.live_put, if_neg elsewhere]
  rfl

theorem contents_delete_of_ne (elsewhere : other ≠ key) :
    contents (Expiring.delete rankings key) now other =
      rankings.contents now other := by
  rw [contents, Expiring.live_delete, if_neg elsewhere]
  rfl

theorem contents_put {ranking : Perishable (OrderedMap Member Score) Moment} :
    contents (Expiring.put rankings key ranking) now key =
      if ranking.Alive now then ranking.value.entries else [] := by
  rw [contents, Expiring.live_put, if_pos rfl, Option.filter_some]
  by_cases alive : ranking.Alive now
  · rw [if_pos (decide_eq_true alive), if_pos alive]
  · rw [if_neg (by simpa using alive), if_neg alive]

theorem contents_delete :
    contents (Expiring.delete rankings key) now key = [] := by
  rw [contents, Expiring.live_delete, if_pos rfl]

/-! ### Removing -/

theorem contents_zremrangebyscore [LinearOrder Score] :
    (rankings.zremrangebyscore now key highest).contents now key =
      (rankings.contents now key).filter
        fun entry => decide (highest < entry.2) := by
  unfold zremrangebyscore
  cases live : rankings.live now key with
  | none =>
      dsimp only
      rw [contents_of_gone live le_rfl]
      rfl
  | some ranking =>
      have alive := (Expiring.live_eq_some_iff.mp live).2
      rw [contents_of_live live]
      dsimp only
      split_ifs with empty
      · rw [contents_delete]
        exact (List.eq_nil_of_length_eq_zero empty).symm
      · rw [contents_put]
        exact if_pos alive

theorem contents_zremrangebyscore_of_ne [LinearOrder Score]
    (elsewhere : other ≠ key) :
    (rankings.zremrangebyscore now key highest).contents later other =
      rankings.contents later other := by
  unfold zremrangebyscore
  cases rankings.live now key with
  | none => rfl
  | some ranking =>
      dsimp only
      split_ifs
      · exact contents_delete_of_ne elsewhere
      · exact contents_put_of_ne elsewhere

/-! ### Adding -/

/-- A new member comes last. -/
theorem contents_zadd [DecidableEq Member]
    (absent : member ∉ (rankings.contents now key).map Prod.fst) :
    (rankings.zadd now key member score).contents now key =
      rankings.contents now key ++ [(member, score)] := by
  unfold zadd
  cases live : rankings.live now key with
  | none =>
      rw [contents_of_gone live le_rfl]
      dsimp only
      rw [contents_put]
      exact if_pos nofun
  | some ranking =>
      have alive := (Expiring.live_eq_some_iff.mp live).2
      rw [contents_of_live live] at absent ⊢
      dsimp only
      rw [contents_put, ← OrderedMap.entries_set_of_not_mem absent]
      exact if_pos alive

/-- Besides the added member there is nothing that was not there. -/
theorem mem_contents_zadd [DecidableEq Member] {entry : Member × Score}
    (present : entry ∈ (rankings.zadd now key member score).contents now key) :
    entry = (member, score) ∨ entry ∈ rankings.contents now key := by
  unfold zadd at present
  cases live : rankings.live now key with
  | none =>
      rw [live] at present
      dsimp only at present
      rw [contents_put, if_pos (by nofun)] at present
      exact .inl (List.mem_singleton.mp present)
  | some ranking =>
      rw [live] at present
      dsimp only at present
      rw [contents_put] at present
      rw [contents_of_live live]
      split_ifs at present
      · exact OrderedMap.mem_entries_set present
      · cases present

theorem contents_zadd_of_ne [DecidableEq Member] (elsewhere : other ≠ key) :
    (rankings.zadd now key member score).contents later other =
      rankings.contents later other := by
  unfold zadd
  cases rankings.live now key with
  | none => exact contents_put_of_ne elsewhere
  | some ranking => exact contents_put_of_ne elsewhere

/-! ### Expiring -/

/-- A ranking stays as it is until it expires. -/
theorem contents_expireAt (passed : now ≤ later) :
    (rankings.expireAt now key moment).contents later key =
      if later < moment then rankings.contents now key else [] := by
  unfold expireAt
  cases live : rankings.live now key with
  | none =>
      dsimp only
      rw [contents_of_gone live passed, contents_of_gone live le_rfl, ite_self]
  | some ranking =>
      rw [contents_of_live live]
      dsimp only
      split_ifs with past early early
      · exact absurd (lt_of_lt_of_le early (past.trans passed)) (lt_irrefl _)
      · exact contents_delete
      · rw [contents_put]
        exact if_pos fun _ expires => Option.some.inj expires ▸ early
      · rw [contents_put]
        exact if_neg fun alive => early (alive moment rfl)

theorem contents_expireAt_of_ne (elsewhere : other ≠ key) :
    (rankings.expireAt now key moment).contents later other =
      rankings.contents later other := by
  unfold expireAt
  cases rankings.live now key with
  | none => rfl
  | some ranking =>
      dsimp only
      split_ifs
      · exact contents_delete_of_ne elsewhere
      · exact contents_put_of_ne elsewhere

end Contents

end ExpiringRankings

end Collections
