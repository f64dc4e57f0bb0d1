import ChatBackend.Collections.Expiring
import ChatBackend.Collections.Ordered

/-!
# Hashes that expire as a whole

A store of hashes, each of which may have a moment from which on all of its
fields are gone.  Setting a field leaves the expiry of its hash as it is; a hash
that is made so does not expire.  A hash without fields is deleted.
-/

namespace Collections

/-- A store of hashes that expire. -/
abbrev ExpiringHashes (Key Field Value Moment : Type*) :=
  Expiring Key (OrderedMap Field Value) Moment

namespace ExpiringHashes

variable {Key Field Value Moment : Type*} [DecidableEq Field]
  [LinearOrder Moment]

section Operations

variable (hashes : ExpiringHashes Key Field Value Moment) (now : Moment)
  (key : Key) (field : Field)

/-- The value of a field. -/
def hget : Option Value :=
  (hashes.live now key).bind fun hash => hash.value.get field

/-- The number of fields. -/
def hlen : Nat :=
  match hashes.live now key with
  | some hash => hash.value.size
  | none => 0

variable [DecidableEq Key]

def hset (value : Value) : ExpiringHashes Key Field Value Moment :=
  match hashes.live now key with
  | some hash =>
      hashes.put key { hash with value := hash.value.set field value }
  | none =>
      hashes.put key
        { value := (∅ : OrderedMap Field Value).set field value
          expiresAt := none }

/-- Delete a field, and its hash with the last one. -/
def hdel : ExpiringHashes Key Field Value Moment :=
  match hashes.live now key with
  | some hash =>
      if (hash.value.delete field).size = 0 then hashes.delete key
      else hashes.put key { hash with value := hash.value.delete field }
  | none => hashes

/-- Let a hash expire at a moment, at once if the moment has passed. -/
def expire (moment : Moment) : ExpiringHashes Key Field Value Moment :=
  match hashes.live now key with
  | some hash =>
      if moment ≤ now then hashes.delete key
      else hashes.put key { hash with expiresAt := some moment }
  | none => hashes

end Operations

section Fields

variable {hashes : ExpiringHashes Key Field Value Moment}
  {now later moment : Moment} {key otherKey : Key} {field other : Field}
  {value : Value}

/-- A hash has a length if it has a field. -/
theorem hlen_pos_iff :
    0 < hashes.hlen now key ↔ ∃ field, (hashes.hget now key field).isSome := by
  unfold hlen hget
  cases hashes.live now key with
  | none => simp
  | some hash =>
      rw [Nat.pos_iff_ne_zero]
      dsimp only
      rw [ne_eq, OrderedMap.size_eq_zero_iff]
      push Not
      simp only [Option.bind_some, ne_eq, Option.isSome_iff_ne_none]

/-- The fields of a stored hash are there until it expires. -/
theorem hget_of_stored {hash : Perishable (OrderedMap Field Value) Moment}
    (stored : hashes.entries key = some hash) :
    hashes.hget now key field =
      if hash.Alive now then hash.value.get field else none := by
  unfold hget Expiring.live
  rw [stored, Option.filter_some]
  by_cases alive : hash.Alive now
  · rw [if_pos (decide_eq_true alive), if_pos alive]
    rfl
  · rw [if_neg (by simpa using alive), if_neg alive]
    rfl

/-- Fields that are not there now are not there later. -/
theorem hget_of_dead (gone : hashes.live now key = none)
    (passed : now ≤ later) : hashes.hget later key field = none := by
  rw [hget, Expiring.live_eq_none_of_le gone passed]
  rfl

variable [DecidableEq Key]

theorem hget_put {hash : Perishable (OrderedMap Field Value) Moment} :
    hget (Expiring.put hashes key hash) now key field =
      if hash.Alive now then hash.value.get field else none :=
  hget_of_stored ((Expiring.entries_put _ _ _ _).trans (if_pos rfl))

theorem hget_delete :
    hget (Expiring.delete hashes key) now key field = none := by
  rw [hget, Expiring.live_delete, if_pos rfl]
  rfl

/-- Setting a field leaves a hash that has not expired. -/
theorem exists_live_hset :
    ∃ hash, (hashes.hset now key field value).live now key = some hash ∧
      ∀ other, hash.value.get other =
        if other = field then some value else hashes.hget now key other := by
  unfold hset hget
  cases found : hashes.live now key with
  | none =>
      refine ⟨_, (Expiring.live_put.trans (if_pos rfl)).trans
        (Option.filter_some_pos (decide_eq_true nofun)), ?_⟩
      intro other
      rw [OrderedMap.get_set]
      rfl
  | some hash =>
      have alive : hash.Alive now := (Expiring.live_eq_some_iff.mp found).2
      refine ⟨_, (Expiring.live_put.trans (if_pos rfl)).trans
        (Option.filter_some_pos (decide_eq_true alive)), ?_⟩
      intro other
      rw [OrderedMap.get_set]
      rfl

/-- A field is set in a hash, and the hash is given an expiry. -/
theorem hget_expire_hset (passed : now ≤ later) :
    ((hashes.hset now key field value).expire now key moment).hget later key
        other =
      if later < moment then
        if other = field then some value else hashes.hget now key other
      else none := by
  rcases @exists_live_hset _ _ _ _ _ _ hashes now key field value _ with
    ⟨hash, live, fields⟩
  unfold expire
  rw [live]
  dsimp only
  by_cases gone : moment ≤ now
  · rw [if_pos gone, hget_delete,
      if_neg (not_lt_of_ge (le_trans gone passed))]
  · have alive : Perishable.Alive
        { hash with expiresAt := some moment } later ↔ later < moment := by
      simp [Perishable.Alive]
    rw [if_neg gone, hget_put]
    simp only [alive, fields]

/-! The operations on one hash leave the others alone. -/

theorem hget_hset_of_ne (elsewhere : otherKey ≠ key) :
    (hashes.hset now key field value).hget later otherKey other =
      hashes.hget later otherKey other := by
  unfold hget
  congr 1
  unfold hset
  split
  all_goals rw [Expiring.live_put, if_neg elsewhere]

theorem hget_expire_of_ne (elsewhere : otherKey ≠ key) :
    (hashes.expire now key moment).hget later otherKey other =
      hashes.hget later otherKey other := by
  unfold hget
  congr 1
  unfold expire
  split
  · split_ifs
    · rw [Expiring.live_delete, if_neg elsewhere]
    · rw [Expiring.live_put, if_neg elsewhere]
  · rfl

theorem hget_hdel_of_ne (elsewhere : otherKey ≠ key) :
    (hashes.hdel now key field).hget later otherKey other =
      hashes.hget later otherKey other := by
  unfold hget
  congr 1
  unfold hdel
  split
  · split_ifs
    · rw [Expiring.live_delete, if_neg elsewhere]
    · rw [Expiring.live_put, if_neg elsewhere]
  · rfl

/-- Only the deleted field is missing. -/
theorem hget_hdel (passed : now ≤ later) :
    (hashes.hdel now key field).hget later key other =
      if other = field then none else hashes.hget later key other := by
  unfold hdel
  cases found : hashes.live now key with
  | none =>
      dsimp only
      rw [hget_of_dead found passed, ite_self]
  | some hash =>
      rw [hget_of_stored (Expiring.live_eq_some_iff.mp found).1]
      dsimp only
      by_cases empty : (hash.value.delete field).size = 0
      · rw [if_pos empty, hget_delete]
        have absent := OrderedMap.size_eq_zero_iff.mp empty other
        rw [OrderedMap.get_delete] at absent
        split_ifs at absent ⊢ with same alive
        · rfl
        · exact absent.symm
        · rfl
      · rw [if_neg empty, hget_put, OrderedMap.get_delete]
        change (if hash.Alive later then _ else _) = _
        by_cases alive : hash.Alive later
        · rw [if_pos alive, if_pos alive]
        · rw [if_neg alive, if_neg alive, ite_self]

/-! ### Stored hashes -/

theorem entries_hset_of_ne (elsewhere : otherKey ≠ key) :
    (hashes.hset now key field value).entries otherKey =
      hashes.entries otherKey := by
  unfold hset
  split
  all_goals rw [Expiring.entries_put, if_neg elsewhere]

omit [DecidableEq Field] in
theorem entries_expire_of_ne (elsewhere : otherKey ≠ key) :
    (hashes.expire now key moment).entries otherKey =
      hashes.entries otherKey := by
  unfold expire
  split
  · split_ifs
    · rw [Expiring.entries_delete, if_neg elsewhere]
    · rw [Expiring.entries_put, if_neg elsewhere]
  · rfl

theorem entries_hdel_of_ne (elsewhere : otherKey ≠ key) :
    (hashes.hdel now key field).entries otherKey =
      hashes.entries otherKey := by
  unfold hdel
  split
  · split_ifs
    · rw [Expiring.entries_delete, if_neg elsewhere]
    · rw [Expiring.entries_put, if_neg elsewhere]
  · rfl

/-- A hash that has just been renewed has not expired. -/
theorem alive_expire_hset (early : now < moment) :
    ∀ hash ∈ ((hashes.hset now key field value).expire now key
      moment).entries key, hash.Alive now := by
  rcases @exists_live_hset _ _ _ _ _ _ hashes now key field value _ with
    ⟨hash, live, -⟩
  unfold expire
  rw [live]
  dsimp only
  rw [if_neg (not_le_of_gt early), Expiring.entries_put, if_pos rfl]
  intro renewed stored
  cases Option.mem_some_iff.mp stored
  exact fun _ expires => Option.some.inj expires ▸ early

/-- Deleting a field leaves the expiry of its hash. -/
theorem alive_hdel (alive : ∀ hash ∈ hashes.entries key, hash.Alive now) :
    ∀ hash ∈ (hashes.hdel now key field).entries key, hash.Alive now := by
  unfold hdel
  cases found : hashes.live now key with
  | none => exact alive
  | some hash =>
      dsimp only
      split_ifs
      · rw [Expiring.entries_delete, if_pos rfl]
        nofun
      · rw [Expiring.entries_put, if_pos rfl]
        intro shortened stored
        cases Option.mem_some_iff.mp stored
        exact (Expiring.live_eq_some_iff.mp found).2

end Fields

end ExpiringHashes

end Collections
