import Mathlib.Logic.Function.Basic
import Mathlib.Order.Lattice

/-!
# Values that expire

A store of values under keys.  A value may have a moment from which on it is
gone; until then it can be read, replaced and deleted.  Reading leaves the store
as it is, so what has expired stays in place until it is overwritten.
-/

namespace Collections

/-- A value and the moment from which on it is gone, if there is one. -/
structure Perishable (Value Moment : Type*) where
  value : Value
  expiresAt : Option Moment
deriving DecidableEq

/-- A store of values that expire. -/
structure Expiring (Key Value Moment : Type*) where
  entries : Key → Option (Perishable Value Moment)

variable {Key Value Moment : Type*}

namespace Expiring

/-- A store without values. -/
def empty : Expiring Key Value Moment where
  entries _ := none

section Writing

variable [DecidableEq Key] (store : Expiring Key Value Moment)
  (key other : Key)

/-- Put an entry under a key, whatever was there. -/
def put (entry : Perishable Value Moment) : Expiring Key Value Moment where
  entries := Function.update store.entries key (some entry)

/-- Delete a key. -/
def delete : Expiring Key Value Moment where
  entries := Function.update store.entries key none

theorem entries_put (entry : Perishable Value Moment) :
    (store.put key entry).entries other =
      if other = key then some entry else store.entries other :=
  Function.update_apply _ _ _ _

theorem entries_delete :
    (store.delete key).entries other =
      if other = key then none else store.entries other :=
  Function.update_apply _ _ _ _

end Writing

end Expiring

variable [LinearOrder Moment]

/-- The value has not expired. -/
def Perishable.Alive (entry : Perishable Value Moment) (now : Moment) : Prop :=
  ∀ moment ∈ entry.expiresAt, now < moment

instance (entry : Perishable Value Moment) (now : Moment) :
    Decidable (entry.Alive now) :=
  inferInstanceAs (Decidable (∀ moment ∈ entry.expiresAt, now < moment))

namespace Expiring

variable (store : Expiring Key Value Moment) (now : Moment) (key : Key)

/-- The entry under a key, unless it has expired. -/
def live : Option (Perishable Value Moment) :=
  (store.entries key).filter fun entry => decide (entry.Alive now)

/-- The value under a key, unless it has expired. -/
def get : Option Value :=
  (store.live now key).map Perishable.value

variable {store now key}

theorem live_eq_some_iff {entry : Perishable Value Moment} :
    store.live now key = some entry ↔
      store.entries key = some entry ∧ entry.Alive now := by
  rw [live, Option.filter_eq_some_iff, decide_eq_true_eq]

theorem live_eq_none_iff :
    store.live now key = none ↔
      ∀ entry, store.entries key = some entry → ¬ entry.Alive now := by
  simp only [live, Option.filter_eq_none_iff, decide_eq_true_eq]

/-- What has expired stays expired. -/
theorem live_eq_none_of_le {later : Moment}
    (gone : store.live now key = none) (passed : now ≤ later) :
    store.live later key = none := by
  rw [live_eq_none_iff] at gone ⊢
  intro entry stored alive
  refine gone entry stored fun moment expires => ?_
  exact lt_of_le_of_lt passed (alive moment expires)

theorem get_eq_some_iff {value : Value} :
    store.get now key = some value ↔
      ∃ entry, store.entries key = some entry ∧ entry.Alive now ∧
        entry.value = value := by
  unfold get live
  simp [and_assoc]

variable [DecidableEq Key] {other : Key}

theorem live_put {entry : Perishable Value Moment} :
    (store.put key entry).live now other =
      if other = key then (some entry).filter fun entry => entry.Alive now
      else store.live now other := by
  unfold live
  rw [entries_put]
  split_ifs <;> rfl

theorem live_delete :
    (store.delete key).live now other =
      if other = key then none else store.live now other := by
  unfold live
  rw [entries_delete]
  split_ifs <;> rfl

end Expiring

end Collections
