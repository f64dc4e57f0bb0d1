import ChatBackend.Domain
import ChatBackend.Effects.Program
import ChatBackend.Relational.Table

/-!
# The table of users

The accounts and the directory of the chat share the users: the rows, what the
outside sees of one, and the update of one, which the profile goes through.
-/

namespace ChatBackend

open Effects
open Relational

/-- A row of the `users` table. -/
structure User where
  id : String
  email : String
  passwordHash : String
  displayName : String
  avatarUrl : Option String
  emailVerifiedAt : Option Time
  createdAt : Time
  updatedAt : Time
deriving DecidableEq, Repr

/-- A user as others may see it. -/
structure PublicUser where
  id : String
  email : String
  displayName : String
  avatarUrl : Option String
  emailVerifiedAt : Option Time
deriving DecidableEq, Repr

def toPublicUser (user : User) : PublicUser where
  id := user.id
  email := user.email
  displayName := user.displayName
  avatarUrl := user.avatarUrl
  emailVerifiedAt := user.emailVerifiedAt

/-! ## Updates -/

/-- The fields of a user that an update may set; an absent field is kept. -/
structure UserPatch where
  displayName : Option String := none
  avatarUrl : Option (Option String) := none
  emailVerifiedAt : Option (Option Time) := none
  passwordHash : Option String := none
deriving DecidableEq, Repr

/--
The texts of a patch that come from requests; a hash of a password never has a
letter U+0000.
-/
def UserPatch.texts (patch : UserPatch) : List (Option String) :=
  [patch.displayName, patch.avatarUrl.join]

/-- A patch that keeps the profile has no texts. -/
theorem UserPatch.storable_of_kept {patch : UserPatch}
    (name : patch.displayName = none) (url : patch.avatarUrl = none) :
    Storable patch.texts := by
  simp [texts, Storable, name, url]

namespace PgUserRepository

/-- `UPDATE users SET ..., updated_at = now()` -/
def patchUser (now : Time) (patch : UserPatch) (user : User) : User :=
  { user with
    displayName := patch.displayName.getD user.displayName
    avatarUrl := patch.avatarUrl.getD user.avatarUrl
    emailVerifiedAt := patch.emailVerifiedAt.getD user.emailVerifiedAt
    passwordHash := patch.passwordHash.getD user.passwordHash
    updatedAt := now }

@[simp]
theorem patchUser_id (now : Time) (patch : UserPatch) (user : User) :
    (patchUser now patch user).id = user.id := rfl

/-- `update`, on the rows of the table. -/
def update (id : String) (patch : UserPatch) (now : Time)
    (rows : List User) : Except Failure (User × List User) := do
  requireStorable patch.texts
  match first (fun row => row.id = id) rows with
  -- `mapRow(row!)` of an update that returned no row
  | none => .error .typeError
  | some user =>
      return (patchUser now patch user,
        updateWhere (fun row => row.id = id) (patchUser now patch) rows)

/-- An update that succeeds patches the row of its id. -/
theorem update_eq_ok_iff {id : String} {patch : UserPatch} {now : Time}
    {rows after : List User} {answer : User} :
    update id patch now rows = .ok (answer, after) ↔
      Storable patch.texts ∧
        ∃ user, first (fun row => row.id = id) rows = some user ∧
          patchUser now patch user = answer ∧
            updateWhere (fun row => row.id = id) (patchUser now patch) rows =
              after := by
  unfold update
  simp only [bind_eq_ok_iff, requireStorable_eq_ok_iff, exists_const]
  refine and_congr_right fun _ => ?_
  cases first (fun row => row.id = id) rows with
  | none => simp
  | some user => simp [pure, Except.pure]

theorem update_missing {id : String} {patch : UserPatch} {rows : List User}
    (stores : Storable patch.texts)
    (missing : first (fun row => row.id = id) rows = none) (now : Time) :
    update id patch now rows = .error .typeError := by
  unfold update
  rw [requireStorable_ok stores, missing]
  rfl

theorem update_refused {patch : UserPatch} (refused : ¬ Storable patch.texts)
    (id : String) (now : Time) (rows : List User) :
    update id patch now rows =
      .error (.databaseError .characterNotInRepertoire) := by
  unfold update
  rw [requireStorable_refused refused]
  rfl

end PgUserRepository

/-! ## `UpdateProfile` -/

namespace UpdateProfile

/-- What a request may set of a profile; an absent field is kept. -/
structure Input where
  displayName : Option String := none
  avatarUrl : Option (Option String) := none
deriving DecidableEq, Repr

def Input.patch (input : Input) : UserPatch where
  displayName := input.displayName
  avatarUrl := input.avatarUrl

/-- `execute`, over any port that has the update of a user. -/
def execute {port : Port}
    (update : String → UserPatch → Program port Failure User)
    (userId : String) (input : Input) : Program port Failure PublicUser := do
  let user ← update userId input.patch
  return toPublicUser user

end UpdateProfile

end ChatBackend
