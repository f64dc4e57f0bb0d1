import ChatBackend.Auth.Sessions
import ChatBackend.Transition.Runs

/-!
# The ledger of sessions

What refresh tokens are for, without a table.  A family of tokens is the
session of one login; the ledger keeps for it the user, the current raw token,
that token's expiry and whether the family is alive.  A raw token belongs to the
family it was issued for; this is the only thing recorded about a token that is
no longer current.

The ledger answers the calls of `Sessions` and is the specification the
`refresh_tokens` table is compared with.
-/

namespace ChatBackend.Auth.SessionLedger

open ChatBackend.Auth.TokenStore
open ChatBackend.Auth.Sessions

/-- What is known about a session. -/
structure Family where
  user : String
  current : String
  expiresAt : Time
  alive : Bool

/-- The sessions, and the family each raw token was issued for. -/
structure Ledger where
  families : String → Option Family
  issuedTo : String → Option String

namespace Ledger

def empty : Ledger where
  families := fun _ => none
  issuedTo := fun _ => none

/-- The family a raw token belongs to. -/
def familyOf (ledger : Ledger) (raw : String) : Option (String × Family) :=
  (ledger.issuedTo raw).bind fun id =>
    (ledger.families id).map fun family => (id, family)

/-- Make the family's current token the one it names. -/
def issue (ledger : Ledger) (id : String) (family : Family) : Ledger where
  families := Function.update ledger.families id (some family)
  issuedTo := Function.update ledger.issuedTo family.current (some id)

@[simp]
theorem issue_families_self (ledger : Ledger) (id : String)
    (family : Family) :
    (ledger.issue id family).families id = some family := by
  simp [issue]

theorem issue_families_of_ne {ledger : Ledger} {id other : String}
    {family : Family} (distinct : other ≠ id) :
    (ledger.issue id family).families other = ledger.families other := by
  simp [issue, distinct]

@[simp]
theorem issue_issuedTo_current (ledger : Ledger) (id : String)
    (family : Family) :
    (ledger.issue id family).issuedTo family.current = some id := by
  simp [issue]

theorem issue_issuedTo_of_ne {ledger : Ledger} {id raw : String}
    {family : Family} (distinct : raw ≠ family.current) :
    (ledger.issue id family).issuedTo raw = ledger.issuedTo raw := by
  simp [issue, distinct]

def kill (ledger : Ledger) (id : String) : Ledger :=
  { ledger with
    families :=
      Function.update ledger.families id
        ((ledger.families id).map fun family =>
          { family with alive := false }) }

def killUser (ledger : Ledger) (user : String) : Ledger :=
  { ledger with
    families := fun id =>
      (ledger.families id).map fun family =>
        if family.user = user then { family with alive := false }
        else family }

/-- The pair handed out for a session of the user. -/
def session (deps : SessionDeps) (draws : SessionDraws) (user : String)
    (now : Time) : Session where
  accessToken := deps.signJwt { sub := user, jti := draws.jti } now
  refreshToken := draws.raw

/-- The answer to a refresh. -/
def refresh (deps : SessionDeps) (ledger : Ledger) (draws : SessionDraws)
    (raw : String) (now : Time) :
    Except Failure (Option Session) × Ledger :=
  match ledger.familyOf raw with
  | none => (.error (.authError "Invalid refresh token"), ledger)
  | some (id, family) =>
      if family.current = raw then
        if family.alive then
          if family.expiresAt < draws.now then
            (.error (.authError "Refresh token expired"), ledger)
          else
            (.ok (some (session deps draws family.user now)),
              ledger.issue id
                { family with
                  current := draws.raw
                  expiresAt := deps.expiry draws.now })
        else (.error (.authError "Invalid refresh token"), ledger)
      else (.error (.authError "Invalid refresh token"), ledger.kill id)

/-- The answer to a logout. -/
def revoke (ledger : Ledger) (raw : String) : Ledger :=
  match ledger.familyOf raw with
  | none => ledger
  | some (id, family) =>
      if family.current = raw then ledger.kill id else ledger

/-- The ledger's answer to a call, the server's clock being at `now`. -/
def step (deps : SessionDeps) (ledger : Ledger) :
    SessionCall × Time → Except Failure (Option Session) × Ledger
  | (.createSession draws user _, now) =>
      (.ok (some (session deps draws user now)),
        ledger.issue draws.familyId
          { user
            current := draws.raw
            expiresAt := deps.expiry draws.now
            alive := true })
  | (.refresh draws raw _, now) => ledger.refresh deps draws raw now
  | (.revoke raw, _) => (.ok none, ledger.revoke raw)
  | (.revokeAllForUser user, _) => (.ok none, ledger.killUser user)

def machine (deps : SessionDeps) :
    Transition.Machine Ledger (SessionCall × Time)
      (Except Failure (Option Session)) where
  step := step deps

/-! ## Alive flags -/

/-- Change the alive flags and nothing else. -/
def setAlive (ledger : Ledger) (alive : String → Family → Bool) : Ledger :=
  { ledger with
    families := fun id =>
      (ledger.families id).map fun family =>
        { family with alive := alive id family } }

theorem kill_eq_setAlive (ledger : Ledger) (id : String) :
    ledger.kill id =
      ledger.setAlive fun other family =>
        if other = id then false else family.alive := by
  simp only [kill, setAlive, Ledger.mk.injEq, and_true]
  funext other
  by_cases same : other = id
  · subst same
    simp
  · simp [same]

theorem killUser_eq_setAlive (ledger : Ledger) (user : String) :
    ledger.killUser user =
      ledger.setAlive fun _ family =>
        if family.user = user then false else family.alive := by
  simp only [killUser, setAlive, Ledger.mk.injEq, and_true]
  funext other
  congr 1
  funext family
  by_cases same : family.user = user <;> simp [same]

/-- A kill that changes nothing hit a family that was not alive. -/
theorem alive_eq_false_of_kill_eq {ledger : Ledger} {id : String}
    {family : Family} (known : ledger.families id = some family)
    (idle : ledger.kill id = ledger) : family.alive = false := by
  have killed : (ledger.kill id).families id = some family := by
    rw [idle, known]
  simp only [kill, known, Option.map_some, Function.update_self,
    Option.some.injEq] at killed
  exact (congrArg Family.alive killed).symm

theorem kill_eq_self {ledger : Ledger} {id : String} {family : Family}
    (known : ledger.families id = some family)
    (notAlive : family.alive = false) : ledger.kill id = ledger := by
  have same : { family with alive := false } = family := by
    rw [← notAlive]
  rw [kill, known, Option.map_some, same, ← known, Function.update_eq_self]

theorem alive_eq_false_of_killUser_eq {ledger : Ledger} {id user : String}
    {family : Family} (known : ledger.families id = some family)
    (ofUser : family.user = user)
    (idle : ledger.killUser user = ledger) : family.alive = false := by
  have killed : (ledger.killUser user).families id = some family := by
    rw [idle, known]
  simp only [killUser, known, Option.map_some, ofUser, if_true,
    Option.some.injEq] at killed
  exact (congrArg Family.alive killed).symm

/-! ## Dead families -/

/-- The family exists and is not alive. -/
def Dead (ledger : Ledger) (id : String) : Prop :=
  ∃ family, ledger.families id = some family ∧ family.alive = false

theorem Dead.kill {ledger : Ledger} {id : String} (dead : ledger.Dead id)
    (other : String) : (ledger.kill other).Dead id := by
  rcases dead with ⟨family, known, notAlive⟩
  by_cases same : id = other
  · subst same
    exact ⟨{ family with alive := false }, by simp [Ledger.kill, known], rfl⟩
  · exact
      ⟨family, by simp [Ledger.kill, Function.update_of_ne same, known],
        notAlive⟩

theorem Dead.killUser {ledger : Ledger} {id : String}
    (dead : ledger.Dead id) (user : String) :
    (ledger.killUser user).Dead id := by
  rcases dead with ⟨family, known, notAlive⟩
  refine
    ⟨if family.user = user then { family with alive := false } else family,
      by simp [Ledger.killUser, known], ?_⟩
  by_cases same : family.user = user <;> simp [same, notAlive]

theorem Dead.issue {ledger : Ledger} {id other : String} {family : Family}
    (dead : ledger.Dead id) (distinct : id ≠ other) :
    (ledger.issue other family).Dead id := by
  rcases dead with ⟨known, found, notAlive⟩
  exact
    ⟨known, (issue_families_of_ne distinct).trans found, notAlive⟩

/-- No call revives a dead family, unless it reuses the family's id. -/
theorem Dead.step {deps : SessionDeps} {ledger : Ledger} {id : String}
    (dead : ledger.Dead id) (call : SessionCall × Time)
    (fresh : id ∉ call.1.drawnIds) :
    (ledger.step deps call).2.Dead id := by
  rcases call with ⟨call, now⟩
  cases call with
  | createSession draws user sessionMeta =>
      refine dead.issue ?_
      intro same
      exact fresh (by simp [SessionCall.drawnIds, same])
  | refresh draws raw sessionMeta =>
      simp only [Ledger.step, Ledger.refresh]
      cases found : ledger.familyOf raw with
      | none => exact dead
      | some owned =>
          rcases owned with ⟨other, family⟩
          by_cases current : family.current = raw
          · by_cases alive : family.alive = true
            · by_cases expired : family.expiresAt < draws.now
              · simpa [current, alive, expired] using dead
              · simp only [current, alive, expired, if_true, if_false]
                refine dead.issue ?_
                rintro rfl
                rcases dead with ⟨known, knownFound, notAlive⟩
                have sameFamily : known = family := by
                  simp only [familyOf, Option.bind_eq_some_iff,
                    Option.map_eq_some_iff, Prod.mk.injEq] at found
                  rcases found with ⟨_, _, _, there, rfl, rfl⟩
                  rw [knownFound] at there
                  exact Option.some.inj there
                rw [sameFamily, alive] at notAlive
                exact Bool.noConfusion notAlive
            · simpa [current, alive] using dead
          · simpa [current] using dead.kill other
  | revoke raw =>
      simp only [Ledger.step, Ledger.revoke]
      cases found : ledger.familyOf raw with
      | none => exact dead
      | some owned =>
          rcases owned with ⟨other, family⟩
          by_cases current : family.current = raw
          · simpa [current] using dead.kill other
          · simpa [current] using dead
  | revokeAllForUser user => exact dead.killUser user

end Ledger

end ChatBackend.Auth.SessionLedger
