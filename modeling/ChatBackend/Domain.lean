import Mathlib.Init

/-!
# Errors, times and texts shared by the use cases

Times are milliseconds since the epoch, as `Date.getTime` gives them.  A
`Failure` is what a use case throws: one of the domain errors, an error of the
database client, or the `TypeError` of reading a field of a missing row.  Texts
are those of the runtime; the database stores not all of them.
-/

namespace ChatBackend

/-- Milliseconds since the epoch. -/
abbrev Time := Int

/-- Why the database rejects a statement. -/
inductive DatabaseError where
  | uniqueViolation (constraint : String)
  | foreignKeyViolation (constraint : String)
  | invalidUuid
  | characterNotInRepertoire
deriving DecidableEq, Repr

/-- The errors a use case can throw. -/
inductive Failure where
  | notFoundError (message : String)
  | conflictError (message : String)
  | forbiddenError (message : String)
  | validationError (message : String)
  | authError (message : String)
  | rateLimitError (retryAfter : Int)
  | databaseError (cause : DatabaseError)
  | typeError
deriving DecidableEq, Repr

/-- A column of type `text` stores every letter but U+0000. -/
def storable (text : String) : Bool :=
  text.toList.all fun letter => letter.toNat != 0

/-- The database can store the texts that are given. -/
def Storable (texts : List (Option String)) : Prop :=
  ∀ text ∈ texts, text.all storable = true

instance (texts : List (Option String)) : Decidable (Storable texts) :=
  inferInstanceAs (Decidable (∀ _ ∈ texts, _))

/-- The database refuses a statement with a text that it cannot store. -/
def requireStorable (texts : List (Option String)) : Except Failure Unit :=
  if Storable texts then .ok ()
  else .error (.databaseError .characterNotInRepertoire)

theorem requireStorable_ok {texts : List (Option String)}
    (stores : Storable texts) : requireStorable texts = .ok () :=
  if_pos stores

theorem requireStorable_refused {texts : List (Option String)}
    (refused : ¬ Storable texts) :
    requireStorable texts = .error (.databaseError .characterNotInRepertoire) :=
  if_neg refused

theorem requireStorable_eq_ok_iff {texts : List (Option String)}
    {answer : Unit} :
    requireStorable texts = .ok answer ↔ Storable texts := by
  unfold requireStorable
  by_cases stores : Storable texts <;> simp [stores]

theorem storable_singleton {text : Option String} :
    Storable [text] ↔ text.all storable = true := by
  simp [Storable]

/-- The text of a header, which has no letter U+0000. -/
abbrev HeaderText := { text : String // storable text = true }

/-- What an access token says: whose it is, and its own id. -/
structure AccessTokenClaims where
  sub : String
  jti : String
deriving DecidableEq, Repr

end ChatBackend
