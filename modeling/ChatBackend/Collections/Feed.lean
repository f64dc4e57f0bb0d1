import Mathlib.Data.List.Basic
import Mathlib.Tactic.Common

/-!
# A feed that is opened on demand

A feed is wanted or not.  Opening it is a call that takes time: the handler it
was called with is installed when the call resolves, and only then is it known
how to take the handler out again.  `retain` opens the feed unless a handler is
known, and `release` takes the known handler out.

Once all calls have resolved there should be one handler if the feed is wanted
and none otherwise.  The rules say that this is what becomes of a feed that is
retained and released while no call is under way, and that it is lost at once
when one is.
-/

namespace Collections

/-- The handlers of a feed. -/
@[ext]
structure Feed (Handler : Type*) where
  /-- The handlers that an event is passed to. -/
  installed : List Handler
  /-- The handlers of the calls that have not resolved. -/
  pending : List Handler
  /-- The handler that is known how to be taken out. -/
  kept : Option Handler

namespace Feed

variable {Handler : Type*}

/-- Open the feed with a handler, unless one is known. -/
def retain (handler : Handler) (feed : Feed Handler) : Feed Handler :=
  match feed.kept with
  | some _ => feed
  | none => { feed with pending := feed.pending ++ [handler] }

theorem retain_of_kept {feed : Feed Handler} {known : Handler}
    (kept : feed.kept = some known) (handler : Handler) :
    feed.retain handler = feed := by
  unfold retain
  rw [kept]

theorem retain_of_unknown {feed : Feed Handler} (unknown : feed.kept = none)
    (handler : Handler) :
    feed.retain handler =
      { feed with pending := feed.pending ++ [handler] } := by
  unfold retain
  rw [unknown]

section Operations

variable [DecidableEq Handler]

/-- The call with the handler resolves, if there is one. -/
def resolve (handler : Handler) (feed : Feed Handler) : Feed Handler :=
  if handler ∈ feed.pending then
    { installed := feed.installed ++ [handler]
      pending := feed.pending.erase handler
      kept := some handler }
  else feed

/-- Take the known handler out. -/
def release (feed : Feed Handler) : Feed Handler :=
  match feed.kept with
  | none => feed
  | some handler =>
      { feed with installed := feed.installed.erase handler, kept := none }

@[simp]
theorem pending_release (feed : Feed Handler) :
    feed.release.pending = feed.pending := by
  unfold release
  split <;> rfl

end Operations

/-- How many handlers there are once all calls have resolved. -/
def eventually (feed : Feed Handler) : Nat :=
  feed.installed.length + feed.pending.length

/-- There will be one handler if the feed is wanted, and none otherwise. -/
def Single (wanted : Prop) (feed : Feed Handler) : Prop :=
  (wanted → feed.eventually = 1) ∧ (¬ wanted → feed.eventually = 0)

/--
Either no call is under way and the known handler is the installed one, or the
first call is under way for a feed that is wanted.
-/
def Orderly (wanted : Prop) (feed : Feed Handler) : Prop :=
  (feed.pending = [] ∧ feed.installed = feed.kept.toList ∧
      (feed.kept.isSome ↔ wanted)) ∨
    (∃ handler, feed.pending = [handler] ∧ feed.installed = [] ∧
      feed.kept = none ∧ wanted)

variable {feed : Feed Handler} {wanted still : Prop}

theorem Orderly.single (orderly : feed.Orderly wanted) :
    feed.Single wanted := by
  unfold Single eventually
  rcases orderly with ⟨idle, installed, known⟩ |
    ⟨handler, opening, installed, -, isWanted⟩
  · rw [idle, installed, ← known]
    cases feed.kept <;> simp
  · rw [opening, installed]
    simp [isWanted]

theorem Orderly.congr (orderly : feed.Orderly wanted)
    (same : wanted ↔ still) : feed.Orderly still :=
  propext same ▸ orderly

/-- A feed that is wanted anew, with no call under way, is retained. -/
theorem Orderly.retain (orderly : feed.Orderly wanted)
    (idle : feed.pending = []) (handler : Handler) :
    (feed.retain handler).Orderly True := by
  rcases orderly with ⟨-, installed, known⟩ | ⟨opened, opening, -⟩
  · cases kept : feed.kept with
    | some present =>
        rw [retain_of_kept kept]
        exact .inl ⟨idle, installed, by simp [kept]⟩
    | none =>
        rw [kept] at installed
        rw [retain_of_unknown kept]
        exact .inr ⟨handler, by simp [idle], installed, kept, trivial⟩
  · rw [idle] at opening
    cases opening

/-- A feed that is retained while a call is under way gets two handlers. -/
theorem Orderly.not_single_retain (orderly : feed.Orderly wanted)
    (busy : feed.pending ≠ []) (handler : Handler) :
    ¬ (feed.retain handler).Single True := by
  rcases orderly with ⟨idle, -, -⟩ | ⟨opened, opening, installed, unknown, -⟩
  · exact absurd idle busy
  · rintro ⟨one, -⟩
    have count := one trivial
    rw [retain_of_unknown unknown] at count
    simp [eventually, opening, installed] at count

variable [DecidableEq Handler]

/-- A feed that nobody wants any more, with no call under way, is released. -/
theorem Orderly.release (orderly : feed.Orderly wanted)
    (idle : feed.pending = []) : feed.release.Orderly False := by
  rcases orderly with ⟨-, installed, known⟩ | ⟨opened, opening, -⟩
  · unfold Feed.release
    cases kept : feed.kept with
    | none => exact .inl ⟨idle, installed, by simp [kept]⟩
    | some present =>
        rw [kept] at installed
        exact .inl ⟨idle, by simp [installed], by simp⟩
  · rw [idle] at opening
    cases opening

/-- A feed that is released while a call is under way gets a handler. -/
theorem Orderly.not_single_release (orderly : feed.Orderly wanted)
    (busy : feed.pending ≠ []) : ¬ feed.release.Single False := by
  rcases orderly with ⟨idle, -, -⟩ | ⟨opened, opening, installed, unknown, -⟩
  · exact absurd idle busy
  · rintro ⟨-, none_⟩
    have count := none_ id
    unfold Feed.release at count
    rw [unknown] at count
    simp [eventually, opening] at count

theorem Orderly.resolve (orderly : feed.Orderly wanted) (handler : Handler) :
    (feed.resolve handler).Orderly wanted := by
  unfold Feed.resolve
  split_ifs with called
  · rcases orderly with ⟨idle, -, -⟩ | ⟨opened, opening, installed, -, wants⟩
    · rw [idle] at called
      cases called
    · rw [opening] at called
      cases List.mem_singleton.mp called
      exact .inl ⟨by simp [opening], by simp [installed], by simp [wants]⟩
  · exact orderly

/-- Resolving moves a handler from the calls to the installed ones. -/
theorem eventually_resolve (feed : Feed Handler) (handler : Handler) :
    (feed.resolve handler).eventually = feed.eventually := by
  unfold Feed.resolve eventually
  split_ifs with called
  · have shorter := List.length_erase_of_mem called
    have positive := List.length_pos_of_mem called
    simp only [List.length_append, List.length_singleton]
    omega
  · rfl

end Feed

end Collections
