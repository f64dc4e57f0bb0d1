import ChatBackend.Domain
import ChatBackend.Effects.Races

/-!
# Calls that conflict

A call that checks whether something exists and then inserts it.  It wins if it
returns, it loses if it throws a `ConflictError`, and it breaks if it throws
anything else, which the error mapper does not know as a conflict.
-/

namespace ChatBackend.Conflicts

open Effects
open Transition

variable {port : Port} {Result : Type}

/-- How far a call has come, given what it is about at each operation. -/
def phase (stage : port.Op → Phase) : Program port Failure Result → Phase
  | .done _ => .won
  | .fail (.conflictError _) => .lost
  | .fail _ => .broken
  | .call op _ => stage op

variable {stage : port.Op → Phase} {program : Program port Failure Result}

theorem thrown_of_lost (ended : program.Finished)
    (lost : phase stage program = .lost) :
    ∃ message, program = .fail (.conflictError message) := by
  cases program with
  | done registration => cases lost
  | fail error =>
      cases error with
      | conflictError message => exact ⟨message, rfl⟩
      | _ => cases lost
  | call op next => cases ended

theorem returned_of_won (ended : program.Finished)
    (won : phase stage program = .won) : ∃ result, program = .done result := by
  cases program with
  | done result => exact ⟨result, rfl⟩
  | fail error => cases error <;> cases won
  | call op next => cases ended

/-- A call that has finished neither waits nor holds on. -/
theorem ended_of_finished (ended : program.Finished) :
    phase stage program ≠ .waiting ∧ phase stage program ≠ .holding := by
  cases program with
  | done registration => exact ⟨nofun, nofun⟩
  | fail error => cases error <;> exact ⟨nofun, nofun⟩
  | call op next => cases ended

end ChatBackend.Conflicts
