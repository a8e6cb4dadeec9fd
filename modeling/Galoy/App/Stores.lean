import Galoy.Interleave.Pool
import Galoy.Shared.Errors
import Mathlib.Logic.Function.Basic

set_option autoImplicit false

namespace Galoy

open Interleave

abbrev Result := Except AppError

/-- What `parseRepositoryError` makes of an exception of the database driver. -/
inductive RepositoryFault where
  | cannotConnectToDb
  | dbConnectionClosed
  | unknown (message : String)
  deriving DecidableEq, Repr

def RepositoryFault.error : RepositoryFault → AppError
  | .cannotConnectToDb => { name := .CannotConnectToDbError }
  | .dbConnectionClosed => { name := .DbConnectionClosedError }
  | .unknown message => { name := .UnknownRepositoryError, message }

def unknownLedgerError (message : String) : AppError := { name := .UnknownLedgerError, message }

inductive LockAnswer where
  | done
  | executionError
  | otherError
  deriving DecidableEq, Repr

namespace Stores

section Reads

variable {σ φ α : Type} {error : φ → AppError} {w after : σ} {fault : Option φ}

def answerOr (error : φ → AppError) (fault : Option φ) (value : Result α) : Result α :=
  match fault with
  | some fault => .error (error fault)
  | none => value

def readOr (error : φ → AppError) (w : σ) (fault : Option φ) (value : Result α) :
    Option (Result α × σ) :=
  some (answerOr error fault value, w)

abbrev answer (fault : Option RepositoryFault) (value : Result α) : Result α :=
  answerOr RepositoryFault.error fault value

abbrev read (w : σ) (fault : Option RepositoryFault) (value : Result α) : Option (Result α × σ) :=
  readOr RepositoryFault.error w fault value

abbrev readLedger (w : σ) (fault : Option String) (value : Result α) : Option (Result α × σ) :=
  readOr unknownLedgerError w fault value

theorem read_unchanged {value reply : Result α}
    (served : readOr error w fault value = some (reply, after)) : after = w := by
  cases served
  rfl

theorem read_ok {value : Result α} {result : α}
    (served : readOr error w fault value = some (.ok result, after)) : value = .ok result := by
  obtain ⟨answered, rfl⟩ := Prod.mk.inj (Option.some.inj served)
  cases fault with
  | some fault => cases answered
  | none => exact answered

def found (value : Option α) (name : ErrorName) (message : String := "") : Result α :=
  match value with
  | none => .error { name, message }
  | some value => .ok value

theorem found_ok {value : Option α} {name : ErrorName} {message : String} {result : α}
    (isFound : found value name message = .ok result) : value = some result := by
  cases value with
  | none => cases isFound
  | some stored =>
    cases isFound
    rfl

end Reads

section Locks

variable {σ κ : Type} [DecidableEq κ] {w after : σ} {locks : κ → Option RunId}
  {put : (κ → Option RunId) → σ} {run : RunId} {key : κ} {answer : LockAnswer}
  {reply : Result Unit}

def lockError : LockAnswer → Result Unit
  | .done => .ok ()
  | .executionError => .error { name := .ResourceAttemptsLockServiceError }
  | .otherError => .error { name := .UnknownLockServiceError }

-- A granted lock has to be free; a caller that waits is not served.
def acquire (w : σ) (locks : κ → Option RunId) (put : (κ → Option RunId) → σ) (run : RunId)
    (key : κ) (answer : LockAnswer) : Option (Result Unit × σ) :=
  match answer with
  | .done =>
    if locks key = none then some (.ok (), put (Function.update locks key (some run))) else none
  | _ => some (lockError answer, w)

def release (locks : κ → Option RunId) (put : (κ → Option RunId) → σ) (run : RunId) (key : κ)
    (answer : LockAnswer) : Option (Result Unit × σ) :=
  some (lockError answer,
    put (if locks key = some run then Function.update locks key none else locks))

theorem acquire_inversion (served : acquire w locks put run key answer = some (reply, after)) :
    ((∃ error, reply = .error error) ∧ after = w) ∨
      (reply = .ok () ∧ locks key = none ∧ after = put (Function.update locks key (some run))) := by
  cases answer with
  | done =>
    unfold acquire at served
    by_cases free : locks key = none
    · simp only [free, if_true, Option.some.injEq, Prod.mk.injEq] at served
      obtain ⟨rfl, rfl⟩ := served
      exact .inr ⟨rfl, free, rfl⟩
    · simp [free] at served
  | executionError | otherError =>
    cases served
    exact .inl ⟨⟨_, rfl⟩, rfl⟩

theorem release_inversion (served : release locks put run key answer = some (reply, after)) :
    after = put (if locks key = some run then Function.update locks key none else locks) := by
  cases served
  rfl

end Locks

end Stores

end Galoy
