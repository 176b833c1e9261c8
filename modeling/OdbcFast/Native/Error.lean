import Mathlib.Algebra.Order.Ring.Int
import Mathlib.Tactic.Common

/-!
# Errors of the native engine

The engine's error enumeration, and the two ways in which a call ends without a
value: an `Err` result, or a panic raised by `expect`.
-/

namespace OdbcFast.Native

/-- `OdbcError` of `error/mod.rs`. -/
inductive OdbcError where
  | odbcApi (message : String)
  | invalidHandle (id : Nat)
  | emptyConnectionString
  | environmentNotInitialized
  | structured (sqlstate : List UInt8) (nativeCode : Int) (message : String)
  | poolError (message : String)
  | internalError (message : String)
  | validationError (message : String)
  | unsupportedFeature (message : String)
  | noMoreResults
  | malformedPayload (message : String)
  | rollbackFailed (message : String)
  | resourceLimitReached (message : String)
  | cancelled
  | workerCrashed (message : String)
  | bulkPartialFailure (rowsInsertedBeforeFailure failedChunks : Nat) (detail : String)
  deriving DecidableEq, Repr

namespace OdbcError

/-- Only a structured error carries a state; every other one reports five zeros. -/
def sqlstate : OdbcError → List UInt8
  | .structured state _ _ => state
  | _ => [0, 0, 0, 0, 0]

/-- The text that `to_string` gives. -/
def display : OdbcError → String
  | .odbcApi message => s!"ODBC error: {message}"
  | .invalidHandle id => s!"Invalid handle ID: {id}"
  | .emptyConnectionString => "Connection string is empty"
  | .environmentNotInitialized => "Environment not initialized"
  | .structured _ _ message => s!"Structured error: {message}"
  | .poolError message => s!"Pool error: {message}"
  | .internalError message => s!"Internal error: {message}"
  | .validationError message => s!"Validation error: {message}"
  | .unsupportedFeature message => s!"Unsupported feature: {message}"
  | .noMoreResults => "No more result sets available"
  | .malformedPayload message => s!"Malformed payload: {message}"
  | .rollbackFailed message => s!"Rollback failed: {message}"
  | .resourceLimitReached message => s!"Resource limit reached: {message}"
  | .cancelled => "Operation cancelled"
  | .workerCrashed message => s!"Worker thread crashed: {message}"
  | .bulkPartialFailure rowsInsertedBeforeFailure failedChunks detail =>
    s!"Bulk insert partial failure: {failedChunks} chunk(s) failed; {rowsInsertedBeforeFailure} " ++
      s!"rows inserted before failure: {detail}"

end OdbcError

/-- How a call ends without a value: an `Err`, or a panic that unwinds it. -/
inductive Fault (ε : Type) where
  | err (error : ε)
  | panic (message : String)
  deriving DecidableEq, Repr

/-- `Result::expect`: an `Err` becomes a panic. -/
def expect {ε ε' α : Type} (result : Except ε α) (message : String) : Except (Fault ε') α :=
  match result with
  | .ok value => .ok value
  | .error _ => .error (.panic message)

theorem expect_eq_ok {ε ε' α : Type} {result : Except ε α} {message : String} {value : α} :
    (expect result message : Except (Fault ε') α) = .ok value ↔ result = .ok value := by
  cases result <;> simp [expect]

/-- A plain `Result` seen in a call that may also panic. -/
def orFault {ε α : Type} (result : Except ε α) : Except (Fault ε) α :=
  result.mapError .err

@[simp] theorem orFault_ok {ε α : Type} (value : α) :
    orFault (.ok value : Except ε α) = .ok value := rfl

theorem orFault_eq_ok {ε α : Type} {result : Except ε α} {value : α} :
    orFault result = .ok value ↔ result = .ok value := by
  cases result <;> simp [orFault, Except.mapError]

/-- A length check answers with the length it was given. -/
theorem ite_ok_eq_ok {ε : Type} {bound value len : Nat} {error : ε} :
    (if value < bound then Except.ok value else .error error) = .ok len ↔
      value < bound ∧ len = value := by
  split_ifs with small
  · rw [Except.ok.injEq, eq_comm, and_iff_right small]
  · constructor
    · intro failed
      cases failed
    · rintro ⟨fits, -⟩
      exact absurd fits small

end OdbcFast.Native
