import OdbcFast.Dart.Uint8List

/-!
# What a Dart call completes with

A call completes with a value or throws. Dart separates exceptions, which the
`on Exception` clauses of the package catch, from errors such as a failed cast or a
wrong state, which pass all of these clauses and reach the caller. The repository
turns what it catches into a `Result`, after asking the native library twice what
went wrong; each of these questions may itself throw.
-/

namespace OdbcFast.Dart

inductive AsyncErrorCode where
  | connectionFailed
  | queryFailed
  | transactionFailed
  | prepareFailed
  | invalidParameter
  | notInitialized
  | requestTimeout
  | workerTerminated
  deriving DecidableEq, Repr

/-- The name that interpolating the code into a text shows. -/
def AsyncErrorCode.name : AsyncErrorCode → String
  | .connectionFailed => "AsyncErrorCode.connectionFailed"
  | .queryFailed => "AsyncErrorCode.queryFailed"
  | .transactionFailed => "AsyncErrorCode.transactionFailed"
  | .prepareFailed => "AsyncErrorCode.prepareFailed"
  | .invalidParameter => "AsyncErrorCode.invalidParameter"
  | .notInitialized => "AsyncErrorCode.notInitialized"
  | .requestTimeout => "AsyncErrorCode.requestTimeout"
  | .workerTerminated => "AsyncErrorCode.workerTerminated"

/-- What an `on Exception` clause catches. -/
inductive DartException where
  | format (message : String)
  | async (code : AsyncErrorCode) (message : String)
  | other (message : String)
  deriving DecidableEq, Repr

def DartException.text : DartException → String
  | .format message => "FormatException: " ++ message
  | .async code message => "AsyncError: " ++ code.name ++ " - " ++ message
  | .other message => "Exception: " ++ message

/-- What passes every `on Exception` clause. -/
inductive DartFault where
  | typeError
  | rangeError
  | stateError (message : String)
  deriving DecidableEq, Repr

inductive Thrown where
  | exception (exception : DartException)
  | fault (fault : DartFault)
  deriving DecidableEq, Repr

abbrev Completion (α : Type) := Except Thrown α

/-- `try { … } on Exception catch (e) { … }`. -/
def onException {α : Type} (completion : Completion α) (handler : DartException → Completion α) :
    Completion α :=
  match completion with
  | .error (.exception exception) => handler exception
  | other => other

/-- The parsers' failures, as the caller of a parser sees them. -/
def DartError.thrown : DartError → Thrown
  | .formatException message => .exception (.format message)
  | .rangeError => .fault .rangeError

def Completion.ofParser {α : Type} (parsed : Except DartError α) : Completion α :=
  parsed.mapError DartError.thrown

/-! ## Errors of the package -/

inductive ErrorCategory where
  | transient
  | fatal
  | validation
  | connectionLost
  deriving DecidableEq, Repr

/-- The subclasses of `OdbcError`. -/
inductive ErrorClass where
  | connection
  | query
  | unsupportedFeature
  | validation
  | environmentNotInitialized
  | noMoreResults
  | malformedPayload
  | rollbackFailed
  | resourceLimitReached
  | cancelled
  | workerCrashed
  | bulkPartialFailure
  deriving DecidableEq, Repr

structure OdbcError where
  errorClass : ErrorClass
  message : String
  sqlState : Option String := none
  nativeCode : Option Int := none
  deriving DecidableEq, Repr

namespace OdbcError

/-- An SQLSTATE of class `08`. -/
def isRetryable (error : OdbcError) : Bool :=
  match error.sqlState with
  | none => false
  | some sqlState => "08".toList.isPrefixOf sqlState.toList

def isConnectionError (error : OdbcError) : Bool :=
  error.errorClass = .connection || error.isRetryable

/-- Six subclasses override the category of the base class. -/
def category (error : OdbcError) : ErrorCategory :=
  match error.errorClass with
  | .noMoreResults | .cancelled | .workerCrashed | .bulkPartialFailure => .fatal
  | .malformedPayload => .validation
  | .resourceLimitReached => .transient
  | .validation => .validation
  | _ =>
    if error.isConnectionError then .connectionLost
    else if error.isRetryable then .transient
    else .fatal

end OdbcError

/-- What every method of the repository completes with when it does not throw. -/
inductive Result (α : Type) where
  | success (value : α)
  | failure (error : OdbcError)
  deriving DecidableEq, Repr

/-- A failure that asks for a new connection. -/
def Result.lost {α : Type} : Result α → Bool
  | .success _ => false
  | .failure error => error.category = .connectionLost

structure StructuredError where
  sqlStateString : String
  nativeCode : Int
  message : String
  deriving DecidableEq, Repr

/-- What the two questions about the last native error are answered. -/
structure NativeErrors where
  getStructuredError : Completion (Option StructuredError)
  getError : Completion String

/-- `_convertNativeErrorToFailure`: the second question is asked only when the first has no
answer. -/
def convertNativeErrorToFailure {α : Type} (errorClass : ErrorClass) (fallbackMessage : String)
    (errors : NativeErrors) : Completion (Result α) := do
  match ← errors.getStructuredError with
  | some structured => .ok (.failure
      { errorClass, message := structured.message
        sqlState := some structured.sqlStateString
        nativeCode := some structured.nativeCode })
  | none =>
    let errorMsg ← errors.getError
    .ok (.failure { errorClass, message := if errorMsg ≠ "" then errorMsg else fallbackMessage })

/-- The clause that ends most methods: an exception becomes a failure with its text. -/
def failureOnException {α : Type} (errorClass : ErrorClass) (completion : Completion (Result α)) :
    Completion (Result α) :=
  onException completion fun exception =>
    .ok (.failure { errorClass, message := exception.text })

/-- Whatever the questions are answered, what comes out is no success. -/
theorem convertNativeErrorToFailure_cases {α : Type} (errorClass : ErrorClass)
    (fallbackMessage : String) (errors : NativeErrors) :
    (∃ error, convertNativeErrorToFailure (α := α) errorClass fallbackMessage errors =
      .ok (.failure error)) ∨
    ∃ thrown, convertNativeErrorToFailure (α := α) errorClass fallbackMessage errors =
      .error thrown := by
  rw [convertNativeErrorToFailure]
  cases errors.getStructuredError with
  | error thrown => exact .inr ⟨thrown, rfl⟩
  | ok structured =>
      cases structured with
      | some structured => exact .inl ⟨_, rfl⟩
      | none =>
          cases errors.getError with
          | error thrown => exact .inr ⟨thrown, rfl⟩
          | ok message => exact .inl ⟨_, rfl⟩

theorem convertNativeErrorToFailure_ne_success {α : Type} {errorClass : ErrorClass}
    {fallbackMessage : String} {errors : NativeErrors} (value : α) :
    convertNativeErrorToFailure errorClass fallbackMessage errors ≠ .ok (.success value) := by
  intro converted
  obtain ⟨error, failed⟩ | ⟨thrown, failed⟩ :=
    convertNativeErrorToFailure_cases (α := α) errorClass fallbackMessage errors
  · cases failed.symm.trans converted
  · cases failed.symm.trans converted

theorem failureOnException_ne_success {α : Type} {errorClass : ErrorClass}
    {completion : Completion (Result α)} (failed : ∀ value, completion ≠ .ok (.success value))
    (value : α) : failureOnException errorClass completion ≠ .ok (.success value) := by
  intro succeeded
  unfold failureOnException onException at succeeded
  split at succeeded
  · cases succeeded
  · exact failed value succeeded

end OdbcFast.Dart
