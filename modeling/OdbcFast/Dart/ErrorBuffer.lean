import Mathlib.Data.List.Infix
import OdbcFast.Dart.FfiBuffer
import OdbcFast.Dart.OdbcError
import OdbcFast.Dart.WorkerIsolate
import OdbcFast.Native.Protocol.ParamValue
import OdbcFast.Wire.HashMap
import OdbcFast.Wire.Utf8

/-!
# The last error

The native side copies as many bytes of the text as the buffer holds beside a terminator.
Dart asks with a buffer of one size and decodes what was copied, strictly, without a byte
order mark in front.

Beside the text there may be a structured error, with a SQLSTATE and the code of the driver. It
is kept for each connection and once for all of them, and is written into a buffer as a whole or
not at all. Dart asks for it with larger and larger buffers, on the spot or in a worker.
-/

namespace OdbcFast.Native

open Wire

/-- What is behind the lock of the global state, as far as it is asked for here. -/
structure ErrorState where
  lastError : Option String := none
  poisoned : Bool := false

def setError (error : String) (state : ErrorState) : ErrorState :=
  { state with lastError := some error }

/-- `get_connection_error` without a connection. -/
def getConnectionError (state : ErrorState) : String := state.lastError.getD "No error"

/-- The returned number and the bytes that are written. The length of the text is cut to 32 bits,
and what is returned is a signed number of as many. -/
def odbcGetError (bufferIsNull : Bool) (bufferLen : UInt32) (state : ErrorState) :
    Int × Option Bytes :=
  if bufferIsNull || bufferLen == 0 then (-1, none)
  else if state.poisoned then (-1, none)
  else
    let msgBytes := utf8Bytes (getConnectionError state)
    let copyLen := min (msgBytes.length % 4294967296) (bufferLen.toNat - 1)
    ((BitVec.ofNat 32 copyLen).toInt, some (msgBytes.take copyLen ++ [0]))

/-! ## Structured errors -/

/-- `StructuredError` of `error/mod.rs`. -/
structure StructuredError where
  sqlstate : Bytes
  nativeCode : Int32
  message : String
  length_sqlstate : sqlstate.length = 5

namespace OdbcError

/-- Only a structured error carries a code of the driver. -/
def nativeCode : OdbcError → Int32
  | .structured _ nativeCode _ => .ofInt nativeCode
  | _ => 0

def message : OdbcError → String
  | .structured _ _ message => message
  | err => err.display

def toStructured (err : OdbcError) (five : err.sqlstate.length = 5) : StructuredError :=
  ⟨err.sqlstate, err.nativeCode, err.message, five⟩

/-- A SQLSTATE of class `08`. -/
def isConnectionState (sqlstate : Bytes) : Bool := sqlstate[0]? = some 0x30 ∧ sqlstate[1]? = some 0x38

def isRetryable : OdbcError → Bool
  | .structured sqlstate _ _ => isConnectionState sqlstate
  | .poolError _ => true
  | .internalError msg =>
    "timeout".toList <:+: msg.toList ∨ "Timeout".toList <:+: msg.toList
  | _ => false

def isConnectionError : OdbcError → Bool
  | .emptyConnectionString | .environmentNotInitialized => true
  | .structured sqlstate _ _ => isConnectionState sqlstate
  | _ => false

end OdbcError

inductive ErrorCategory where
  | transient
  | fatal
  | validation
  | connectionLost
  deriving DecidableEq, Repr

def OdbcError.errorCategory : OdbcError → ErrorCategory
  | .validationError _ => .validation
  | .unsupportedFeature _ => .fatal
  | err =>
    if err.isConnectionError then .connectionLost
    else if err.isRetryable then .transient
    else .fatal

namespace StructuredError

def serialize (error : StructuredError) : Bytes :=
  error.sqlstate ++ (i32Bytes error.nativeCode ++
    (toLeBytes 4 (utf8Bytes error.message).length ++ utf8Bytes error.message))

def deserialize (data : Bytes) : Option StructuredError :=
  if short : data.length < 13 then none
  else if data.length < 13 + readLe 4 data 9 then none
  else match decodeStrict ((data.drop 13).take (readLe 4 data 9)) with
    | .error _ => none
    | .ok message => some
        { sqlstate := data.take 5, nativeCode := .ofBitVec (.ofNat 32 (readLe 4 data 5)), message
          length_sqlstate := by rw [List.length_take]; omega }

end StructuredError

structure ConnectionError where
  simpleMessage : String
  structured : Option StructuredError

/-- What is kept of the errors behind the lock of the global state. -/
structure ErrorRegistry extends ErrorState where
  lastStructuredError : Option StructuredError := none
  connectionErrors : HashMap Nat ConnectionError := ∅

namespace ErrorRegistry

def setConnectionError (connId : Nat) (error : String) (registry : ErrorRegistry) :
    ErrorRegistry :=
  { registry with
    connectionErrors := registry.connectionErrors.insert connId ⟨error, none⟩
    lastError := some error
    lastStructuredError := none }

def setConnectionStructuredError (connId : Nat) (error : StructuredError)
    (registry : ErrorRegistry) : ErrorRegistry :=
  { registry with
    connectionErrors := registry.connectionErrors.insert connId ⟨error.message, some error⟩
    lastError := some error.message
    lastStructuredError := some error }

/-- `set_error`, for functions without a connection. -/
def setError (error : String) (registry : ErrorRegistry) : ErrorRegistry :=
  { registry with lastError := some error, lastStructuredError := none }

/-- `set_structured_error`, for functions without a connection. -/
def setStructuredError (error : StructuredError) (registry : ErrorRegistry) : ErrorRegistry :=
  { registry with lastError := some error.message, lastStructuredError := some error }

/-- What a successful `odbc_disconnect` does to the errors. -/
def disconnect (connId : Nat) (registry : ErrorRegistry) : ErrorRegistry :=
  { registry with connectionErrors := registry.connectionErrors.erase connId }

/-- `get_connection_error`: a connection without an error of its own is answered with the last
error of all. -/
def getConnectionError (connId : Option Nat) (registry : ErrorRegistry) : String :=
  match connId.bind fun id => registry.connectionErrors.lookup id with
  | some connErr => connErr.simpleMessage
  | none => registry.lastError.getD "No error"

/-- `get_connection_structured_error`: without falling back. -/
def getConnectionStructuredError (connId : Option Nat) (registry : ErrorRegistry) :
    Option StructuredError :=
  match connId with
  | some id => (registry.connectionErrors.lookup id).bind ConnectionError.structured
  | none => registry.lastStructuredError

/-- `odbc_get_structured_error_for_connection` with a buffer of some size: the returned number and
the bytes that are written. -/
def odbcGetStructuredErrorForConnection (connId bufferLen : Nat) (registry : ErrorRegistry) :
    Int × Bytes :=
  if registry.poisoned then (-1, [])
  else
    match registry.getConnectionStructuredError (if connId = 0 then none else some connId) with
    | none => (1, [])
    | some structuredError =>
      if structuredError.serialize.length > bufferLen then (-2, [])
      else (0, structuredError.serialize)

/-- `odbc_get_structured_error`. -/
def odbcGetStructuredError (bufferLen : Nat) (registry : ErrorRegistry) : Int × Bytes :=
  registry.odbcGetStructuredErrorForConnection 0 bufferLen

end ErrorRegistry

end OdbcFast.Native

namespace OdbcFast.Dart

open Wire

def errorBufferSize : UInt32 := 4096

/-- `utf8.decode`; the parameter words what is refused. -/
def utf8Decode (wording : Utf8.Fault → String) (bytes : Bytes) : Completion String :=
  match decodeStrict (if bytes.take 3 = bom then bytes.drop 3 else bytes) with
  | .error fault => .error (.exception (.format (wording fault)))
  | .ok text => .ok text

/-- `getError` of the bindings. -/
def getError (wording : Utf8.Fault → String) (state : Native.ErrorState) : Completion String :=
  let (n, written) := Native.odbcGetError false errorBufferSize state
  if n < 0 then .ok "Unknown error"
  else if n = 0 then .ok ""
  else utf8Decode wording ((written.getD []).take n.toNat)

/-! ## Structured errors -/

/-- `StructuredError.deserialize`. -/
def StructuredError.deserialize (wording : Utf8.Fault → String) (data : Bytes) :
    Completion (Option StructuredError) :=
  if data.length < 13 then .ok none
  else if data.length < 13 + readLe 4 data 9 then .ok none
  else do
    let message ← utf8Decode wording ((data.drop 13).take (readLe 4 data 9))
    .ok (some { sqlStateString := decodeLatin1 (data.take 5)
                nativeCode := signed 4 (readLe 4 data 5), message })

/-- `getStructuredErrorForConnection` of the bindings, where the library exports the question. -/
def getStructuredErrorForConnection (wording : Utf8.Fault → String) (connectionId : Nat)
    (registry : Native.ErrorRegistry) : Completion (Option StructuredError) :=
  match callWithBuffer (fun size =>
    .ofCode (registry.odbcGetStructuredErrorForConnection connectionId size)) none with
  | none => .ok none
  | some data => if data = [] then .ok none else StructuredError.deserialize wording data

/-- `getStructuredError` of the bindings. -/
def getStructuredError (wording : Utf8.Fault → String) (registry : Native.ErrorRegistry) :
    Completion (Option StructuredError) :=
  match callWithBuffer (fun size => .ofCode (registry.odbcGetStructuredError size)) none with
  | none => .ok none
  | some data => if data = [] then .ok none else StructuredError.deserialize wording data

/-- How a worker answers the request for it; `shown` is the text of what the handling throws. -/
def workerStructuredError (shown : Thrown → String) :
    Completion (Option StructuredError) → ResponseBody
  | .ok (some se) => .structuredError se.message (some se.sqlStateString) (some se.nativeCode) none
  | .ok none => .structuredError "" none none none
  | .error thrown => errorBody (shown thrown) .getStructuredError

/-- `getStructuredError` of the connection that asks a worker. -/
def asyncGetStructuredError (response : WorkerResponse) : Completion (Option StructuredError) := do
  match ← clientMethod .getStructuredError response with
  | .structuredError (some (message, sqlState, nativeCode)) =>
    .ok (some { message, nativeCode, sqlStateString := String.ofList (sqlState.map Char.ofNat) })
  | _ => .ok none

/-- What the repository is told about the last error, on the spot. -/
def nativeErrors (wording : Utf8.Fault → String) (registry : Native.ErrorRegistry) :
    NativeErrors where
  getStructuredError := getStructuredError wording registry
  getError := getError wording registry.toErrorState

/-- What it is told through a worker. -/
def workerErrors (wording : Utf8.Fault → String) (shown : Thrown → String) (requestId : Nat)
    (registry : Native.ErrorRegistry) : NativeErrors where
  getStructuredError := asyncGetStructuredError
    ⟨requestId, workerStructuredError shown (getStructuredError wording registry)⟩
  getError :=
    match getError wording registry.toErrorState with
    | .ok message => .ok message
    | .error thrown => .ok (shown thrown)

end OdbcFast.Dart
