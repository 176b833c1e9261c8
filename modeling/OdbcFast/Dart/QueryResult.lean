import OdbcFast.Dart.MultiResultParser
import OdbcFast.Dart.OdbcError

/-!
# Query results

What a native call brings is one message, or an envelope with several results. The
repository turns it into the result objects of the package. A text that is no message
is reported as if the native call had brought nothing.
-/

namespace OdbcFast.Dart

open Wire

/-- The columns and rows of one result set. -/
structure RowSet where
  columns : List String
  rows : List (List Value)
  rowCount : Nat
  deriving DecidableEq, Repr

/-- What a directed call returns behind its first result. -/
inductive DirectedMultiItem where
  | result (value : RowSet)
  | rowCount (value : Int)
  deriving DecidableEq, Repr

/-- The results behind a reference cursor have columns and rows only. -/
structure QueryResult extends RowSet where
  outputParamValues : List ParamValue := []
  refCursorResults : List RowSet := []
  additionalResults : List DirectedMultiItem := []
  deriving DecidableEq, Repr

inductive QueryResultMultiItem where
  | resultSet (value : QueryResult)
  | rowCount (value : Int)
  deriving DecidableEq, Repr

structure QueryResultMulti where
  items : List QueryResultMultiItem
  deriving DecidableEq, Repr

def ParsedRowBuffer.rowSet (buffer : ParsedRowBuffer) : RowSet where
  columns := buffer.columns.map ColumnMetadata.name
  rows := buffer.rows
  rowCount := buffer.rowCount

/-- `_toQueryResult`. -/
def toQueryResult (buffer : ParsedRowBuffer) : QueryResult := { buffer.rowSet with }

/-- `_toQueryResultMulti`. -/
def toQueryResultMulti (items : List MultiResultItem) : QueryResultMulti where
  items := items.map fun item =>
    match item with
    | .resultSet value => .resultSet (toQueryResult value)
    | .rowCount value => .rowCount value

def MultiResultItem.directed : MultiResultItem → DirectedMultiItem
  | .resultSet value => .result value.rowSet
  | .rowCount value => .rowCount value

/-- `_parseMultiDirectedBuffer`: a first result set fills the primary fields, and everything
else goes to the additional results. -/
def parseMultiDirectedBuffer (library : DecompressLibrary) (data : Uint8List) :
    Except DartError QueryResult := do
  let (items, outputParamValues) ← MultiResultParser.parseMultiWithOutputs library data
  match items with
  | .resultSet value :: rest =>
    .ok { value.rowSet with outputParamValues, additionalResults := rest.map MultiResultItem.directed }
  | items =>
    .ok { columns := [], rows := [], rowCount := 0, outputParamValues
          additionalResults := items.map MultiResultItem.directed }

/-- What the data of a call says, when it says anything. -/
def decodeQueryResult (library : DecompressLibrary) (buf : Bytes) : Except DartError QueryResult :=
  if buf = [] then .ok { columns := [], rows := [], rowCount := 0 }
  else if buf.length ≥ 4 ∧ readLe 4 buf 0 = MultiResultParser.multiResultMagic then
    parseMultiDirectedBuffer library (.fromList buf)
  else do
    let message ← BinaryProtocolParser.parseWithOutputs library (.fromList buf)
    .ok { message.rowBuffer.rowSet with
      outputParamValues := message.outputParamValues
      refCursorResults := message.refCursorRowBuffers.map ParsedRowBuffer.rowSet }

/-- `_parseBufferToQueryResult`: an exception of the parser is swallowed. -/
def parseBufferToQueryResult (library : DecompressLibrary) :
    Option Bytes → Completion (Option QueryResult)
  | none => .ok none
  | some buf =>
    onException (Completion.ofParser ((decodeQueryResult library buf).map some)) fun _ => .ok none

/-- What the data of a multi-result call says. -/
def decodeQueryResultMulti (library : DecompressLibrary) (buf : Bytes) :
    Except DartError QueryResultMulti :=
  if buf = [] then .ok ⟨[]⟩
  else (MultiResultParser.parse library (.fromList buf)).map toQueryResultMulti

end OdbcFast.Dart
