import OdbcFast.Dart.ParamValue

/-!
# The Dart parser of query results

`BinaryProtocolParser` reads a result message in either layout, then an optional
`OUT1` trailer with output values and an optional `RC1` trailer with embedded
row-major messages. The row-major body goes through `_BufferReader`, which takes
words from `data.buffer` and bytes from `data`; the columnar body and the
trailers read everything from the window.

Native decompression is the one call that leaves Dart: `DecompressLibrary` is the
loaded library, or the fact that none was found.
-/

namespace OdbcFast.Dart

open Wire

/-- `OdbcType` of `odbc_type.dart`. -/
inductive OdbcType where
  | varchar
  | integer
  | bigInt
  | decimal
  | date
  | timestamp
  | binary
  | nVarchar
  | timestampWithTz
  | datetimeOffset
  | time
  | smallInt
  | boolean
  | float
  | doublePrecision
  | json
  | uuid
  | money
  | interval
  deriving DecidableEq, Repr

def OdbcType.fromDiscriminant : Nat → OdbcType
  | 1 => varchar
  | 2 => integer
  | 3 => bigInt
  | 4 => decimal
  | 5 => date
  | 6 => timestamp
  | 7 => binary
  | 8 => nVarchar
  | 9 => timestampWithTz
  | 10 => datetimeOffset
  | 11 => time
  | 12 => smallInt
  | 13 => boolean
  | 14 => float
  | 15 => doublePrecision
  | 16 => json
  | 17 => uuid
  | 18 => money
  | 19 => interval
  | _ => varchar

structure ColumnMetadata where
  name : String
  odbcType : Nat
  deriving DecidableEq, Repr

/-- The dynamic values a row can hold. -/
inductive Value where
  | null
  | int (value : Int)
  | text (value : String)
  | bytes (value : Bytes)
  deriving DecidableEq, Repr

structure ParsedRowBuffer where
  columns : List ColumnMetadata
  rows : List (List Value)
  rowCount : Nat
  columnCount : Nat
  deriving DecidableEq, Repr

structure ParsedQueryMessage where
  rowBuffer : ParsedRowBuffer
  outputParamValues : List ParamValue
  refCursorRowBuffers : List ParsedRowBuffer
  deriving DecidableEq, Repr

/-- The loaded engine library: whether the decompression symbols resolved, and
the output of `odbc_columnar_decompress` when it returns zero. -/
structure DecompressLibrary where
  available : Bool
  decompress : Nat → Bytes → Option Bytes

def columnarDecompressWithNative (library : DecompressLibrary) (compressed : Bytes)
    (algorithm : Nat) : Option Bytes :=
  if ¬ library.available then none
  else if compressed.length > 0x7fffffff then none
  else library.decompress algorithm compressed

namespace BinaryProtocolParser

def magic : Nat := 0x4F444243
def outputFooterMagic : Nat := 0x3154554F
def refCursorFooterMagic : Nat := 0x00314352
def protocolVersionRowMajor : Nat := 1
def protocolVersionColumnarV2 : Nat := 2
def headerSizeV1 : Nat := 16
def headerSizeColumnarV2 : Nat := 19

/-- `toRadixString(16)`. -/
def radix16 (n : Nat) : String := String.ofList (Nat.toDigits 16 n)

/-- `_decodeText`. -/
def decodeText (data : Bytes) : String := decodeDroppingBom data

/-- `_convertData`: integers are told from text by the number of bytes alone. -/
def convertData (data : Bytes) (odbcType : Nat) : Value :=
  match OdbcType.fromDiscriminant odbcType with
  | .binary => .bytes data
  | .integer =>
    if 4 ≤ data.length then .int (signed 4 (readLe 4 data 0)) else .text (decodeText data)
  | .bigInt =>
    if 8 ≤ data.length then .int (signed 8 (readLe 8 data 0)) else .text (decodeText data)
  | _ => .text (decodeText data)

/-! ## `_BufferReader` -/

def readUint8 (data : Uint8List) (offset : Nat) : Except DartError (UInt8 × Nat) :=
  match data.bytes[offset]? with
  | some b => .ok (b, offset + 1)
  | none => .error .rangeError

def readUint16 (data : Uint8List) (offset : Nat) : Except DartError (Nat × Nat) := do
  let value ← data.bufferWord 2 offset
  .ok (value, offset + 2)

def readUint32 (data : Uint8List) (offset : Nat) : Except DartError (Nat × Nat) := do
  let value ← data.bufferWord 4 offset
  .ok (value, offset + 4)

/-- `String.fromCharCodes` on bytes: one character per byte. -/
def readString (data : Uint8List) (length offset : Nat) : Except DartError (String × Nat) := do
  let bytes ← data.sublist offset (offset + length)
  .ok (decodeLatin1 bytes, offset + length)

def readBytes (data : Uint8List) (length offset : Nat) : Except DartError (Bytes × Nat) := do
  let bytes ← data.sublist offset (offset + length)
  .ok (bytes, offset + length)

/-! ## The row-major layout -/

def readColumns (data : Uint8List) :
    Nat → Nat → Except DartError (List ColumnMetadata × Nat)
  | 0, offset => .ok ([], offset)
  | count + 1, offset => do
      let (odbcType, offset) ← readUint16 data offset
      let (nameLen, offset) ← readUint16 data offset
      let (name, offset) ← readString data nameLen offset
      let (columns, offset) ← readColumns data count offset
      .ok (⟨name, odbcType⟩ :: columns, offset)

def readCell (data : Uint8List) (odbcType offset : Nat) : Except DartError (Value × Nat) := do
  let (isNull, offset) ← readUint8 data offset
  if isNull = 1 then .ok (.null, offset)
  else
    let (cellLen, offset) ← readUint32 data offset
    let (cellBytes, offset) ← readBytes data cellLen offset
    .ok (convertData cellBytes odbcType, offset)

/-- One cell per column, under that column's type. -/
def readRow (data : Uint8List) :
    List ColumnMetadata → Nat → Except DartError (List Value × Nat)
  | [], offset => .ok ([], offset)
  | column :: columns, offset => do
      let (cell, offset) ← readCell data column.odbcType offset
      let (row, offset) ← readRow data columns offset
      .ok (cell :: row, offset)

def readRows (data : Uint8List) (columns : List ColumnMetadata) :
    Nat → Nat → Except DartError (List (List Value) × Nat)
  | 0, offset => .ok ([], offset)
  | count + 1, offset => do
      let (row, offset) ← readRow data columns offset
      let (rows, offset) ← readRows data columns count offset
      .ok (row :: rows, offset)

/-- `_parseRowMajorV1`. -/
def parseRowMajorV1 (data : Uint8List) : Except DartError ParsedRowBuffer := do
  let (readMagic, offset) ← readUint32 data 0
  if readMagic ≠ magic then
    .error (.formatException s!"Invalid magic number: 0x{radix16 readMagic}")
  else
    let (version, offset) ← readUint16 data offset
    if version ≠ protocolVersionRowMajor then
      .error (.formatException s!"Not a v1 buffer in _parseRowMajorV1: {version}")
    else
      let (columnCount, offset) ← readUint16 data offset
      let (rowCount, offset) ← readUint32 data offset
      let (_, offset) ← readUint32 data offset
      let (columns, offset) ← readColumns data columnCount offset
      let (rows, _) ← readRows data columns rowCount offset
      .ok ⟨columns, rows, rowCount, columnCount⟩

/-! ## The columnar layout -/

/-- A cell that is not NULL, at the byte behind its flag. -/
def readRawCell (odbcType : Nat) (raw : Bytes) (p : Nat) : Except DartError (Value × Nat) :=
  match OdbcType.fromDiscriminant odbcType with
  | .integer =>
    if p + 4 > raw.length then .error (.formatException "Columnar v2: int cell truncated")
    else .ok (.int (signed 4 (readLe 4 raw p)), p + 4)
  | .bigInt =>
    if p + 8 > raw.length then .error (.formatException "Columnar v2: bigint cell truncated")
    else .ok (.int (signed 8 (readLe 8 raw p)), p + 8)
  | _ =>
    if p + 4 > raw.length then .error (.formatException "Columnar v2: varchar len truncated")
    else if p + 4 + readLe 4 raw p > raw.length then
      .error (.formatException "Columnar v2: varchar data truncated")
    else
      .ok (convertData ((raw.drop (p + 4)).take (readLe 4 raw p)) odbcType,
        p + 4 + readLe 4 raw p)

/-- One turn of the cell loop: the flag, then the cell unless it is NULL. -/
def readRawStep (odbcType : Nat) (raw : Bytes) (p : Nat) : Except DartError (Value × Nat) :=
  match raw[p]? with
  | none => .error (.formatException "Columnar v2: row cells truncated")
  | some n => if n = 1 then .ok (.null, p + 1) else readRawCell odbcType raw (p + 1)

def readRawCells (odbcType : Nat) (raw : Bytes) :
    Nat → Nat → Except DartError (List Value × Nat)
  | 0, p => .ok ([], p)
  | count + 1, p => do
      let (cell, p) ← readRawStep odbcType raw p
      let (cells, p) ← readRawCells odbcType raw count p
      .ok (cell :: cells, p)

/-- `_parseColumnarRaw`. -/
def parseColumnarRaw (odbcType : Nat) (raw : Bytes) (rowCount : Nat) :
    Except DartError (List Value) := do
  let (out, p) ← readRawCells odbcType raw rowCount 0
  if p ≠ raw.length then .error (.formatException "Columnar v2: raw not fully consumed")
  else if out.length ≠ rowCount then
    .error (.formatException "Columnar v2: per-column row count mismatch")
  else .ok out

def decompressFailure (library : DecompressLibrary) (algorithm compLen : Nat) : String :=
  let hint :=
    if library.available then
      "odbc_columnar_decompress rejected the payload (wrong " ++
        "algorithm id, corrupt data, or size mismatch)."
    else
      "Native decompress symbols were not loaded. Build or deploy " ++
        "odbc_engine with odbc_columnar_decompress (Windows: " ++
        "odbc_engine.dll; Linux: libodbc_engine.so) — e.g. " ++
        "`cd native/odbc_engine && cargo build --release`, then " ++
        "run from package root or set PATH. Algorithm ids: " ++
        "1=zstd, 2=lz4. See doc/notes/columnar_protocol_sketch.md " ++
        "and library_loader.dart (loadOdbcLibrary)."
  "Columnar v2: native decompress failed " ++
    s!"(algorithm={algorithm}, compBytes={compLen}, " ++
    s!"odbcDecompressFfi={library.available}). " ++ hint

/-- The raw column behind its compression flag, and the next offset. -/
def readColumnBlock (library : DecompressLibrary) (data : Bytes) (stop off : Nat) :
    Except DartError (Bytes × Nat) :=
  match data[off]? with
  | none => .error .rangeError
  | some isCompressed =>
    if isCompressed ≠ 0 then
      if off + 1 + 1 + 4 > stop then
        .error (.formatException "Columnar v2: compressed header truncated")
      else if off + 2 + 4 > stop then
        .error (.formatException "Columnar v2: compressed size truncated")
      else
        let algorithm := (data[off + 1]?.getD 0).toNat
        let compLen := readLe 4 data (off + 2)
        if off + 6 + compLen > stop then
          .error (.formatException "Columnar v2: compressed data truncated")
        else
          let comp := (data.drop (off + 6)).take compLen
          match columnarDecompressWithNative library comp algorithm with
          | none => .error (.formatException (decompressFailure library algorithm compLen))
          | some raw => .ok (raw, off + 6 + compLen)
    else if off + 1 + 4 > stop then
      .error (.formatException "Columnar v2: raw size truncated")
    else
      let rawLen := readLe 4 data (off + 1)
      if off + 5 + rawLen > stop then
        .error (.formatException "Columnar v2: raw data truncated")
      else .ok ((data.drop (off + 5)).take rawLen, off + 5 + rawLen)

def readColumnarColumns (library : DecompressLibrary) (data : Bytes) (rowCount stop : Nat) :
    Nat → Nat → Except DartError (List (ColumnMetadata × List Value) × Nat)
  | 0, off => .ok ([], off)
  | count + 1, off =>
    if off + 4 > stop then .error (.formatException "Columnar v2: metadata truncated")
    else
      let odbcType := readLe 2 data off
      let nameLen := readLe 2 data (off + 2)
      if off + 4 + nameLen > stop then .error (.formatException "Columnar v2: name truncated")
      else
        let name := decodeLatin1 ((data.drop (off + 4)).take nameLen)
        if off + 4 + nameLen ≥ stop then
          .error (.formatException "Columnar v2: missing column payload")
        else do
          let (raw, off) ← readColumnBlock library data stop (off + 4 + nameLen)
          let cells ← parseColumnarRaw odbcType raw rowCount
          let (columns, off) ← readColumnarColumns library data rowCount stop count off
          .ok ((⟨name, odbcType⟩, cells) :: columns, off)

/-- `byCol[c][r]` for every column. -/
def pickRow (byCol : List (List Value)) (r : Nat) : Except DartError (List Value) :=
  byCol.mapM fun cells =>
    match cells[r]? with
    | some cell => .ok cell
    | none => .error .rangeError

/-- `_parseColumnarV2`. -/
def parseColumnarV2 (library : DecompressLibrary) (data : Bytes) :
    Except DartError ParsedRowBuffer :=
  if data.length < headerSizeColumnarV2 then
    .error (.formatException "Columnar v2: buffer too small")
  else
    let colCount := readLe 2 data 8
    let rowCount := readLe 4 data 10
    let paySize := readLe 4 data 15
    if data.length < headerSizeColumnarV2 + paySize then
      .error (.formatException "Columnar v2: truncated payload")
    else if colCount = 0 then .ok ⟨[], [], 0, 0⟩
    else do
      let stop := headerSizeColumnarV2 + paySize
      let (columns, off) ←
        readColumnarColumns library data rowCount stop colCount headerSizeColumnarV2
      if off ≠ stop then
        .error (.formatException "Columnar v2: extra bytes in column payload")
      else if columns.length ≠ colCount then
        .error (.formatException "Columnar v2: column list mismatch")
      else
        let rows ← (List.range rowCount).mapM (pickRow (columns.map Prod.snd))
        .ok ⟨columns.map Prod.fst, rows, rowCount, colCount⟩

/-! ## Trailers -/

def readOutputs (data : Uint8List) : Nat → Nat → Except DartError (List ParamValue × Nat)
  | 0, p => .ok ([], p)
  | count + 1, p => do
      let (value, consumed) ← deserializeParamValue data p
      let (values, p) ← readOutputs data count (p + consumed)
      .ok (value :: values, p)

/-- `_parseOut1IfPresent`. -/
def parseOut1IfPresent (data : Uint8List) (start : Nat) :
    Except DartError (List ParamValue × Nat) :=
  if data.length < start + 8 then .ok ([], start)
  else if readLe 4 data.bytes start ≠ outputFooterMagic then .ok ([], start)
  else readOutputs data (readLe 4 data.bytes (start + 4)) (start + 8)

def readCursors (data : Uint8List) : Nat → Nat → Except DartError (List ParsedRowBuffer × Nat)
  | 0, p => .ok ([], p)
  | count + 1, p =>
    if p + 4 > data.length then .error (.formatException "RC1: truncated length prefix")
    else
      let bl := readLe 4 data.bytes p
      if p + 4 + bl > data.length then
        .error (.formatException "RC1: truncated embedded message")
      else do
        let inner ← data.sublistView (p + 4) (p + 4 + bl)
        let cursor ← parseRowMajorV1 inner
        let (cursors, p) ← readCursors data count (p + 4 + bl)
        .ok (cursor :: cursors, p)

/-- `_parseRc1IfPresent`. -/
def parseRc1IfPresent (data : Uint8List) (start : Nat) :
    Except DartError (List ParsedRowBuffer × Nat) :=
  if data.length < start + 8 then .ok ([], start)
  else if readLe 4 data.bytes start ≠ refCursorFooterMagic then .ok ([], start)
  else readCursors data (readLe 4 data.bytes (start + 4)) (start + 8)

def messageLengthFromHeader (data : Uint8List) : Except DartError Nat := do
  if data.length < headerSizeV1 then .error (.formatException "Buffer too small for header")
  else
    let payloadSize ← data.bufferWord 4 (data.offsetInBytes + 12)
    .ok (headerSizeV1 + payloadSize)

/-- The result in front of the trailers, and where it ends. -/
def parseMain (library : DecompressLibrary) (data : Uint8List) :
    Except DartError (ParsedRowBuffer × Nat) :=
  let version := readLe 2 data.bytes 4
  if version = protocolVersionRowMajor then
    if data.length < headerSizeV1 then
      .error (.formatException "Buffer too small for header")
    else do
      let mainEnd ← messageLengthFromHeader data
      if data.length < mainEnd then
        .error (.formatException "Buffer too small for payload")
      else
        let buffer ← parseRowMajorV1 (← data.sublistView 0 mainEnd)
        .ok (buffer, mainEnd)
  else if version = protocolVersionColumnarV2 then
    if data.length < headerSizeColumnarV2 then
      .error (.formatException "Buffer too small for columnar v2 header")
    else
      let mainEnd := headerSizeColumnarV2 + readLe 4 data.bytes 15
      if data.length < mainEnd then
        .error (.formatException "Buffer too small for columnar payload")
      else do
        let main ← data.sublistView 0 mainEnd
        let buffer ← parseColumnarV2 library main.bytes
        .ok (buffer, mainEnd)
  else .error (.formatException s!"Unsupported protocol version: {version}")

/-- Bytes behind the trailers may not begin another trailer. -/
def checkTrailing (data : Uint8List) (off : Nat) : Except DartError Unit :=
  if off < data.length ∧ data.length - off ≥ 4 ∧
      (readLe 4 data.bytes off = outputFooterMagic ∨
        readLe 4 data.bytes off = refCursorFooterMagic) then
    .error (.formatException "Buffer too small for complete OUT1 or RC1 trailer")
  else .ok ()

def parseWithOutputs (library : DecompressLibrary) (data : Uint8List) :
    Except DartError ParsedQueryMessage :=
  if data.length < 6 then .error (.formatException "Buffer too small for version")
  else if readLe 4 data.bytes 0 ≠ magic then
    .error (.formatException s!"Invalid magic number: 0x{radix16 (readLe 4 data.bytes 0)}")
  else do
    let (buffer, mainEnd) ← parseMain library data
    let (outputs, off) ← parseOut1IfPresent data mainEnd
    let (refCursors, off) ← parseRc1IfPresent data off
    checkTrailing data off
    .ok ⟨buffer, outputs, refCursors⟩

def parse (library : DecompressLibrary) (data : Uint8List) : Except DartError ParsedRowBuffer :=
  (parseWithOutputs library data).map (·.rowBuffer)

end BinaryProtocolParser

end OdbcFast.Dart
