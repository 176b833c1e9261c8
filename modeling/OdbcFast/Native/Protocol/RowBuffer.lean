import OdbcFast.Wire.Utf8

/-!
# Column types and row buffers

`OdbcType` is the engine's column type with its stable wire discriminants.
A `RowBuffer` is a materialised result: its column metadata and rows of cells,
each cell either NULL or a byte string. Nothing in the type forces every row to
have one cell per column; `Rectangular` is what the cursor readers establish.
-/

namespace OdbcFast.Native

open Wire

/-- `OdbcType` of `protocol/types.rs`. -/
inductive OdbcType where
  | varchar
  | integer
  | bigInt
  | decimal
  | date
  | timestamp
  | binary
  | nVarchar
  | timestampWithTz
  | datetimeOffset
  | time
  | smallInt
  | boolean
  | float
  | double
  | json
  | uuid
  | money
  | interval
  deriving DecidableEq, Repr

namespace OdbcType

/-- The value of `odbc_type as u16`. -/
def discriminant : OdbcType → Nat
  | varchar => 1
  | integer => 2
  | bigInt => 3
  | decimal => 4
  | date => 5
  | timestamp => 6
  | binary => 7
  | nVarchar => 8
  | timestampWithTz => 9
  | datetimeOffset => 10
  | time => 11
  | smallInt => 12
  | boolean => 13
  | float => 14
  | double => 15
  | json => 16
  | uuid => 17
  | money => 18
  | interval => 19

/-- Unknown codes degrade to `varchar`. -/
def fromProtocolDiscriminant : Nat → OdbcType
  | 1 => varchar
  | 2 => integer
  | 3 => bigInt
  | 4 => decimal
  | 5 => date
  | 6 => timestamp
  | 7 => binary
  | 8 => nVarchar
  | 9 => timestampWithTz
  | 10 => datetimeOffset
  | 11 => time
  | 12 => smallInt
  | 13 => boolean
  | 14 => float
  | 15 => double
  | 16 => json
  | 17 => uuid
  | 18 => money
  | 19 => interval
  | _ => varchar

@[simp] theorem fromProtocolDiscriminant_discriminant (t : OdbcType) :
    fromProtocolDiscriminant t.discriminant = t := by
  cases t <;> rfl

theorem discriminant_lt (t : OdbcType) : t.discriminant < 256 ^ 2 := by
  cases t <;> decide

end OdbcType

structure ColumnMetadata where
  name : String
  odbcType : OdbcType
  deriving DecidableEq, Repr

/-- A cell is NULL or exactly its bytes; the empty byte string is not NULL. -/
abbrev Cell := Option Bytes

/-- `RowBuffer` of `protocol/row_buffer.rs`. -/
structure RowBuffer where
  columns : List ColumnMetadata
  rows : List (List Cell)
  deriving DecidableEq, Repr

namespace RowBuffer

def rowCount (buffer : RowBuffer) : Nat := buffer.rows.length

def columnCount (buffer : RowBuffer) : Nat := buffer.columns.length

/-- Every row has one cell per column. -/
def Rectangular (buffer : RowBuffer) : Prop :=
  ∀ row ∈ buffer.rows, row.length = buffer.columns.length

instance (buffer : RowBuffer) : Decidable buffer.Rectangular :=
  inferInstanceAs (Decidable (∀ row ∈ buffer.rows, row.length = buffer.columns.length))

end RowBuffer

end OdbcFast.Native
