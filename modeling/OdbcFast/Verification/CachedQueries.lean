import OdbcFast.Native.Engine.CachedConnection
import OdbcFast.Verification.JsonRows

/-!
# Queries with and without a statement cache

Whatever is in the cache, a cached connection answers with the plain encoding of what was
fetched. The engine puts the pieces of a JSON document together first, and may encode by columns.
-/

namespace OdbcFast.Verification

open Wire OdbcFast.Native

/-- The same responses. -/
def SameResponse (answer answer' : Except (Fault OdbcError) Bytes) : Prop :=
  ∀ response, answer = .ok response ↔ answer' = .ok response

/-- What the driver returns for a text. -/
structure Returns (driver : Driver) (buffer : RowBuffer) : Prop where
  prepared : driver.prepared = .ok ()
  fetched : fetch OdbcType.fromOdbcSqlType driver = .ok buffer

/-- A result that an engine can encode. -/
def Encodes (codecs : Codecs) (engine : ExecutionEngine) (buffer : RowBuffer) : Prop :=
  ∃ response, engine.encodeBuffer codecs buffer = .ok response

/-- A result that is encoded the same way, or that is too large for both encodings. -/
def EncodedAlike (codecs : Codecs) (engine : ExecutionEngine) (buffer : RowBuffer) : Prop :=
  (engine.useColumnar = false ∧ ¬ JsonPieces buffer) ∨
    (¬ Encodes codecs {} buffer ∧ ¬ Encodes codecs engine (coalesceForJsonRows buffer))

variable {lru : LruCache (List Char)} {codecs : Codecs} {engine : ExecutionEngine} {reuse : Bool}
variable {database : Database} {sql : List Char} {conn : CachedConnection lru}
variable {buffer : RowBuffer}

/-! ## The two pipelines -/

theorem executeQueryCached_eq (returns : Returns (database (engine.optimizedSql sql)) buffer) :
    (engine.executeQueryCached reuse database sql conn).1 = RowBufferEncoder.encode buffer := by
  have executed : executeStmtToBuffer (database (engine.optimizedSql sql)) =
      RowBufferEncoder.encode buffer := by
    rw [executeStmtToBuffer, returns.fetched]
    rfl
  have prepare : (database (engine.optimizedSql sql)).prepare = .ok () := returns.prepared
  rw [ExecutionEngine.executeQueryCached, CachedConnection.executeQueryNoParams]
  cases reuse with
  | false =>
      rw [if_neg Bool.false_ne_true, prepare]
      exact executed
  | true =>
      rw [if_pos rfl, CachedConnection.executeQueryWithReuse]
      by_cases hit : lru.contains (engine.optimizedSql sql) conn.stmtCache = true
      · rw [if_pos hit]
        exact executed
      · rw [if_neg hit, prepare, ← executed]
        dsimp only
        cases executeStmtToBuffer (database (engine.optimizedSql sql)) <;> rfl

theorem executeQueryInner_eq (returns : Returns (database (engine.optimizedSql sql)) buffer) :
    engine.executeQueryInner codecs database sql =
      engine.encodeBuffer codecs (coalesceForJsonRows buffer) := by
  have prepare : (database (engine.optimizedSql sql)).prepare = .ok () := returns.prepared
  rw [ExecutionEngine.executeQueryInner, prepare, fetch_mapType, returns.fetched]
  rfl

/-! ## The two encodings -/

theorem payload_of_messageBytes {buffer' : RowBuffer}
    (same : messageBytes buffer = messageBytes buffer') :
    payloadBytes buffer = payloadBytes buffer' := by
  rw [messageBytes, messageBytes] at same
  exact (List.append_inj same (by rw [length_headerBytes, length_headerBytes])).2

/-- The type of the first column can be told from a message. -/
theorem odbcType_of_messageBytes {buffer' : RowBuffer} {col col' : ColumnMetadata}
    (first : buffer.columns = [col]) (first' : buffer'.columns = [col'])
    (same : messageBytes buffer = messageBytes buffer') : col.odbcType = col'.odbcType := by
  have payload := payload_of_messageBytes same
  rw [payloadBytes, payloadBytes, first, first', List.flatMap_singleton, List.flatMap_singleton,
    columnBytes, columnBytes] at payload
  simp only [List.append_assoc] at payload
  have code := (List.append_inj payload (by rw [length_toLeBytes, length_toLeBytes])).1
  have discriminant := congrArg ofLeBytes code
  rw [ofLeBytes_toLeBytes_of_lt (OdbcType.discriminant_lt _),
    ofLeBytes_toLeBytes_of_lt (OdbcType.discriminant_lt _)] at discriminant
  rw [← OdbcType.fromProtocolDiscriminant_discriminant col.odbcType, discriminant,
    OdbcType.fromProtocolDiscriminant_discriminant]

/-- A message by rows is none by columns. -/
theorem messageBytes_ne_messageBytesV2 {useCompression : Bool} {columnar : RowBufferV2} :
    messageBytes buffer ≠ ColumnarEncoder.messageBytesV2 codecs useCompression columnar := by
  intro same
  simp only [messageBytes, headerBytes, ColumnarEncoder.messageBytesV2,
    ColumnarEncoder.headerBytesV2, List.append_assoc] at same
  have behind := (List.append_inj same rfl).2
  have version := (List.append_inj behind (by rw [length_toLeBytes, length_toLeBytes])).1
  revert version
  decide

theorem encoded_eq_ok {response : Bytes}
    (encoded : (RowBufferEncoder.encode buffer : Except (Fault OdbcError) Bytes) = .ok response) :
    response = messageBytes buffer :=
  (RowBufferEncoder.tryEncode_eq_ok (expect_eq_ok.mp encoded)).2

theorem sameResponse_iff (fetched : ∀ col ∈ buffer.columns, col.odbcType ≠ .json) :
    SameResponse (RowBufferEncoder.encode buffer)
      (engine.encodeBuffer codecs (coalesceForJsonRows buffer)) ↔
        EncodedAlike codecs engine buffer := by
  constructor
  · intro same
    by_cases fits : Encodes codecs {} buffer ∨ Encodes codecs engine (coalesceForJsonRows buffer)
    · -- one response is there, so it is both
      obtain ⟨response, plain, encoded⟩ : ∃ response,
          (RowBufferEncoder.encode buffer : Except (Fault OdbcError) Bytes) = .ok response ∧
            engine.encodeBuffer codecs (coalesceForJsonRows buffer) = .ok response := by
        rcases fits with ⟨response, plain⟩ | ⟨response, encoded⟩
        · exact ⟨response, plain, (same response).mp plain⟩
        · exact ⟨response, (same response).mpr encoded, encoded⟩
      have message := encoded_eq_ok plain
      rw [ExecutionEngine.encodeBuffer] at encoded
      left
      cases columnar : engine.useColumnar with
      | true =>
          rw [columnar, if_pos rfl, orFault_eq_ok] at encoded
          have layout := (ColumnarEncoder.encode_eq_ok encoded).1
          rw [message] at layout
          exact absurd layout messageBytes_ne_messageBytesV2
      | false =>
          refine ⟨rfl, fun pieces => ?_⟩
          rw [columnar, if_neg Bool.false_ne_true] at encoded
          obtain ⟨col, first, first'⟩ := columns_coalesceForJsonRows pieces
          have layout := encoded_eq_ok encoded
          rw [message] at layout
          refine fetched col (by rw [first]; exact List.mem_cons_self) ?_
          exact odbcType_of_messageBytes first first' layout
    · exact .inr (not_or.mp fits)
  · rintro (⟨plain, whole⟩ | ⟨large, large'⟩) response
    · rw [coalesceForJsonRows_of_not whole, ExecutionEngine.encodeBuffer, plain,
        if_neg Bool.false_ne_true]
    · exact iff_of_false (fun encoded => large ⟨response, encoded⟩)
        fun encoded => large' ⟨response, encoded⟩

/-! ## Runs -/

/-- Every query of a run is answered on the cached connection as it is without a cache. -/
def AnsweredAlike (codecs : Codecs) (engine : ExecutionEngine) (reuse : Bool) :
    List (Database × List Char) → CachedConnection lru → Prop
  | [], _ => True
  | (database, sql) :: calls, conn =>
    (∀ buffer, Returns (database (engine.optimizedSql sql)) buffer →
      SameResponse (engine.executeQueryCached reuse database sql conn).1
        (engine.executeQueryInner codecs database sql)) ∧
      AnsweredAlike codecs engine reuse calls
        (engine.executeQueryCached reuse database sql conn).2

/-- On every run and whatever is in the cache, with the feature and without it: the answers are
the same exactly when every result that the driver returns is encoded alike. -/
theorem answered_alike_iff (codecs : Codecs) (engine : ExecutionEngine) (reuse : Bool)
    (calls : List (Database × List Char)) (conn : CachedConnection lru) :
    AnsweredAlike codecs engine reuse calls conn ↔
      ∀ call ∈ calls, ∀ buffer, Returns (call.1 (engine.optimizedSql call.2)) buffer →
        EncodedAlike codecs engine buffer := by
  induction calls generalizing conn with
  | nil => exact iff_of_true trivial (by rintro _ ⟨⟩)
  | cons call calls ih =>
      rw [AnsweredAlike, ih, List.forall_mem_cons]
      refine and_congr_left fun _ => forall_congr' fun buffer => imp_congr_right fun returns => ?_
      rw [executeQueryCached_eq returns, executeQueryInner_eq returns]
      exact sameResponse_iff (fetch_ne_json returns.fetched)

/-- A JSON document in two pieces. -/
def jsonDriver : Driver where
  prepared := .ok ()
  executed := .ok ()
  first :=
    { numResultCols := .ok 1
      rowCount := .ok (-1)
      colName := fun _ => .ok sqlServerForJsonColumnName
      colDataType := fun _ => .ok .other
      rows := [fun _ => .ok (some ⟨[0x5B], []⟩), fun _ => .ok (some ⟨[0x5D], []⟩)]
      fetched := .ok () }
  more := []
  ending := .noData

/-- The cached connection answers with the pieces, the engine with the document. -/
theorem json_in_pieces : ¬ ∀ (codecs : Codecs) (engine : ExecutionEngine)
    (calls : List (Database × List Char)),
      AnsweredAlike codecs engine true calls (CachedConnection.new (LruCache.ofList _)) := by
  intro claimed
  have alike := claimed ⟨fun _ data => .ok data, fun _ data => .ok data⟩ {}
    [(fun _ => jsonDriver, "SELECT 1 FOR JSON PATH".toList)]
  let pieces : RowBuffer := ⟨[⟨sqlServerForJsonColumnName, .varchar⟩], [[some [0x5B]], [some [0x5D]]]⟩
  have returns : Returns jsonDriver pieces := ⟨rfl, by decide⟩
  have same := alike.1 pieces returns
  rw [executeQueryCached_eq returns, executeQueryInner_eq returns] at same
  have document := (same (messageBytes pieces)).mp (by decide)
  revert document
  decide

end OdbcFast.Verification
