import OdbcFast.Native.Engine.ParallelInsert

/-!
# Holders of a pooled connection

One connection of a pool through any number of hands. A holder makes the calls he likes and
releases the connection, or drops it as it is; a chunk of a parallel insert gets it, inserts
its rows and has given it back when it answers. A connection that the pool has closed is
replaced by a new one.
-/

namespace OdbcFast.Native

open Wire

namespace PoolHolders

variable {W : Type}

inductive Event (W : Type) where
  | connect
  | get (testOnCheckOut : Bool)
  | call (call : SessionCall W)
  /-- `odbc_pool_release_connection`, or `odbc_pool_close` for this connection. -/
  | release
  | drop
  | chunk (mode : ParallelMode) (testOnCheckOut : Bool) (sql : Except OdbcError String)
      (fill : Except OdbcError Unit) (paramsetSize : Nat) (rows : List W)

/-- What a chunk has answered. -/
abbrev Output := Option (Except OdbcError Nat)

variable (driver : SessionDriver W)

/-- The connection that a chunk has got is the one it works with. -/
def chunk (mode : ParallelMode) (insert : Fallible (Session W) OdbcError Nat)
    (got : Pool.Entry W) : Pool.Entry W × Output :=
  match got.place with
  | .held =>
    let (result, entry) := runChunk driver mode insert got.session
    (entry, some result)
  | _ => (got, none)

def step : Event W → Pool.Entry W → Option (Pool.Entry W × Output)
  | .connect, entry =>
    if entry.place = .closed then some (Pool.connect driver entry.session.history, none) else none
  | .get tested, entry =>
    if entry.place = .idle then some (Pool.get driver tested entry.session, none) else none
  | .call call, entry =>
    if entry.place = .held then
      some ({ entry with session := entry.session.after driver call }, none)
    else none
  | .release, entry =>
    if entry.place = .held then some (Pool.release driver entry.session, none) else none
  | .drop, entry =>
    if entry.place = .held then some (Pool.putBack driver entry.session, none) else none
  | .chunk mode tested sql fill paramsetSize rows, entry =>
    if entry.place = .idle then
      some (chunk driver mode (ArrayBinding.insertRows driver sql fill paramsetSize rows)
        (Pool.get driver tested entry.session))
    else none

end PoolHolders

end OdbcFast.Native
