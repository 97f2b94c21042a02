import SymbolIndex.Store.Shape

/-! # Stores

A store keeps one table for each shape, a version number and a switch that forbids every change. A
row gets the number after the highest one in its table. Numbers are ascending in every table, as
rows are added at its end. The version is that of the schema a store is written for, and a store is
used only if it is the current one.
-/
namespace SymbolIndex

inductive StoreFault where
  | readOnly
  | notADatabase
  | noTable (s : Shape)
  | tableExists (s : Shape)
  deriving DecidableEq, Repr

def StoreFault.message : StoreFault → String
  | readOnly => "attempt to write a readonly database"
  | notADatabase => "file is not a database"
  | noTable _ => "no such table"
  | tableExists _ => "table already exists"

structure Entity where
  rowid : Int
  cells : List Cell
  deriving DecidableEq, Repr

structure Store where
  version : Int32
  queryOnly : Bool
  tables : List (Shape × List Entity)
  deriving Repr

namespace Store

def empty : Store := ⟨0, false, []⟩

def fresh : Store := ⟨0, false, Shape.all.map fun s => (s, [])⟩

/-- The store in a file of these bytes; a file counts as empty up to a single byte. -/
def ofFile (bytes : List UInt8) : Except StoreFault Store :=
  if bytes.length ≤ 1 then .ok empty else .error .notADatabase

def table? (store : Store) (s : Shape) : Option (List Entity) := store.tables.lookup s

def rows (store : Store) (s : Shape) : List Entity := (store.table? s).getD []

def nextRowid (rows : List Entity) : Int := (rows.map (·.rowid)).foldl max 0 + 1

def setRows (store : Store) (s : Shape) (rows : List Entity) : Store :=
  { store with tables := store.tables.map fun t => if t.1 = s then (s, rows) else t }

def createTable (store : Store) (s : Shape) : Except StoreFault Store :=
  if (store.table? s).isSome then .error (.tableExists s)
  else if store.queryOnly then .error .readOnly
  else .ok { store with tables := store.tables ++ [(s, [])] }

def insert (store : Store) (s : Shape) (cells : List Cell) : Except StoreFault (Int × Store) :=
  match store.table? s with
  | none => .error (.noTable s)
  | some rows =>
    if store.queryOnly then .error .readOnly
    else
      let rowid := nextRowid rows
      .ok (rowid, store.setRows s (rows ++ [⟨rowid, cells⟩]))

def delete (store : Store) (s : Shape) (rowid : Int) : Except StoreFault (Bool × Store) :=
  match store.table? s with
  | none => .error (.noTable s)
  | some rows =>
    if store.queryOnly then .error .readOnly
    else
      .ok (rows.any (·.rowid = rowid), store.setRows s (rows.filter fun e => e.rowid ≠ rowid))

def putVersion (store : Store) (version : Int32) : Except StoreFault Store :=
  if store.queryOnly then .error .readOnly else .ok { store with version }

def setQueryOnly (store : Store) (on : Bool) : Store := { store with queryOnly := on }

def select (store : Store) (s : Shape) : Logged (List (Except RowError s.Record)) :=
  (store.rows s).mapM fun e => (s.read (s.nameCells e.cells) 0).run

def join (store : Store) (s : Shape) :
    Logged (List (Except RowError (WithModuleInfo s.Record))) :=
  let pairs := (store.rows s).flatMap fun e => (store.rows .moduleInfo).map fun m => (e, m)
  pairs.mapM fun (e, m) =>
    ((ResultShape.plain s).withInfo.read
      (s.nameCells e.cells ++ Shape.moduleInfo.nameCells m.cells) 0).run

end Store

inductive SchemaError where
  | incompatible (expected got : Int32)
  | storage (fault : StoreFault)
  deriving DecidableEq, Repr

def SchemaError.message : SchemaError → String
  | incompatible expected got =>
    "Incompatible schema version: expected " ++ toString expected.toInt ++ ", got "
      ++ toString got.toInt
  | storage fault => fault.message

namespace Store

def schemaVersion : Int32 := 1

def setSchemaVersion (source : Except StoreFault Store) : Traced SchemaError Store := do
  Traced.emit (.versionSet schemaVersion)
  Traced.ofExcept ((source.bind (·.putVersion schemaVersion)).mapError .storage)

def checkSchemaVersion (source : Except StoreFault Store) : Traced SchemaError Unit := do
  let store ← Traced.ofExcept (source.mapError .storage)
  Traced.emit (.versionRead store.version)
  if store.version ≠ schemaVersion then
    Traced.emit (.versionDiffers schemaVersion store.version)
    throw (.incompatible schemaVersion store.version)

end Store

end SymbolIndex
