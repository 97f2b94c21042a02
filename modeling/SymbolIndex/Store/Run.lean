import SymbolIndex.Store.Basic

/-! # Runs of a store

A run is a list of steps. A step that fails leaves the store as it was, and the run goes on.
-/
namespace SymbolIndex

inductive StoreStep where
  | createTable (s : Shape)
  | insertRecord (s : Shape) (r : s.Record)
  | insertCells (s : Shape) (cells : List Cell)
  | delete (s : Shape) (rowid : Int)
  | select (s : Shape)
  | join (s : Shape)
  | setVersion
  | checkVersion
  | putVersion (version : Int32)
  | getVersion
  | queryOnly (on : Bool)

inductive StoreAnswer where
  | done
  | rowid (n : Int)
  | deleted (found : Bool)
  | rows (s : Shape) (results : List (Except RowError s.Record))
  | joined (s : Shape) (results : List (Except RowError (WithModuleInfo s.Record)))
  | version (got : Int32)
  | refused (error : EncodeError)
  | failed (fault : StoreFault)
  | rejected (error : SchemaError)

namespace Store

def insertAnswer (store : Store) (s : Shape) (cells : List Cell) : StoreAnswer × Store :=
  match store.insert s cells with
  | .ok (rowid, next) => (.rowid rowid, next)
  | .error fault => (.failed fault, store)

def step (store : Store) : StoreStep → Logged (StoreAnswer × Store)
  | .createTable s =>
    match store.createTable s with
    | .ok next => pure (.done, next)
    | .error fault => pure (.failed fault, store)
  | .insertRecord s r =>
    match s.write r with
    | .ok cells => pure (store.insertAnswer s cells)
    | .error error => pure (.refused error, store)
  | .insertCells s cells => pure (store.insertAnswer s cells)
  | .delete s rowid =>
    match store.delete s rowid with
    | .ok (found, next) => pure (.deleted found, next)
    | .error fault => pure (.failed fault, store)
  | .select s => do return (.rows s (← store.select s), store)
  | .join s => do return (.joined s (← store.join s), store)
  | .setVersion => do
    match ← (setSchemaVersion (.ok store)).run with
    | .ok next => return (.done, next)
    | .error error => return (.rejected error, store)
  | .checkVersion => do
    match ← (checkSchemaVersion (.ok store)).run with
    | .ok () => return (.done, store)
    | .error error => return (.rejected error, store)
  | .putVersion version =>
    match store.putVersion version with
    | .ok next => pure (.done, next)
    | .error fault => pure (.failed fault, store)
  | .getVersion => pure (.version store.version, store)
  | .queryOnly on => pure (.done, store.setQueryOnly on)

def run (store : Store) : List StoreStep → Logged (List StoreAnswer × Store)
  | [] => pure ([], store)
  | step :: steps => do
    let (answer, next) ← store.step step
    let (answers, last) ← next.run steps
    return (answer :: answers, last)

end Store

end SymbolIndex
