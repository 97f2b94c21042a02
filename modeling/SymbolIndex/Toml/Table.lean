import SymbolIndex.Json.Basic

/-! # Tables of a TOML document

A document fills a tree of tables. A table comes to be by its header, on the way to a longer header,
or by a dotted key, and this decides who may add to it: headers may pass through any table but open
only one that was passed through before, and dotted keys add only to tables that dotted keys made.
A value is closed, and so is a table written as a value.
-/
namespace SymbolIndex.Toml

inductive Origin where
  | header
  | passing
  | dotted
  deriving DecidableEq, Repr

inductive Item where
  | value (v : Json)
  | table (origin : Origin) (members : List (String × Item))
  | tables (elements : List (List (String × Item)))

abbrev Table := List (String × Item)

mutual

def Item.toJson : Item → Json
  | .value v => v
  | .table _ members => .object (membersToJson members)
  | .tables elements => .array (elementsToJson elements)

def membersToJson : List (String × Item) → List (String × Json)
  | [] => []
  | (key, item) :: rest => (key, item.toJson) :: membersToJson rest

def elementsToJson : List (List (String × Item)) → List Json
  | [] => []
  | members :: rest => .object (membersToJson members) :: elementsToJson rest

end

def Table.put (t : Table) (key : String) (item : Item) : Table :=
  if t.any (·.1 = key) then t.map fun entry => if entry.1 = key then (key, item) else entry
  else t ++ [(key, item)]

def changeLast (f : Table → Option Table) (elements : List Table) : Option (List Table) := do
  let last ← elements.getLast?
  return elements.dropLast ++ [← f last]

/-- Changes the table that the keys of a header lead to, and makes those on the way. The last table
of an array stands for the array. -/
def changeAt (f : Table → Option Table) : List String → Table → Option Table
  | [], t => f t
  | key :: keys, t =>
    match t.lookup key with
    | none => do return t.put key (.table .passing (← changeAt f keys []))
    | some (.value _) => none
    | some (.table origin members) => do
      return t.put key (.table origin (← changeAt f keys members))
    | some (.tables elements) => do
      return t.put key (.tables (← changeLast (changeAt f keys) elements))

def openTable (key : String) (t : Table) : Option Table :=
  match t.lookup key with
  | none => some (t.put key (.table .header []))
  | some (.table .passing members) => some (t.put key (.table .header members))
  | some _ => none

def openElement (key : String) (t : Table) : Option Table :=
  match t.lookup key with
  | none => some (t.put key (.tables [[]]))
  | some (.tables elements) => some (t.put key (.tables (elements ++ [[]])))
  | some _ => none

/-- Adds a value under a dotted key, of which `keys` come before the last. -/
def addValue (v : Json) (last : String) : (keys : List String) → Table → Option Table
  | [], t => if t.any (·.1 = last) then none else some (t.put last (.value v))
  | key :: keys, t =>
    match t.lookup key with
    | none => do return t.put key (.table .dotted (← addValue v last keys []))
    | some (.value _) => none
    | some (.table .header _) => none
    | some (.table .passing members) =>
      if keys = [] then none
      else do return t.put key (.table .passing (← addValue v last keys members))
    | some (.table .dotted members) => do
      return t.put key (.table .dotted (← addValue v last keys members))
    | some (.tables elements) =>
      if keys = [] then none
      else do return t.put key (.tables (← changeLast (addValue v last keys) elements))

def addAt (path : List String) (v : Json) (t : Table) : Option Table :=
  match path.getLast? with
  | none => none
  | some last => addValue v last path.dropLast t

end SymbolIndex.Toml
