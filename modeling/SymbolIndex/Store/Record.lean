import SymbolIndex.Fingerprint
import SymbolIndex.Path

/-! # Cells and records

A stored value has one of five storage classes. Text is a list of bytes, which need not be UTF-8.

The index stores modules and the artifacts they come from, uses, declarations and definitions of
names, types and where they occur, and the names that modules export.
-/
namespace SymbolIndex

inductive StorageClass where
  | null
  | integer
  | real
  | text
  | blob
  deriving DecidableEq, Repr

def StorageClass.name : StorageClass → String
  | null => "Null"
  | integer => "Integer"
  | real => "Real"
  | text => "Text"
  | blob => "Blob"

inductive Cell where
  | null
  | integer (value : Int64)
  /-- A binary64 number by its bits. -/
  | real (bits : UInt64)
  | text (bytes : List UInt8)
  | blob (bytes : List UInt8)
  deriving DecidableEq, Repr

def Cell.storageClass : Cell → StorageClass
  | null => .null
  | integer _ => .integer
  | real _ => .real
  | text _ => .text
  | blob _ => .blob

/-- The store keeps no NaN; it holds a null in its place. -/
def Cell.ofReal (x : Float) : Cell := if x.isNaN then null else real x.toBits

structure ModuleInfo where
  name : ModuleName
  unit : UnitId
  isBoot : Bool
  srcFile : Option Path
  isReal : Bool
  hash : Fingerprint
  deriving DecidableEq, Repr

structure ModuleRow where
  hieFile : Path
  info : ModuleInfo
  deriving DecidableEq, Repr

structure RefRow where
  src : Path
  name : OccName
  module : ModuleName
  unit : UnitId
  startLine : Int32
  startCol : Int32
  endLine : Int32
  endCol : Int32
  deriving DecidableEq, Repr

/-- A declaration; `isRoot` marks those at the top level. -/
structure DeclRow where
  src : Path
  name : OccName
  startLine : Int32
  startCol : Int32
  endLine : Int32
  endCol : Int32
  isRoot : Bool
  deriving DecidableEq, Repr

structure DefRow where
  src : Path
  name : OccName
  startLine : Int32
  startCol : Int32
  endLine : Int32
  endCol : Int32
  deriving DecidableEq, Repr

structure TypeName where
  name : OccName
  module : ModuleName
  unit : UnitId
  deriving DecidableEq, Repr

/-- An occurrence of the type whose row is `typeId`; `depth` is 0 for an outermost type. -/
structure TypeRef where
  typeId : Int64
  hieFile : Path
  depth : Int32
  startLine : Int32
  startCol : Int32
  endLine : Int32
  endCol : Int32
  deriving DecidableEq, Repr

structure ExportRow where
  hieFile : Path
  name : OccName
  module : ModuleName
  unit : UnitId
  parent : Option OccName
  parentModule : Option ModuleName
  parentUnit : Option UnitId
  isDatacon : Bool
  deriving DecidableEq, Repr

structure WithModuleInfo (α : Type) where
  entity : α
  info : ModuleInfo
  deriving DecidableEq, Repr

end SymbolIndex
