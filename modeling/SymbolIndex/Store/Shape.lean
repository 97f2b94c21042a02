import SymbolIndex.Store.Record
import SymbolIndex.Store.Row

/-! # Shapes

The columns of each record, and the fields of a record in the order of its columns. Reading and
writing follow from these alone. A result shape is a record's, with the columns of the owning module
after it any number of times.
-/
namespace SymbolIndex

inductive Shape where
  | moduleInfo
  | moduleRow
  | refRow
  | declRow
  | defRow
  | typeName
  | typeRef
  | exportRow
  deriving DecidableEq, Repr

namespace Shape

def all : List Shape :=
  [moduleInfo, moduleRow, refRow, declRow, defRow, typeName, typeRef, exportRow]

@[reducible] def Record : Shape → Type
  | moduleInfo => ModuleInfo
  | moduleRow => ModuleRow
  | refRow => RefRow
  | declRow => DeclRow
  | defRow => DefRow
  | typeName => TypeName
  | typeRef => TypeRef
  | exportRow => ExportRow

def moduleInfoColumns : List Column :=
  [⟨"mod", .required .moduleName⟩, ⟨"unit", .required .unitId⟩, ⟨"is_boot", .required .flag⟩,
    ⟨"hs_src", .optional .path⟩, ⟨"is_real", .required .flag⟩, ⟨"hash", .required .fingerprint⟩]

def spanColumns : List Column :=
  [⟨"sl", .required .int32⟩, ⟨"sc", .required .int32⟩, ⟨"el", .required .int32⟩,
    ⟨"ec", .required .int32⟩]

def columns : Shape → List Column
  | moduleInfo => moduleInfoColumns
  | moduleRow => ⟨"hieFile", .required .path⟩ :: moduleInfoColumns
  | refRow =>
    [⟨"hieFile", .required .path⟩, ⟨"occ", .required .occName⟩, ⟨"mod", .required .moduleName⟩,
      ⟨"unit", .required .unitId⟩] ++ spanColumns
  | declRow =>
    [⟨"hieFile", .required .path⟩, ⟨"occ", .required .occName⟩] ++ spanColumns
      ++ [⟨"is_root", .required .flag⟩]
  | defRow => [⟨"hieFile", .required .path⟩, ⟨"occ", .required .occName⟩] ++ spanColumns
  | typeName =>
    [⟨"name", .required .occName⟩, ⟨"mod", .required .moduleName⟩, ⟨"unit", .required .unitId⟩]
  | typeRef =>
    [⟨"id", .required .int64⟩, ⟨"hieFile", .required .path⟩, ⟨"depth", .required .int32⟩]
      ++ spanColumns
  | exportRow =>
    [⟨"hieFile", .required .path⟩, ⟨"occ", .required .occName⟩, ⟨"mod", .required .moduleName⟩,
      ⟨"unit", .required .unitId⟩, ⟨"parent", .optional .occName⟩,
      ⟨"parentMod", .optional .moduleName⟩, ⟨"parentUnit", .optional .unitId⟩,
      ⟨"is_datacon", .required .flag⟩]

def width (s : Shape) : Nat := s.columns.length

def fields : (s : Shape) → s.Record → Fields s.columns
  | moduleInfo, r => (r.name, r.unit, r.isBoot, r.srcFile, r.isReal, r.hash, ())
  | moduleRow, r =>
    (r.hieFile, r.info.name, r.info.unit, r.info.isBoot, r.info.srcFile, r.info.isReal,
      r.info.hash, ())
  | refRow, r =>
    (r.src, r.name, r.module, r.unit, r.startLine, r.startCol, r.endLine, r.endCol, ())
  | declRow, r => (r.src, r.name, r.startLine, r.startCol, r.endLine, r.endCol, r.isRoot, ())
  | defRow, r => (r.src, r.name, r.startLine, r.startCol, r.endLine, r.endCol, ())
  | typeName, r => (r.name, r.module, r.unit, ())
  | typeRef, r =>
    (r.typeId, r.hieFile, r.depth, r.startLine, r.startCol, r.endLine, r.endCol, ())
  | exportRow, r =>
    (r.hieFile, r.name, r.module, r.unit, r.parent, r.parentModule, r.parentUnit, r.isDatacon, ())

def ofFields : (s : Shape) → Fields s.columns → s.Record
  | moduleInfo, (name, unit, isBoot, srcFile, isReal, hash, ()) =>
    ⟨name, unit, isBoot, srcFile, isReal, hash⟩
  | moduleRow, (hieFile, name, unit, isBoot, srcFile, isReal, hash, ()) =>
    ⟨hieFile, ⟨name, unit, isBoot, srcFile, isReal, hash⟩⟩
  | refRow, (src, name, module, unit, startLine, startCol, endLine, endCol, ()) =>
    ⟨src, name, module, unit, startLine, startCol, endLine, endCol⟩
  | declRow, (src, name, startLine, startCol, endLine, endCol, isRoot, ()) =>
    ⟨src, name, startLine, startCol, endLine, endCol, isRoot⟩
  | defRow, (src, name, startLine, startCol, endLine, endCol, ()) =>
    ⟨src, name, startLine, startCol, endLine, endCol⟩
  | typeName, (name, module, unit, ()) => ⟨name, module, unit⟩
  | typeRef, (typeId, hieFile, depth, startLine, startCol, endLine, endCol, ()) =>
    ⟨typeId, hieFile, depth, startLine, startCol, endLine, endCol⟩
  | exportRow, (hieFile, name, module, unit, parent, parentModule, parentUnit, isDatacon, ()) =>
    ⟨hieFile, name, module, unit, parent, parentModule, parentUnit, isDatacon⟩

@[simp] theorem ofFields_fields (s : Shape) (r : s.Record) : s.ofFields (s.fields r) = r := by
  cases s <;> rfl

@[simp] theorem fields_ofFields (s : Shape) (f : Fields s.columns) :
    s.fields (s.ofFields f) = f := by
  cases s <;> rfl

def read (s : Shape) (row : Row) (offset : Nat) : Traced RowError s.Record :=
  s.ofFields <$> Fields.read row s.columns offset

def write (s : Shape) (r : s.Record) : Except EncodeError (List Cell) :=
  Fields.write s.columns (s.fields r)

def same (s : Shape) (a b : s.Record) : Bool := Fields.same s.columns (s.fields a) (s.fields b)

def nameCells (s : Shape) (cells : List Cell) : Row := (s.columns.map (·.name)).zip cells

/-- The record with its own path replaced; a type name has none. -/
def withPath : (s : Shape) → s.Record → Path → s.Record
  | moduleInfo, r, p => { r with srcFile := some p }
  | moduleRow, r, p => { r with hieFile := p }
  | refRow, r, p => { r with src := p }
  | declRow, r, p => { r with src := p }
  | defRow, r, p => { r with src := p }
  | typeName, r, _ => r
  | typeRef, r, p => { r with hieFile := p }
  | exportRow, r, p => { r with hieFile := p }

def withSourceFile : (s : Shape) → s.Record → Path → s.Record
  | moduleRow, r, p => { r with info := { r.info with srcFile := some p } }
  | _, r, _ => r

end Shape

inductive ResultShape where
  | plain (s : Shape)
  | withInfo (entity : ResultShape)
  deriving DecidableEq, Repr

namespace ResultShape

@[reducible] def Record : ResultShape → Type
  | plain s => s.Record
  | withInfo entity => WithModuleInfo entity.Record

def columns : ResultShape → List Column
  | plain s => s.columns
  | withInfo entity => entity.columns ++ Shape.moduleInfo.columns

def width (s : ResultShape) : Nat := s.columns.length

def read : (s : ResultShape) → Row → (offset : Nat) → Traced RowError s.Record
  | plain s, row, offset => s.read row offset
  | withInfo e, row, offset => do
    let entity ← e.read row offset
    let info ← Shape.moduleInfo.read row (offset + e.width)
    return ⟨entity, info⟩

def write : (s : ResultShape) → s.Record → Except EncodeError (List Cell)
  | plain s, r => s.write r
  | withInfo e, r => do
    let cells ← e.write r.entity
    let infoCells ← Shape.moduleInfo.write r.info
    return cells ++ infoCells

end ResultShape

end SymbolIndex
