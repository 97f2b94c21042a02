import SymbolIndex.Proofs.Store.Fields
import SymbolIndex.Store.Shape

/-! # Shapes as lists of columns

A result shape, with the columns of its owning modules, is read and written like any list of
columns, so what holds of columns in a row holds of every shape.
-/
namespace SymbolIndex

def Shape.paths : (s : Shape) → s.Record → List Path
  | moduleInfo, r => r.srcFile.toList
  | moduleRow, r => r.hieFile :: r.info.srcFile.toList
  | refRow, r => [r.src]
  | declRow, r => [r.src]
  | defRow, r => [r.src]
  | typeName, _ => []
  | typeRef, r => [r.hieFile]
  | exportRow, r => [r.hieFile]

theorem Shape.paths_fields (s : Shape) (r : s.Record) :
    Fields.paths s.columns (s.fields r) = s.paths r := by
  cases s with
  | moduleInfo =>
    obtain ⟨name, unit, isBoot, _ | p, isReal, hash⟩ := r <;> rfl
  | moduleRow =>
    obtain ⟨hieFile, name, unit, isBoot, _ | p, isReal, hash⟩ := r <;> rfl
  | exportRow =>
    obtain ⟨hieFile, name, module, unit, _ | parent, _ | parentModule, _ | parentUnit,
      isDatacon⟩ := r <;> rfl
  | _ => rfl

namespace ResultShape

def paths : (t : ResultShape) → t.Record → List Path
  | plain s, r => s.paths r
  | withInfo e, r => e.paths r.entity ++ Shape.moduleInfo.paths r.info

def fields : (t : ResultShape) → t.Record → Fields t.columns
  | plain s, r => s.fields r
  | withInfo e, r => Fields.append e.columns (e.fields r.entity) (Shape.moduleInfo.fields r.info)

def ofFields : (t : ResultShape) → Fields t.columns → t.Record
  | plain s, f => s.ofFields f
  | withInfo e, f =>
    ⟨e.ofFields (Fields.first e.columns f), Shape.moduleInfo.ofFields (Fields.second e.columns f)⟩

@[simp] theorem ofFields_fields (t : ResultShape) (r : t.Record) : t.ofFields (t.fields r) = r := by
  induction t with
  | plain s => exact s.ofFields_fields r
  | withInfo e ih => simp [ofFields, fields, ih]

@[simp] theorem fields_ofFields (t : ResultShape) (f : Fields t.columns) :
    t.fields (t.ofFields f) = f := by
  induction t with
  | plain s => exact s.fields_ofFields f
  | withInfo e ih =>
    simp only [ofFields, fields, ih, Shape.fields_ofFields]
    exact Fields.append_first_second f

theorem paths_fields (t : ResultShape) (r : t.Record) :
    Fields.paths t.columns (t.fields r) = t.paths r := by
  induction t with
  | plain s => exact s.paths_fields r
  | withInfo e ih =>
    rw [paths, ← ih r.entity, ← Shape.paths_fields]
    exact Fields.paths_append _ _

theorem read_eq (t : ResultShape) (row : Row) (offset : Nat) :
    t.read row offset = t.ofFields <$> Fields.read row t.columns offset := by
  induction t generalizing offset with
  | plain s => rfl
  | withInfo e ih =>
    have hmap := Fields.map_read_append row e.columns Shape.moduleInfo.columns offset
      e.withInfo.ofFields
    simp only [ofFields, Fields.first_append, Fields.second_append] at hmap
    rw [read, ih, bind_map_left]
    simp only [Shape.read, bind_map_left]
    exact hmap.symm

theorem write_eq (t : ResultShape) (r : t.Record) :
    t.write r = Fields.write t.columns (t.fields r) := by
  induction t with
  | plain s => rfl
  | withInfo e ih =>
    rw [write, ih]
    exact (Fields.write_append e.columns _ _).symm

end ResultShape

end SymbolIndex
