import SymbolIndex.Json.Members
import SymbolIndex.Lookup
import SymbolIndex.Store.Shape
import SymbolIndex.Symbol

/-! # Identifiers and records as trees

Fingerprints and symbols are their texts, paths are text, and an absent value is a null or is left
out. The members of a record stand in the order of its declaration.
-/
namespace SymbolIndex

def NameSpace.name : NameSpace → String
  | value => "value"
  | constructor => "constructor"
  | typeOrClass => "type_or_class"
  | typeVariable => "type_variable"

def NameSpace.ofName? (name : String) : Option NameSpace :=
  all.find? fun space => space.name = name

def Member.required {α : Type} (key : String) (codec : JsonCodec α) : Member α :=
  ⟨key, codec, none⟩

/-- A member that is absent if it is a null or is not there. -/
def Member.optional {α : Type} (key : String) (codec : JsonCodec α) : Member (Option α) :=
  ⟨key, codec.optional, some none⟩

namespace JsonCodec

def nameSpace : JsonCodec NameSpace := choice NameSpace.name NameSpace.ofName?

def moduleName : JsonCodec ModuleName := wrapped (·.text) (⟨·⟩)

def unitId : JsonCodec UnitId := wrapped (·.text) (⟨·⟩)

/-- A path that is no text has no tree. -/
def path : JsonCodec Path :=
  { wrapped Path.display Path.ofText with takes := fun p => (Utf8.decode p.bytes).isOk }

def fingerprint : JsonCodec Fingerprint := decoded Fingerprint.encode Fingerprint.decode

def symbol : JsonCodec Symbol :=
  decoded Symbol.key fun key => (Symbol.ofKey key).mapError fun fault =>
    .invalidSymbol key fault.reason

def occName : JsonCodec OccName :=
  structured (.cons (.required "namespace" nameSpace) (.cons (.required "name" text) .nil))
    (fun o => (o.space, o.name, ())) (fun (space, name, ()) => ⟨space, name⟩) .exact

def module : JsonCodec Module :=
  structured (.cons (.required "name" moduleName) (.cons (.required "unit" unitId) .nil))
    (fun m => (m.name, m.unit, ())) (fun (name, unit, ()) => ⟨name, unit⟩) .exact

def moduleInfo : JsonCodec ModuleInfo :=
  structured
    (.cons (.required "name" moduleName) <|
      .cons (.required "unit" unitId) <|
      .cons (.required "is_boot" flag) <|
      .cons (.optional "src_file" path) <|
      .cons (.required "is_real" flag) <|
      .cons (.required "hash" fingerprint) .nil)
    (Shape.fields .moduleInfo) (Shape.ofFields .moduleInfo) .exact

def moduleRow : JsonCodec ModuleRow :=
  structured (.cons (.required "hie_file" path) (.cons (.required "info" moduleInfo) .nil))
    (fun r => (r.hieFile, r.info, ())) (fun (hieFile, info, ()) => ⟨hieFile, info⟩) .exact

def spanMembers {αs : List Type} (rest : Members αs) :
    Members (Int32 :: Int32 :: Int32 :: Int32 :: αs) :=
  .cons (.required "start_line" int32) <|
    .cons (.required "start_col" int32) <|
    .cons (.required "end_line" int32) <|
    .cons (.required "end_col" int32) rest

def refRow : JsonCodec RefRow :=
  structured
    (.cons (.required "src" path) <|
      .cons (.required "name" occName) <|
      .cons (.required "module" moduleName) <|
      .cons (.required "unit" unitId) <|
      spanMembers .nil)
    (Shape.fields .refRow) (Shape.ofFields .refRow) .exact

def declRow : JsonCodec DeclRow :=
  structured
    (.cons (.required "src" path) <|
      .cons (.required "name" occName) <|
      spanMembers <|
      .cons (.required "is_root" flag) .nil)
    (Shape.fields .declRow) (Shape.ofFields .declRow) .exact

def defRow : JsonCodec DefRow :=
  structured
    (.cons (.required "src" path) <|
      .cons (.required "name" occName) <|
      spanMembers .nil)
    (Shape.fields .defRow) (Shape.ofFields .defRow) .exact

def typeName : JsonCodec TypeName :=
  structured
    (.cons (.required "name" occName) <|
      .cons (.required "module" moduleName) <|
      .cons (.required "unit" unitId) .nil)
    (Shape.fields .typeName) (Shape.ofFields .typeName) .exact

def typeRef : JsonCodec TypeRef :=
  structured
    (.cons (.required "type_id" int64) <|
      .cons (.required "hie_file" path) <|
      .cons (.required "depth" int32) <|
      spanMembers .nil)
    (Shape.fields .typeRef) (Shape.ofFields .typeRef) .exact

def exportRow : JsonCodec ExportRow :=
  structured
    (.cons (.required "hie_file" path) <|
      .cons (.required "name" occName) <|
      .cons (.required "module" moduleName) <|
      .cons (.required "unit" unitId) <|
      .cons (.optional "parent" occName) <|
      .cons (.optional "parent_module" moduleName) <|
      .cons (.optional "parent_unit" unitId) <|
      .cons (.required "is_datacon" flag) .nil)
    (Shape.fields .exportRow) (Shape.ofFields .exportRow) .exact

def record : (s : Shape) → JsonCodec s.Record
  | .moduleInfo => moduleInfo
  | .moduleRow => moduleRow
  | .refRow => refRow
  | .declRow => declRow
  | .defRow => defRow
  | .typeName => typeName
  | .typeRef => typeRef
  | .exportRow => exportRow

def withModuleInfo {α : Type} (entity : JsonCodec α) : JsonCodec (WithModuleInfo α) :=
  structured (.cons (.required "entity" entity) (.cons (.required "info" moduleInfo) .nil))
    (fun r => (r.entity, r.info, ())) (fun (entity, info, ()) => ⟨entity, info⟩) .exact

/-- An object with one key, which tells the kind; a module is a list of its name and its unit, which
may be null but not left out. -/
def target : JsonCodec Target where
  takes
    | .file p => path.takes p
    | .module .. => true
  write
    | .file p => .object [("File", path.write p)]
    | .module name unit =>
      .object [("Module", .array [moduleName.write name, unitId.optional.write unit])]
  read
    | .object [("File", j)] => (path.read j).map .file
    | .object [("Module", .array [name, unit])] => do
      let name ← moduleName.read name
      let unit ← unitId.optional.read unit
      return .module name unit
    | _ => .error .mismatch

end JsonCodec

end SymbolIndex
