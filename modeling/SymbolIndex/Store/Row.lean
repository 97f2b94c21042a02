import SymbolIndex.Store.Column

/-! # Rows

A row is a list of named cells. The fields of a list of columns are read from consecutive cells,
from any position on, and the first cell that does not fit decides the error.
-/
namespace SymbolIndex

abbrev Row := List (String × Cell)

inductive RowError where
  | noColumn (index : Nat)
  | conversion (index : Nat) (found : StorageClass) (cause : ConversionCause)
  | wrongClass (index : Nat) (found : StorageClass) (name : String)
  | outOfRange (index : Nat) (value : Int64)
  deriving DecidableEq, Repr

namespace RowError

def message : RowError → String
  | noColumn index => "Invalid column index: " ++ toString index
  | conversion index found cause =>
    "Conversion error from type " ++ found.name ++ " at index: " ++ toString index ++ ", "
      ++ cause.message
  | wrongClass index found name =>
    "Invalid column type " ++ found.name ++ " at index: " ++ toString index ++ ", name: " ++ name
  | outOfRange index value =>
    "Integer " ++ toString value.toInt ++ " out of range at index " ++ toString index

def ofFault (index : Nat) (name : String) (found : StorageClass) : CellFault → RowError
  | .conversion cause => conversion index found cause
  | .wrongClass => wrongClass index found name
  | .outOfRange value => outOfRange index value

end RowError

@[reducible] def Fields : List Column → Type
  | [] => Unit
  | c :: cs => c.kind.Value × Fields cs

def readColumn (row : Row) (index : Nat) (k : Kind) : Traced RowError k.Value :=
  match row[index]? with
  | none => throw (.noColumn index)
  | some (name, cell) => (k.read cell).adapt (.ofFault index name cell.storageClass)

namespace Fields

def read (row : Row) : (cs : List Column) → (index : Nat) → Traced RowError (Fields cs)
  | [], _ => pure ()
  | c :: cs, index => do
    let a ← readColumn row index c.kind
    let as ← read row cs (index + 1)
    return (a, as)

def write : (cs : List Column) → Fields cs → Except EncodeError (List Cell)
  | [], _ => .ok []
  | c :: cs, (a, as) => do
    let cell ← c.kind.write a
    let cells ← write cs as
    return cell :: cells

def same : (cs : List Column) → Fields cs → Fields cs → Bool
  | [], _, _ => true
  | c :: cs, (a, as), (b, bs) => c.kind.same a b && same cs as bs

end Fields

end SymbolIndex
