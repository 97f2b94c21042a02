import SymbolIndex.Fingerprint
import SymbolIndex.Log.Logged

/-! # Columns

What one column of a table holds, and how its values are written to a cell and read back. Identifier
columns are text only and report any other storage class; flags are stored as zero and one, paths as
text, and an optional value that is absent as a null.
-/
namespace SymbolIndex

inductive Scalar where
  | occName
  | moduleName
  | unitId
  | fingerprint
  | path
  | flag
  | int32
  | int64
  deriving DecidableEq, Repr

@[reducible] def Scalar.Value : Scalar → Type
  | occName => OccName
  | moduleName => ModuleName
  | unitId => UnitId
  | fingerprint => Fingerprint
  | path => Path
  | flag => Bool
  | int32 => Int32
  | int64 => Int64

inductive Kind where
  | required (s : Scalar)
  | optional (s : Scalar)
  deriving DecidableEq, Repr

@[reducible] def Kind.Value : Kind → Type
  | required s => s.Value
  | optional s => Option s.Value

inductive ConversionCause where
  | undecodable (error : DecodeError)
  | malformed (fault : Utf8.Fault)
  deriving DecidableEq, Repr

def ConversionCause.message : ConversionCause → String
  | undecodable error => error.message
  | malformed fault => fault.message

/-- Why a cell is no value of a column. -/
inductive CellFault where
  | conversion (cause : ConversionCause)
  | wrongClass
  | outOfRange (value : Int64)
  deriving DecidableEq, Repr

inductive EncodeError where
  | nonUtf8Path (path : Path)
  deriving DecidableEq, Repr

def EncodeError.message : EncodeError → String
  | nonUtf8Path path => "Path is not valid UTF-8: " ++ path.display

def decodeText (bytes : List UInt8) : Except CellFault String :=
  match Utf8.decode bytes with
  | .ok cs => .ok (String.ofList cs)
  | .error fault => .error (.conversion (.malformed fault))

def readIdentifier {α : Type} (what : String) (decode : String → Except DecodeError α) :
    Cell → Traced CellFault α
  | .text bytes =>
    match decodeText bytes with
    | .error fault => throw fault
    | .ok text =>
      match decode text with
      | .error error => throw (.conversion (.undecodable error))
      | .ok a => pure a
  | cell => do
    Traced.emit (.columnRejected cell.storageClass what)
    throw (.conversion (.undecodable (.expectedText what)))

def readPath : Cell → Except CellFault Path
  | .text bytes => (decodeText bytes).map Path.ofText
  | _ => .error .wrongClass

def readInt64 : Cell → Except CellFault Int64
  | .integer n => .ok n
  | _ => .error .wrongClass

def readFlag : Cell → Except CellFault Bool
  | .integer n => .ok (n != 0)
  | _ => .error .wrongClass

def readInt32 : Cell → Except CellFault Int32
  | .integer n =>
    if -2147483648 ≤ n.toInt ∧ n.toInt ≤ 2147483647 then .ok n.toInt32 else .error (.outOfRange n)
  | _ => .error .wrongClass

namespace Scalar

def read : (s : Scalar) → Cell → Traced CellFault s.Value
  | occName, cell => readIdentifier "an OccName" OccName.decode cell
  | moduleName, cell => readIdentifier "a ModuleName" (fun text => .ok ⟨text⟩) cell
  | unitId, cell => readIdentifier "a UnitId" (fun text => .ok ⟨text⟩) cell
  | fingerprint, cell => readIdentifier "a Fingerprint" Fingerprint.decode cell
  | path, cell => Traced.ofExcept (readPath cell)
  | flag, cell => Traced.ofExcept (readFlag cell)
  | int32, cell => Traced.ofExcept (readInt32 cell)
  | int64, cell => Traced.ofExcept (readInt64 cell)

def textCell (text : String) : Cell := .text (Utf8.encode text.toList)

def write : (s : Scalar) → s.Value → Except EncodeError Cell
  | occName, occ => .ok (textCell occ.encode)
  | moduleName, name => .ok (textCell name.text)
  | unitId, unit => .ok (textCell unit.text)
  | fingerprint, f => .ok (textCell f.encode)
  | path, p =>
    match Utf8.decode p.bytes with
    | .ok _ => .ok (.text p.bytes)
    | .error _ => .error (.nonUtf8Path p)
  | flag, b => .ok (.integer (if b then 1 else 0))
  | int32, n => .ok (.integer n.toInt64)
  | int64, n => .ok (.integer n)

/-- Paths are the same by their components, all else by its value. -/
def same : (s : Scalar) → s.Value → s.Value → Bool
  | occName, a, b => a = b
  | moduleName, a, b => a = b
  | unitId, a, b => a = b
  | fingerprint, a, b => a = b
  | path, a, b => a.same b
  | flag, a, b => a = b
  | int32, a, b => a = b
  | int64, a, b => a = b

end Scalar

namespace Kind

def read : (k : Kind) → Cell → Traced CellFault k.Value
  | required s, cell => s.read cell
  | optional _, .null => pure none
  | optional s, cell => some <$> s.read cell

def write : (k : Kind) → k.Value → Except EncodeError Cell
  | required s, a => s.write a
  | optional _, none => .ok .null
  | optional s, some a => s.write a

def same : (k : Kind) → k.Value → k.Value → Bool
  | required s, a, b => s.same a b
  | optional _, none, none => true
  | optional s, some a, some b => s.same a b
  | optional _, _, _ => false

end Kind

structure Column where
  name : String
  kind : Kind
  deriving DecidableEq, Repr

end SymbolIndex
