import SymbolIndex.Text.Hexadecimal
import SymbolIndex.Text.Scalars

/-! # Identifiers

Names as a compiler qualifies them: an occurrence in one of four name spaces, the module that
defines it and the unit that owns the module. Identifiers are ordered field by field, texts by
code points, name spaces as they are listed here. A resolved name is an identifier with the number
that stands for it in one cache.

Messages quote a text that is no identifier: each scalar is shown as itself or as one escape that
depends on that scalar alone.
-/
namespace SymbolIndex.Quoted

open Text (isUnprintable)

def escape (c : Char) : List Char :=
  if c = '\x22' ∨ c = '\\' then ['\\', c]
  else if c = '\x00' then ['\\', '0']
  else if c = '\t' then ['\\', 't']
  else if c = '\r' then ['\\', 'r']
  else if c = '\n' then ['\\', 'n']
  else if isUnprintable c then ['\\', 'u', '\x7b'] ++ Nat.toDigits 16 c.toNat ++ ['\x7d']
  else [c]

def quote (text : String) : String :=
  String.ofList ('\x22' :: text.toList.flatMap escape ++ ['\x22'])

end SymbolIndex.Quoted

namespace SymbolIndex

inductive DecodeError where
  | invalidOccName (encoded : String)
  | expectedText (what : String)
  | invalidFingerprint (text reason : String)
  | invalidSymbol (key reason : String)
  deriving DecidableEq, Repr

def DecodeError.message : DecodeError → String
  | .invalidOccName encoded => "OccName encoding invalid: " ++ Quoted.quote encoded
  | .expectedText what => "Expected a SQL string representing " ++ what
  | .invalidFingerprint text reason =>
    "Fingerprint encoding invalid: " ++ Quoted.quote text ++ " (" ++ reason ++ ")"
  | .invalidSymbol key reason =>
    "Symbol key invalid: " ++ Quoted.quote key ++ " (" ++ reason ++ ")"

inductive NameSpace where
  | value
  | constructor
  | typeOrClass
  | typeVariable
  deriving DecidableEq, Repr

namespace NameSpace

def all : List NameSpace := [value, constructor, typeOrClass, typeVariable]

def tag : NameSpace → Char
  | value => 'v'
  | constructor => 'c'
  | typeOrClass => 't'
  | typeVariable => 'z'

def ofTag? (c : Char) : Option NameSpace :=
  if c = 'v' then some value
  else if c = 'c' then some constructor
  else if c = 't' then some typeOrClass
  else if c = 'z' then some typeVariable
  else none

def rank : NameSpace → Nat
  | value => 0
  | constructor => 1
  | typeOrClass => 2
  | typeVariable => 3

instance : Ord NameSpace := ⟨compareOn rank⟩

@[simp] theorem ofTag?_tag (space : NameSpace) : ofTag? space.tag = some space := by
  cases space <;> rfl

theorem ofTag?_eq_some_iff {c : Char} {space : NameSpace} :
    ofTag? c = some space ↔ c = space.tag := by
  constructor
  · intro h
    simp only [ofTag?] at h
    repeat' split at h
    all_goals simp_all
    all_goals (subst h; rfl)
  · rintro rfl
    exact ofTag?_tag space

end NameSpace

structure OccName where
  space : NameSpace
  name : String
  deriving DecidableEq, Repr

structure ModuleName where
  text : String
  deriving DecidableEq, Repr

structure UnitId where
  text : String
  deriving DecidableEq, Repr

structure Module where
  name : ModuleName
  unit : UnitId
  deriving DecidableEq, Repr

namespace OccName

instance : Ord OccName := ⟨compareLex (compareOn (·.space)) (compareOn (·.name.toList))⟩

def encode (occ : OccName) : String := String.ofList (occ.space.tag :: occ.name.toList)

/-- The name after the tag may be empty. -/
def decode (encoded : String) : Except DecodeError OccName :=
  match encoded.toList with
  | [] => .error (.invalidOccName encoded)
  | c :: cs =>
    match NameSpace.ofTag? c with
    | none => .error (.invalidOccName encoded)
    | some space => .ok ⟨space, String.ofList cs⟩

end OccName

instance : Ord ModuleName := ⟨compareOn (·.text.toList)⟩

instance : Ord UnitId := ⟨compareOn (·.text.toList)⟩

namespace Module

instance : Ord Module := ⟨compareLex (compareOn (·.name)) (compareOn (·.unit))⟩

def display (m : Module) : String := m.unit.text ++ ":" ++ m.name.text

end Module

/-- Items that compare equal keep their order. -/
def sort {α : Type} [Ord α] (items : List α) : List α :=
  items.mergeSort fun a b => (compare a b).isLE

structure Unique where
  value : UInt64
  deriving DecidableEq, Repr

namespace Unique

def toNat (u : Unique) : Nat := u.value.toNat

instance : Coe Unique Nat := ⟨toNat⟩

end Unique

structure Name where
  unique : Unique
  occ : OccName
  module : Module
  deriving DecidableEq, Repr

namespace Name

def display (n : Name) : String := n.module.name.text ++ "." ++ n.occ.name

end Name

end SymbolIndex
