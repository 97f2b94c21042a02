import SymbolIndex.Log.Logged
import SymbolIndex.Text.Split

/-! # Symbol keys

A symbol is an occurrence with the module that defines it. Its key has four fields between colons,
`tag:name:module:unit`, and nothing is escaped, so a field that is empty or holds a colon cannot be
read back: such a key is refused and reported, never taken for another symbol.
-/
namespace SymbolIndex

structure Symbol where
  name : OccName
  module : Module
  deriving DecidableEq, Repr

/-- Why a text is not a key, in the order in which the faults are looked for. -/
inductive KeyFault where
  | fewFields
  | manyFields
  | longTag
  | unknownTag
  | emptyName
  | emptyModule
  | emptyUnit
  deriving DecidableEq, Repr

def KeyFault.reason : KeyFault → String
  | fewFields => "expected four colon separated fields"
  | manyFields => "trailing input after the unit field"
  | longTag => "namespace must be a single character"
  | unknownTag => "unknown namespace"
  | emptyName => "empty name"
  | emptyModule => "empty module"
  | emptyUnit => "empty unit"

namespace Symbol

instance : Ord Symbol := ⟨compareLex (compareOn (·.name)) (compareOn (·.module))⟩

def ofParts (space : NameSpace) (name module unit : String) : Symbol :=
  ⟨⟨space, name⟩, ⟨⟨module⟩, ⟨unit⟩⟩⟩

def keyChars (s : Symbol) : List Char :=
  s.name.space.tag :: ':' :: s.name.name.toList
    ++ ':' :: s.module.name.text.toList ++ ':' :: s.module.unit.text.toList

def key (s : Symbol) : String := String.ofList s.keyChars

def ofFields (tag name module unit : List Char) : Except KeyFault Symbol :=
  match tag with
  | [c] =>
    match NameSpace.ofTag? c with
    | none => .error .unknownTag
    | some space =>
      if name = [] then .error .emptyName
      else if module = [] then .error .emptyModule
      else if unit = [] then .error .emptyUnit
      else .ok (ofParts space (String.ofList name) (String.ofList module) (String.ofList unit))
  | _ => .error .longTag

def ofKeyChars (cs : List Char) : Except KeyFault Symbol :=
  match Text.split ':' cs with
  | [tag, name, module, unit] => ofFields tag name module unit
  | fields => if fields.length < 4 then .error .fewFields else .error .manyFields

def ofKey (key : String) : Except KeyFault Symbol := ofKeyChars key.toList

def parse (key : String) : Traced DecodeError Symbol :=
  match ofKey key with
  | .ok s => pure s
  | .error fault => do
    Traced.emit (.keyRejected key fault.reason)
    throw (.invalidSymbol key fault.reason)

end Symbol

def Name.toSymbol (n : Name) : Symbol := ⟨n.occ, n.module⟩

end SymbolIndex
