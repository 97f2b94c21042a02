import SymbolIndex.Store.Shape
import SymbolIndex.Symbol

/-! # Look-ups

What a query is about: an artifact by its path, or a module by name, perhaps pinned to a unit. And
what it can fail with once everything it reads has been decoded; an ambiguous unit always comes
with at least one candidate.
-/
namespace SymbolIndex

inductive Target where
  | file (path : Path)
  | module (name : ModuleName) (unit : Option UnitId)
  deriving DecidableEq, Repr

namespace Target

def same : Target → Target → Bool
  | file p, file q => p.same q
  | module m u, module n v => m = n ∧ u = v
  | _, _ => false

end Target

structure UnitCandidates where
  first : ModuleInfo
  others : List ModuleInfo
  deriving DecidableEq, Repr

namespace UnitCandidates

def ofList? : List ModuleInfo → Option UnitCandidates
  | [] => none
  | first :: others => some ⟨first, others⟩

def toList (c : UnitCandidates) : List ModuleInfo := c.first :: c.others

def same (c d : UnitCandidates) : Bool :=
  c.toList.length = d.toList.length
    && (c.toList.zip d.toList).all fun (a, b) => Shape.moduleInfo.same a b

def display (c : UnitCandidates) : String :=
  String.intercalate ", " (c.toList.map fun info => info.unit.text)

end UnitCandidates

inductive LookupError where
  | notIndexed (module : ModuleName) (unit : Option UnitId)
  | ambiguousUnit (candidates : UnitCandidates)
  | nameNotFound (name : OccName) (module : Option ModuleName) (unit : Option UnitId)
  | unhelpfulSpan (symbol : Symbol) (reason : String)
  deriving DecidableEq, Repr

namespace LookupError

def ambiguous? (candidates : List ModuleInfo) : Option LookupError :=
  (UnitCandidates.ofList? candidates).map ambiguousUnit

def unitSuffix : Option UnitId → String
  | none => ""
  | some unit => " (" ++ unit.text ++ ")"

def moduleSuffix : Option ModuleName → Option UnitId → String
  | none, _ => ""
  | some module, unit => " from module " ++ module.text ++ unitSuffix unit

def message : LookupError → String
  | notIndexed module unit => "Module " ++ module.text ++ unitSuffix unit ++ " not indexed"
  | ambiguousUnit candidates =>
    "Unit could not be inferred for module " ++ candidates.first.name.text ++ "; pick one of: "
      ++ candidates.display
  | nameNotFound name module unit =>
    "Couldn't find name: " ++ name.name ++ moduleSuffix module unit
  | unhelpfulSpan symbol reason => "Got no helpful span for: " ++ symbol.key ++ ": " ++ reason

def same : LookupError → LookupError → Bool
  | ambiguousUnit c, ambiguousUnit d => c.same d
  | a, b => a = b

end LookupError

end SymbolIndex
