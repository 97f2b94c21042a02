import SymbolIndex.Symbol

/-! # The name cache

A cache gives each pair of a module and an occurrence a number of its own, counted from zero in the
order of first sight. Names are kept by module, then by occurrence. The count is a word of 64 bits,
so the name after the last number would get zero again.
-/
namespace SymbolIndex

structure NameCache where
  modules : List (Module × List (OccName × Name))
  allocated : UInt64
  deriving DecidableEq, Repr

namespace NameCache

def empty : NameCache := ⟨[], 0⟩

/-- Room for modules is made ahead; what the cache holds does not depend on it. -/
def withCapacity (_modules : UInt64) : NameCache := empty

def lookup? (c : NameCache) (m : Module) (o : OccName) : Option Name :=
  (c.modules.lookup m).bind (·.lookup o)

def addTo (m : Module) (n : Name) :
    List (Module × List (OccName × Name)) → List (Module × List (OccName × Name))
  | [] => [(m, [(n.occ, n)])]
  | (m', names) :: rest =>
    if m' = m then (m', names ++ [(n.occ, n)]) :: rest else (m', names) :: addTo m n rest

def add (c : NameCache) (n : Name) : NameCache := ⟨addTo n.module n c.modules, c.allocated + 1⟩

def lookupOrInsert (c : NameCache) (m : Module) (o : OccName) : Logged (Name × NameCache) :=
  match c.lookup? m o with
  | some n => pure (n, c)
  | none => do
    let n : Name := ⟨⟨c.allocated⟩, o, m⟩
    Logged.emit (.nameAdded n)
    return (n, c.add n)

def size (c : NameCache) : Nat := c.modules.foldr (fun entry n => entry.2.length + n) 0

def isEmpty (c : NameCache) : Bool := c.modules.all fun entry => entry.2.isEmpty

inductive Query where
  | lookup (m : Module) (o : OccName)
  | size
  | isEmpty
  | allocated
  deriving DecidableEq, Repr

inductive Op where
  | query (q : Query)
  | lookupOrInsert (m : Module) (o : OccName)
  deriving DecidableEq, Repr

inductive Answer where
  | name (n : Name)
  | missing
  | count (n : Nat)
  | flag (b : Bool)
  deriving DecidableEq, Repr

def answer (c : NameCache) : Query → Answer
  | .lookup m o =>
    match c.lookup? m o with
    | some n => .name n
    | none => .missing
  | .size => .count c.size
  | .isEmpty => .flag c.isEmpty
  | .allocated => .count c.allocated.toNat

def step (c : NameCache) : Op → Logged (Answer × NameCache)
  | .query q => pure (c.answer q, c)
  | .lookupOrInsert m o => do
    let (n, next) ← c.lookupOrInsert m o
    return (.name n, next)

def run (c : NameCache) : List Op → Logged (List Answer × NameCache)
  | [] => pure ([], c)
  | op :: ops => do
    let (answer, next) ← c.step op
    let (answers, last) ← next.run ops
    return (answer :: answers, last)

end NameCache

end SymbolIndex
