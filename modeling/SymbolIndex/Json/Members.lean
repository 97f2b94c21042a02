import SymbolIndex.Json.Basic

/-! # Members of an object

A structured value is written as an object with all its members. It is read from an object whose
keys may come in any order, with others among them, or from an array of the members' values in their
order. Faults are looked for in the order of the keys, and a missing member comes last.
-/
namespace SymbolIndex

structure Member (α : Type) where
  key : String
  codec : JsonCodec α
  /-- What a missing member stands for, if it may be missing. -/
  absent : Option α

inductive Members : List Type → Type 1 where
  | nil : Members []
  | cons {α : Type} {αs : List Type} (m : Member α) (ms : Members αs) : Members (α :: αs)

@[reducible] def Values : List Type → Type
  | [] => Unit
  | α :: αs => α × Values αs

inductive MemberFault where
  | missing
  | unreadable (key : String) (error : JsonError)
  deriving DecidableEq, Repr

namespace MemberFault

def first : MemberFault → MemberFault → MemberFault
  | missing, f => f
  | f, missing => f
  | unreadable k e, unreadable k' e' => if k' < k then unreadable k' e' else unreadable k e

def error : MemberFault → JsonError
  | missing => .mismatch
  | unreadable _ e => e

end MemberFault

def Member.find {α : Type} (m : Member α) (members : List (String × Json)) :
    Except MemberFault α :=
  match members.lookup m.key with
  | some j => (m.codec.read j).mapError (.unreadable m.key)
  | none =>
    match m.absent with
    | some a => .ok a
    | none => .error .missing

/-- Whether an array may lack values at its end, which are then absent, or have more than enough. -/
structure ArrayRule where
  shorter : Bool
  longer : Bool
  deriving DecidableEq, Repr

def ArrayRule.exact : ArrayRule := ⟨false, false⟩

namespace Members

def takes : {αs : List Type} → Members αs → Values αs → Bool
  | _, nil, _ => true
  | _, cons m ms, (a, as) => m.codec.takes a && ms.takes as

def write : {αs : List Type} → Members αs → Values αs → List (String × Json)
  | _, nil, _ => []
  | _, cons m ms, (a, as) => (m.key, m.codec.write a) :: ms.write as

def readObject (members : List (String × Json)) :
    {αs : List Type} → Members αs → Except MemberFault (Values αs)
  | _, nil => .ok ()
  | _, cons m ms =>
    match m.find members, ms.readObject members with
    | .ok a, .ok as => .ok (a, as)
    | .error f, .ok _ => .error f
    | .ok _, .error f => .error f
    | .error f, .error g => .error (f.first g)

def readArray (rule : ArrayRule) :
    {αs : List Type} → Members αs → List Json → Except JsonError (Values αs)
  | _, nil, items => if items = [] ∨ rule.longer then .ok () else .error .mismatch
  | _, cons m ms, [] =>
    match rule.shorter, m.absent with
    | true, some a => (readArray rule ms []).map fun as => (a, as)
    | _, _ => .error .mismatch
  | _, cons m ms, j :: items => do
    let a ← m.codec.read j
    let as ← readArray rule ms items
    return (a, as)

end Members

def JsonCodec.structured {α : Type} {αs : List Type} (ms : Members αs) (toValues : α → Values αs)
    (ofValues : Values αs → α) (rule : ArrayRule) : JsonCodec α where
  takes a := ms.takes (toValues a)
  write a := .object (ms.write (toValues a))
  read
    | .object members => ((ms.readObject members).mapError MemberFault.error).map ofValues
    | .array items => (ms.readArray rule items).map ofValues
    | _ => .error .mismatch

end SymbolIndex
