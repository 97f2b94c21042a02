import SymbolIndex.Identifier

/-! # Trees of values

The tree a structured text denotes. A number is an integer if it is written as one and fits 64 bits,
signed or not; what any other number is worth is not kept, as no type of the index holds one.
-/
namespace SymbolIndex

inductive Json where
  | null
  | bool (b : Bool)
  | integer (n : Int)
  | fraction
  | string (s : String)
  | array (items : List Json)
  | object (members : List (String × Json))
  deriving Repr

/-- Why a tree is no value of a type. Only a text that is decoded gives a cause. -/
inductive JsonError where
  | mismatch
  | undecodable (error : DecodeError)
  deriving DecidableEq, Repr

def JsonError.message? : JsonError → Option String
  | mismatch => none
  | undecodable error => some error.message

/-- How the values of a type are written to trees and read from them. Only a value that is taken has
a tree. -/
structure JsonCodec (α : Type) where
  takes : α → Bool := fun _ => true
  write : α → Json
  read : Json → Except JsonError α

namespace JsonCodec

variable {α β : Type}

def write? (c : JsonCodec α) (a : α) : Option Json := if c.takes a then some (c.write a) else none

def text : JsonCodec String where
  write := .string
  read
    | .string s => .ok s
    | _ => .error .mismatch

def flag : JsonCodec Bool where
  write := .bool
  read
    | .bool b => .ok b
    | _ => .error .mismatch

def integer (low high : Int) (toInt : α → Int) (ofInt : Int → α) : JsonCodec α where
  write a := .integer (toInt a)
  read
    | .integer n => if low ≤ n ∧ n ≤ high then .ok (ofInt n) else .error .mismatch
    | _ => .error .mismatch

def int32 : JsonCodec Int32 := integer (-2147483648) 2147483647 Int32.toInt Int32.ofInt

def int64 : JsonCodec Int64 :=
  integer (-9223372036854775808) 9223372036854775807 Int64.toInt Int64.ofInt

def uint64 : JsonCodec UInt64 :=
  integer 0 18446744073709551615 (fun n => n.toNat) (fun n => UInt64.ofNat n.toNat)

def optional (c : JsonCodec α) : JsonCodec (Option α) where
  takes
    | none => true
    | some a => c.takes a
  write
    | none => .null
    | some a => c.write a
  read
    | .null => .ok none
    | j => (c.read j).map some

/-- The items of an array, of which the first bad one decides the error. -/
def listOf (c : JsonCodec α) : JsonCodec (List α) where
  takes as := as.all c.takes
  write as := .array (as.map c.write)
  read
    | .array items => items.mapM c.read
    | _ => .error .mismatch

def decoded (toText : α → String) (ofText : String → Except DecodeError α) : JsonCodec α where
  write a := .string (toText a)
  read
    | .string s => (ofText s).mapError .undecodable
    | _ => .error .mismatch

def wrapped (toText : α → String) (ofText : String → α) : JsonCodec α where
  write a := .string (toText a)
  read j := (text.read j).map ofText

/-- A choice among names, which may also be the only key of an object, with a null. -/
def choice (toText : α → String) (ofText? : String → Option α) : JsonCodec α where
  write a := .string (toText a)
  read
    | .string s => ofName s
    | .object [(s, .null)] => ofName s
    | _ => .error .mismatch
where
  ofName (s : String) : Except JsonError α :=
    match ofText? s with
    | some a => .ok a
    | none => .error .mismatch

end JsonCodec

end SymbolIndex
