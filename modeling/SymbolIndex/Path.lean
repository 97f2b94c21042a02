import SymbolIndex.Text.Split
import SymbolIndex.Text.Utf8

/-! # Paths

A path is a list of bytes, which need not be UTF-8. Two paths are the same if they have the same
components: repeated and trailing separators do not count, nor does a `.` after the first place.
-/
namespace SymbolIndex

structure Path where
  bytes : List UInt8
  deriving DecidableEq, Repr

namespace Path

def separator : UInt8 := 0x2F

inductive Component where
  | root
  | current
  | parent
  | name (bytes : List UInt8)
  deriving DecidableEq, Repr

def Component.ofSegment : List UInt8 → Component
  | [0x2E, 0x2E] => parent
  | segment => name segment

/-- A segment after the first place; an empty one and a `.` are no components there. -/
def Component.ofLaterSegment? (segment : List UInt8) : Option Component :=
  if segment = [] ∨ segment = [0x2E] then none else some (ofSegment segment)

def Component.ofSegments : List (List UInt8) → List Component
  | [] => []
  | first :: later =>
    let rest := later.filterMap ofLaterSegment?
    if first = [] then if later = [] then [] else root :: rest
    else if first = [0x2E] then current :: rest
    else ofSegment first :: rest

def components (p : Path) : List Component :=
  Component.ofSegments (Text.split separator p.bytes)

def same (p q : Path) : Bool := p.components = q.components

def ofText (text : String) : Path := ⟨Utf8.encode text.toList⟩

/-- What messages show: each malformed part is one U+FFFD. -/
def display (p : Path) : String := String.ofList (Utf8.lossy p.bytes)

def child (p : Path) (name : String) : Path :=
  let bytes := Utf8.encode name.toList
  if p.bytes = [] ∨ p.bytes.getLast? = some separator then ⟨p.bytes ++ bytes⟩
  else ⟨p.bytes ++ separator :: bytes⟩

end Path

end SymbolIndex
