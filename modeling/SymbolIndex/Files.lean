import SymbolIndex.Path

/-! # Files

All that is seen of a file system is what reading gives at a path: bytes, or the fault that the
system reports. `Files` is such a system, with an entry at each place, which is the list of names
that lead to it from the root. Paths are followed name by name, from the root or from the working
folder, so that a folder that is not there cannot be left again by `..`; the root is its own parent.
A name has at most 255 bytes and a path at most 4095.
-/
namespace SymbolIndex

inductive ReadFault where
  | notFound
  | denied
  | isFolder
  | notFolder
  | nameTooLong
  | zeroByte
  | notText
  | other (code : Nat) (text : String)
  deriving DecidableEq, Repr

def ReadFault.message : ReadFault → String
  | notFound => "No such file or directory (os error 2)"
  | denied => "Permission denied (os error 13)"
  | isFolder => "Is a directory (os error 21)"
  | notFolder => "Not a directory (os error 20)"
  | nameTooLong => "File name too long (os error 36)"
  | zeroByte => "file name contained an unexpected NUL byte"
  | notText => "stream did not contain valid UTF-8"
  | other code text => text ++ " (os error " ++ toString code ++ ")"

abbrev Reader := Path → Except ReadFault (List UInt8)

def textOf (content : List UInt8) : Except ReadFault String :=
  match Utf8.decode content with
  | .ok cs => .ok (String.ofList cs)
  | .error _ => .error .notText

inductive Entry where
  | folder
  /-- A folder that must not be entered. -/
  | closedFolder
  | file (content : List UInt8)
  | unreadable (fault : ReadFault)
  deriving DecidableEq, Repr

namespace Entry

def content : Entry → Except ReadFault (List UInt8)
  | folder => .error .isFolder
  | closedFolder => .error .denied
  | file content => .ok content
  | unreadable fault => .error fault

def enter : Entry → Except ReadFault Unit
  | folder => .ok ()
  | closedFolder => .error .denied
  | file _ => .error .notFolder
  | unreadable _ => .error .notFolder

end Entry

abbrev Place := List (List UInt8)

structure Files where
  working : Place
  entries : List (Place × Entry)
  deriving Repr

namespace Files

def empty (working : Place) : Files := ⟨working, []⟩

def entry? (files : Files) (place : Place) : Option Entry :=
  (files.entries.lookup place).or (if place.isPrefixOf files.working then some .folder else none)

def put (files : Files) (place : Place) (entry : Entry) : Files :=
  { files with entries := (place, entry) :: files.entries }

def nameLimit : Nat := 255

def pathLimit : Nat := 4095

def parentName : List UInt8 := [0x2E, 0x2E]

/-- A segment that stays where it is: one between two separators, or a `.`. -/
def isIdle (segment : List UInt8) : Bool := segment = [] || segment = [0x2E]

def step (place : Place) (segment : List UInt8) : Except ReadFault Place :=
  if isIdle segment then .ok place
  else if segment = parentName then .ok place.dropLast
  else if nameLimit < segment.length then .error .nameTooLong
  else .ok (place ++ [segment])

def segments (path : Path) : Except ReadFault (List (List UInt8)) :=
  if 0 ∈ path.bytes then .error .zeroByte
  else if pathLimit < path.bytes.length then .error .nameTooLong
  else if path.bytes = [] then .error .notFound
  else .ok (Text.split Path.separator path.bytes)

def start (files : Files) (path : Path) : Place :=
  if path.bytes.head? = some Path.separator then [] else files.working

def follow (files : Files) (place : Place) : List (List UInt8) → Except ReadFault Place
  | [] => .ok place
  | segment :: rest =>
    match files.entry? place with
    | none => .error .notFound
    | some entry => do
      entry.enter
      follow files (← step place segment) rest

def read (files : Files) : Reader := fun path => do
  let place ← files.follow (files.start path) (← segments path)
  match files.entry? place with
  | none => .error .notFound
  | some entry => entry.content

def makeFrom (files : Files) (place : Place) (entry : Entry) :
    List (List UInt8) → Except ReadFault Files
  | [] => .ok (files.put place entry)
  | segment :: rest => do
    let files := if (files.entry? place).isNone then files.put place .folder else files
    makeFrom files (← step place segment) entry rest

/-- Only a folder can be made at a path that does not end in a name. -/
def make (files : Files) (path : Path) (entry : Entry) : Except ReadFault Files := do
  let segments ← segments path
  let last := segments.getLast?.getD []
  if entry ≠ .folder ∧ (isIdle last ∨ last = parentName) then .error .isFolder
  else files.makeFrom (files.start path) entry segments

end Files

end SymbolIndex
