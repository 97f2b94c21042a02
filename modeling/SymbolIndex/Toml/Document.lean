import SymbolIndex.Toml.Number
import SymbolIndex.Toml.Table
import SymbolIndex.Toml.Text

/-! # TOML documents

`parse` turns the text of a document, version 1.0, into the tree of its root table, or refuses it.
Arrays and inline tables are nested less than eighty deep, and so are the keys of a key path.
-/
namespace SymbolIndex.Toml

def nestingLimit : Nat := 80

def arrayItems (value : List Char → Option (Json × List Char)) :
    (fuel : Nat) → List Char → Option (List Json × List Char)
  | 0, _ => none
  | fuel + 1, cs => do
    match ← skipLayout false cs with
    | ']' :: rest => return ([], rest)
    | cs =>
      let (v, rest) ← value cs
      match ← skipLayout false rest with
      | ',' :: rest =>
        let (vs, rest) ← arrayItems value fuel rest
        return (v :: vs, rest)
      | ']' :: rest => return ([v], rest)
      | _ => none

def pair? (value : List Char → Option (Json × List Char)) (cs : List Char) :
    Option ((List String × Json) × List Char) := do
  let (path, rest) ← keyPath? (nestingLimit - 1) cs
  let rest ← expect? '=' rest
  let (v, rest) ← value (skipBlanks rest)
  return ((path, v), rest)

def inlinePairs (value : List Char → Option (Json × List Char)) (t : Table) :
    (fuel : Nat) → List Char → Option (Table × List Char)
  | 0, _ => none
  | fuel + 1, cs => do
    let ((path, v), rest) ← pair? value cs
    let t ← addAt path v t
    match skipBlanks rest with
    | ',' :: rest => inlinePairs value t fuel rest
    | '}' :: rest => return (t, rest)
    | _ => none

/-- A value with at most `depth` brackets around its innermost part. -/
def value? : (depth : Nat) → List Char → Option (Json × List Char)
  | 0, '[' :: _ => none
  | 0, '{' :: _ => none
  | depth + 1, '[' :: cs =>
    (arrayItems (value? depth) (cs.length + 1) cs).map fun (vs, rest) => (.array vs, rest)
  | depth + 1, '{' :: cs =>
    match skipBlanks cs with
    | '}' :: rest => some (.object [], rest)
    | _ =>
      (inlinePairs (value? depth) [] (cs.length + 1) cs).map fun (t, rest) =>
        (.object (membersToJson t), rest)
  | _, 't' :: 'r' :: 'u' :: 'e' :: rest => some (.bool true, rest)
  | _, 'f' :: 'a' :: 'l' :: 's' :: 'e' :: rest => some (.bool false, rest)
  | _, cs =>
    match string? cs with
    | some (s, rest) => some (.string (String.ofList s), rest)
    | none => numeric? cs

/-- The root table so far, and the keys of the table that is open. -/
structure Progress where
  root : Table
  path : List String

def Progress.openHeader (p : Progress) (path : List String)
    (f : String → Table → Option Table) : Option Progress := do
  let last ← path.getLast?
  return ⟨← changeAt (f last) path.dropLast p.root, path⟩

def Progress.add (p : Progress) (path : List String) (v : Json) : Option Progress := do
  return { p with root := ← changeAt (addAt path v) p.path p.root }

def statement? (p : Progress) (cs : List Char) : Option (Progress × List Char) :=
  match cs with
  | '[' :: '[' :: rest => do
    let (path, rest) ← keyPath? (nestingLimit - 1) rest
    let rest ← finishLine (← expect? ']' (← expect? ']' rest))
    return (← p.openHeader path openElement, rest)
  | '[' :: rest => do
    let (path, rest) ← keyPath? (nestingLimit - 1) rest
    let rest ← finishLine (← expect? ']' rest)
    return (← p.openHeader path openTable, rest)
  | _ =>
    match finishLine cs with
    | some rest => some (p, rest)
    | none => do
      let ((path, v), rest) ← pair? (value? (nestingLimit - 1)) cs
      let rest ← finishLine rest
      return (← p.add path v, rest)

def statements : (fuel : Nat) → Progress → List Char → Option Progress
  | 0, _, _ => none
  | fuel + 1, p, cs =>
    match skipBlanks cs with
    | [] => some p
    | cs => do
      let (p, rest) ← statement? p cs
      statements fuel p rest

/-- A byte order mark at the front does not count. -/
def parse (text : String) : Option Json :=
  let cs :=
    match text.toList with
    | '\uFEFF' :: cs => cs
    | cs => cs
  (statements (cs.length + 1) ⟨[], []⟩ cs).map fun p => .object (membersToJson p.root)

end SymbolIndex.Toml
