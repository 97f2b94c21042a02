import SymbolIndex.Text.Hexadecimal
import SymbolIndex.Text.Scalars

/-! # Patterns

`Pattern.isValid` says whether a text is a pattern, as a value has to be that a filter asks of a
field. The characters of a pattern and its escapes are read in a mode that flags may change. Patterns
match texts: where bytes are matched, none may be beyond ASCII, so that no part of a scalar is
matched. The classes and the cases of letters are known for ASCII alone, so they need that mode.
-/
namespace SymbolIndex.Pattern

structure Mode where
  ignoreCase : Bool
  /-- Whether scalars are matched, not bytes. -/
  unicode : Bool
  /-- Whether white space and comments are skipped. -/
  verbose : Bool
  deriving DecidableEq, Repr

/-- What is left after white space and comments; a comment ends with its line. -/
def afterSpace : (comment : Bool) → List Char → List Char
  | _, [] => []
  | true, c :: cs => afterSpace (c ≠ '\n') cs
  | false, c :: cs =>
    if c = '#' then afterSpace true cs
    else if Text.isWhiteSpace c then afterSpace false cs
    else c :: cs

namespace Mode

def initial : Mode := ⟨false, true, false⟩

/-- Whether the case can be ignored if it has to be: it can in bytes only. -/
def knowsCase (m : Mode) : Bool := !(m.ignoreCase && m.unicode)

def skip (m : Mode) (cs : List Char) : List Char := if m.verbose then afterSpace false cs else cs

/-- The mode after flags; those that follow a minus sign are cleared. -/
def withFlags (m : Mode) (on : Bool) : List Char → Mode
  | [] => m
  | '-' :: flags => m.withFlags false flags
  | 'i' :: flags => { m with ignoreCase := on }.withFlags on flags
  | 'u' :: flags => { m with unicode := on }.withFlags on flags
  | 'x' :: flags => { m with verbose := on }.withFlags on flags
  | _ :: flags => m.withFlags on flags

end Mode

inductive Atom where
  /-- A character; as a `byte` it was given by two digits. -/
  | scalar (c : Char) (byte : Bool)
  /-- Any character of some kind. -/
  | kind
  /-- A place between two characters. -/
  | place
  deriving DecidableEq, Repr

def hexDigits? (m : Mode) : (count : Nat) → List Char → Option (List Char × List Char)
  | 0, cs => some ([], cs)
  | count + 1, cs =>
    match m.skip cs with
    | [] => none
    | c :: cs => (hexDigits? m count cs).map fun (digits, rest) => (c :: digits, rest)

def numbered? (m : Mode) (count : Nat) (cs : List Char) : Option (Char × List Char) := do
  let (digits, rest) ← hexDigits? m count cs
  let n ← Hexadecimal.toNat? digits
  if n.isValidChar then some (Char.ofNat n, rest) else none

def controls : List (Char × Char) :=
  [('a', '\x07'), ('f', '\x0c'), ('t', '\t'), ('n', '\n'), ('r', '\r'), ('v', '\x0b')]

def letter? (m : Mode) (c : Char) : Option Atom :=
  match controls.lookup c with
  | some d => some (.scalar d false)
  | none =>
    if c = 'A' ∨ c = 'z' then some .place
    else if m.unicode then none
    else if c = 'd' ∨ c = 's' ∨ c = 'w' then some .kind
    else if c = 'b' ∨ c = 'B' ∨ c = '<' ∨ c = '>' then some .place
    else none

def escape? (m : Mode) : List Char → Option (Atom × List Char)
  | [] => none
  | 'x' :: cs => (numbered? m 2 cs).map fun (c, rest) => (.scalar c true, rest)
  | 'u' :: cs => (numbered? m 4 cs).map fun (c, rest) => (.scalar c false, rest)
  | 'U' :: cs => (numbered? m 8 cs).map fun (c, rest) => (.scalar c false, rest)
  | c :: cs =>
    if c.isAlphanum ∨ c = '<' ∨ c = '>' then (letter? m c).map fun atom => (atom, cs)
    else if c.toNat < 0x80 then some (.scalar c false, cs)
    else none

def atom? (m : Mode) : List Char → Option (Atom × List Char)
  | [] => none
  | '\\' :: cs => escape? m cs
  | c :: cs => some (.scalar c false, cs)

namespace Atom

def admitted (m : Mode) : Atom → Bool
  | scalar c byte => m.knowsCase && (m.unicode || !byte || c.toNat < 0x80)
  | _ => true

def admittedMember (m : Mode) : Atom → Bool
  | scalar c _ => m.knowsCase && (m.unicode || c.toNat < 0x80)
  | kind => true
  | place => false

def range (m : Mode) : Atom → Atom → Bool
  | scalar c byte, scalar d byte' =>
    (scalar c byte).admittedMember m && (scalar d byte').admittedMember m && c.toNat ≤ d.toNat
  | _, _ => false

end Atom

/-- How deep a whole is nested whose parts are as deep as said: two or more lie one deeper. -/
def nesting : List Nat → Nat
  | [] => 0
  | [depth] => depth
  | depths => depths.foldl max 0 + 1

/-! ## Brackets

A bracket holds characters, ranges, named classes and further brackets, and the operations of sets
between such lists. Only how deep a bracket is nested is kept. -/

structure Bracket where
  /-- Whether a minus sign still stands for itself. -/
  fresh : Bool
  /-- The operand to the left of the last operation. -/
  left : Option Nat
  /-- The members after it. -/
  members : List Nat
  deriving DecidableEq, Repr

namespace Bracket

def empty : Bracket := ⟨true, none, []⟩

def add (b : Bracket) (depth : Nat) : Bracket := ⟨false, b.left, depth :: b.members⟩

/-- An operation is one deeper than its operands. -/
def operand (b : Bracket) : Nat :=
  match b.left with
  | none => nesting b.members
  | some left => max left (nesting b.members) + 1

def startOperation (b : Bracket) : Bracket := ⟨false, some b.operand, []⟩

def depth (b : Bracket) : Nat := b.operand + 1

def classNames : List String :=
  ["alnum", "alpha", "ascii", "blank", "cntrl", "digit", "graph", "lower", "print", "punct",
    "space", "upper", "word", "xdigit"]

def namedClass? : List Char → Option (Bool × List Char)
  | ':' :: cs =>
    let (negated, cs) :=
      match cs with
      | '^' :: cs => (true, cs)
      | cs => (false, cs)
    match cs.dropWhile (· ≠ ':') with
    | ':' :: ']' :: rest =>
      if String.ofList (cs.takeWhile (· ≠ ':')) ∈ classNames then some (negated, rest) else none
    | _ => none
  | _ => none

def classAdmitted (m : Mode) (negated : Bool) : Bool :=
  m.knowsCase && (m.unicode || !negated)

def afterSign? (m : Mode) (cs : List Char) : Option (List Char) :=
  match m.skip cs with
  | '^' :: rest => if m.unicode then some rest else none
  | rest => some rest

/-- The character after a minus sign that decides whether the sign makes a range. White space is
passed over and so is one number sign, but not the comment that it starts. -/
def afterMinus (m : Mode) (cs : List Char) : Option Char :=
  if m.verbose then
    let found :=
      match cs.dropWhile Text.isWhiteSpace with
      | '#' :: rest => rest.dropWhile Text.isWhiteSpace
      | rest => rest
    (found.head?).or cs.head?
  else cs.head?

def member? (m : Mode) (cs : List Char) : Option (List Char) := do
  let (first, rest) ← atom? m cs
  match m.skip rest with
  | '-' :: afterSign =>
    if afterMinus m afterSign = some ']' ∨ afterMinus m afterSign = some '-' then
      if first.admittedMember m then some ('-' :: afterSign) else none
    else
      let (last, rest) ← atom? m (m.skip afterSign)
      if first.range m last then some rest else none
  | rest => if first.admittedMember m then some rest else none

def operation? : List Char → Option (List Char)
  | '&' :: '&' :: rest => some rest
  | '-' :: '-' :: rest => some rest
  | '~' :: '~' :: rest => some rest
  | _ => none

/-- A minus sign that stands for itself because only such signs are before it, or a closing bracket
that does because nothing is. -/
def leading? (b : Bracket) : List Char → Option (Bracket × List Char)
  | '-' :: rest => if b.fresh then some ({ b.add 0 with fresh := true }, rest) else none
  | ']' :: rest => if b.fresh ∧ b.members = [] then some (b.add 0, rest) else none
  | _ => none

def next? (m : Mode) (b : Bracket) (cs : List Char) : Option (Bracket × List Char) :=
  match operation? cs with
  | some rest => some (b.startOperation, rest)
  | none => (member? m cs).map fun rest => (b.add 0, rest)

/-- Reads up to the end of the outermost bracket and says how deep that is; `b` is the innermost and
`outer` are those around it. -/
def read? (m : Mode) (b : Bracket) (outer : List Bracket) :
    (fuel : Nat) → List Char → Option (Nat × List Char)
  | 0, _ => none
  | fuel + 1, cs =>
    let cs := m.skip cs
    match b.leading? cs with
    | some (b, rest) => if m.knowsCase then read? m b outer fuel rest else none
    | none =>
      match cs with
      | ']' :: rest =>
        match outer with
        | [] => some (b.depth, rest)
        | o :: outer => read? m (o.add b.depth) outer fuel rest
      | '[' :: rest =>
        match namedClass? rest with
        | some (negated, rest) =>
          if classAdmitted m negated then read? m (b.add 0) outer fuel rest else none
        | none => (afterSign? m rest).bind fun rest => read? m empty (b :: outer) fuel rest
      | cs => (b.next? m cs).bind fun (b, rest) => read? m b outer fuel rest

end Bracket

def bracket? (m : Mode) (cs : List Char) : Option (Nat × List Char) :=
  (Bracket.afterSign? m cs).bind fun rest => Bracket.read? m .empty [] (rest.length + 1) rest

/-! ## Items and groups

A pattern is read an item at a time; a state keeps the groups that are open. -/

/-- A part of a sequence: how deep it is nested, and whether it may be repeated. -/
structure Item where
  depth : Nat
  repeatable : Bool
  deriving DecidableEq, Repr

structure Body where
  /-- How deep the alternatives are before the last one. -/
  alternatives : List Nat
  /-- The last one, its last item first. -/
  items : List Item
  deriving DecidableEq, Repr

namespace Body

def empty : Body := ⟨[], []⟩

def add (b : Body) (item : Item) : Body := { b with items := item :: b.items }

def startAlternative (b : Body) : Body := ⟨nesting (b.items.map (·.depth)) :: b.alternatives, []⟩

def depth (b : Body) : Nat := nesting b.startAlternative.alternatives

/-- Repeats the last item. -/
def repeat? (b : Body) : Option Body :=
  match b.items with
  | [] => none
  | item :: items =>
    if item.repeatable then some { b with items := ⟨item.depth + 1, true⟩ :: items } else none

end Body

structure State where
  mode : Mode
  /-- The names of the groups so far. -/
  names : List (List Char)
  body : Body
  /-- The groups around it, the innermost first, each with the mode that holds after it. -/
  outer : List (Mode × Body)
  deriving DecidableEq, Repr

namespace State

def initial : State := ⟨.initial, [], .empty, []⟩

def add (s : State) (item : Item) : State := { s with body := s.body.add item }

def enter (s : State) (mode : Mode) : State :=
  { s with mode := mode, body := .empty, outer := (s.mode, s.body) :: s.outer }

def leave? (s : State) : Option State :=
  match s.outer with
  | [] => none
  | (mode, body) :: outer =>
    some { s with mode := mode, body := body.add ⟨s.body.depth + 1, true⟩, outer := outer }

def isName : List Char → Bool
  | [] => false
  | c :: cs =>
    (c = '_' || Text.isAlphabetic c)
      && cs.all fun d => d ∈ ['_', '.', '[', ']'] || Text.isAlphanumeric d

def namedGroup? (s : State) (cs : List Char) : Option (State × List Char) :=
  let name := cs.takeWhile (· ≠ '>')
  match cs.drop name.length with
  | [] => none
  | _ :: rest =>
    if isName name ∧ name ∉ s.names then
      some ({ s with names := name :: s.names }.enter s.mode, rest)
    else none

def areFlags (flags : List Char) : Bool :=
  flags.all (· ∈ ['i', 's', 'm', 'U', 'u', 'R', 'x', '-']) && flags.Nodup
    && flags.getLast? ≠ some '-'

/-- Flags for a group or, if it ends at once, for the rest of the group around it. -/
def flagged? (s : State) (cs : List Char) : Option (State × List Char) :=
  let flags := cs.takeWhile fun c => c ≠ ':' && c ≠ ')'
  if areFlags flags then
    match cs.drop flags.length with
    | ':' :: rest => some (s.enter (s.mode.withFlags true flags), rest)
    | _ :: rest =>
      if flags = [] then none
      else some ({ s with mode := s.mode.withFlags true flags }.add ⟨0, false⟩, rest)
    | [] => none
  else none

def group? (s : State) (cs : List Char) : Option (State × List Char) :=
  match s.mode.skip cs with
  | '?' :: 'P' :: '<' :: rest => s.namedGroup? rest
  | '?' :: '<' :: rest => s.namedGroup? rest
  | '?' :: rest => s.flagged? rest
  | rest => some (s.enter s.mode, rest)

/-- A repetition takes as little as it can if a question mark follows. -/
def repeat? (s : State) (rest : List Char) : Option (State × List Char) :=
  s.body.repeat?.map fun body =>
    ({ s with body := body }, if rest.head? = some '?' then rest.drop 1 else rest)

def step? (s : State) (c : Char) (rest : List Char) : Option (State × List Char) :=
  match c with
  | '(' => s.group? rest
  | ')' => s.leave?.map fun s => (s, rest)
  | '|' => some ({ s with body := s.body.startAlternative }, rest)
  | '[' => (bracket? s.mode rest).map fun (depth, rest) => (s.add ⟨depth, true⟩, rest)
  | '?' => s.repeat? rest
  | '*' => s.repeat? rest
  | '+' => s.repeat? rest
  | '\x7b' => none
  | '.' => if s.mode.unicode then some (s.add ⟨0, true⟩, rest) else none
  | '^' => some (s.add ⟨0, true⟩, rest)
  | '$' => some (s.add ⟨0, true⟩, rest)
  | c => do
    let (atom, rest) ← atom? s.mode (c :: rest)
    if atom.admitted s.mode then some (s.add ⟨0, true⟩, rest) else none

def run? (s : State) : (fuel : Nat) → List Char → Option State
  | 0, _ => none
  | fuel + 1, cs =>
    match s.mode.skip cs with
    | [] => some s
    | c :: rest => (s.step? c rest).bind fun (s, rest) => s.run? fuel rest

end State

def nestingLimit : Nat := 250

/-- Whether a text is a pattern. Counted repetitions are not, since no brace can close them. -/
def isValid (text : List Char) : Bool :=
  match State.initial.run? (text.length + 1) text with
  | some s => s.outer.isEmpty && s.body.depth ≤ nestingLimit
  | none => false

end SymbolIndex.Pattern
