import SymbolIndex.Text.Hexadecimal

/-! # Words of a TOML document

Blanks, comments, line ends, keys and strings. Each scanner takes the characters that are left and
gives what it read with the characters after it.
-/
namespace SymbolIndex.Toml

def isBlank (c : Char) : Bool := c = ' ' || c = '\t'

def skipBlanks (cs : List Char) : List Char := cs.dropWhile isBlank

/-- What may stand in a comment or a string: no control character but the tab. -/
def isPlain (c : Char) : Bool := c = '\t' || (0x20 ≤ c.toNat && c.toNat ≠ 0x7F)

def lineEndSize? : List Char → Option Nat
  | '\n' :: _ => some 1
  | '\r' :: '\n' :: _ => some 2
  | _ => none

def finishLine (cs : List Char) : Option (List Char) :=
  let rest :=
    match skipBlanks cs with
    | '#' :: comment => comment.dropWhile isPlain
    | other => other
  if rest = [] then some [] else (lineEndSize? rest).map rest.drop

def skipLayout : (comment : Bool) → List Char → Option (List Char)
  | _, [] => some []
  | _, '\n' :: cs => skipLayout false cs
  | _, '\r' :: '\n' :: cs => skipLayout false cs
  | true, c :: cs => if isPlain c then skipLayout true cs else none
  | false, c :: cs =>
    if isBlank c then skipLayout false cs
    else if c = '#' then skipLayout true cs
    else some (c :: cs)

def isBareKey (c : Char) : Bool := c.isAlphanum || c = '_' || c = '-'

def scalar? (size : Nat) (cs : List Char) : Option Char := do
  let digits := cs.take size
  let n ← Hexadecimal.toNat? digits
  if digits.length = size ∧ n.isValidChar then some (Char.ofNat n) else none

def layoutSize : List Char → Nat
  | '\n' :: cs => layoutSize cs + 1
  | '\r' :: '\n' :: cs => layoutSize cs + 2
  | c :: cs => if isBlank c then layoutSize cs + 1 else 0
  | [] => 0

def escape? (multiline : Bool) : List Char → Option (List Char × Nat)
  | 'b' :: _ => some (['\x08'], 1)
  | 't' :: _ => some (['\t'], 1)
  | 'n' :: _ => some (['\n'], 1)
  | 'f' :: _ => some (['\x0c'], 1)
  | 'r' :: _ => some (['\r'], 1)
  | '\x22' :: _ => some (['\x22'], 1)
  | '\\' :: _ => some (['\\'], 1)
  | 'u' :: cs => (scalar? 4 cs).map fun c => ([c], 5)
  | 'U' :: cs => (scalar? 8 cs).map fun c => ([c], 9)
  | cs =>
    if multiline ∧ (lineEndSize? (skipBlanks cs)).isSome then some ([], layoutSize cs) else none

/-- The end of a string over several lines: three quotes, with up to two that belong to it. -/
def closing? (quote : Char) (cs : List Char) : Option (List Char × List Char) :=
  let size := min (cs.takeWhile (· = quote)).length 5
  if 3 ≤ size then some (List.replicate (size - 3) quote, cs.drop size) else none

/-- The body of a string on one line, up to its quote; `skip` characters are already read. -/
def lineBody (quote : Char) (escapes : Bool) :
    (skip : Nat) → List Char → Option (List Char × List Char)
  | _, [] => none
  | skip + 1, _ :: cs => lineBody quote escapes skip cs
  | 0, c :: cs =>
    if c = quote then some ([], cs)
    else if escapes ∧ c = '\\' then do
      let (out, size) ← escape? false cs
      let (body, rest) ← lineBody quote escapes size cs
      return (out ++ body, rest)
    else if isPlain c then (lineBody quote escapes 0 cs).map fun (body, rest) => (c :: body, rest)
    else none

/-- The body of a string over several lines; each line end in it is one line feed. -/
def textBody (quote : Char) (escapes : Bool) :
    (skip : Nat) → List Char → Option (List Char × List Char)
  | _, [] => none
  | skip + 1, _ :: cs => textBody quote escapes skip cs
  | 0, c :: cs =>
    match closing? quote (c :: cs), lineEndSize? (c :: cs) with
    | some (quotes, rest), _ => some (quotes, rest)
    | none, some size =>
      (textBody quote escapes (size - 1) cs).map fun (body, rest) => ('\n' :: body, rest)
    | none, none =>
      if escapes ∧ c = '\\' then do
        let (out, size) ← escape? true cs
        let (body, rest) ← textBody quote escapes size cs
        return (out ++ body, rest)
      else if isPlain c then
        (textBody quote escapes 0 cs).map fun (body, rest) => (c :: body, rest)
      else none

/-- A string of any of the four forms; a line end right after three quotes does not count. -/
def string? (cs : List Char) : Option (List Char × List Char) :=
  match cs with
  | '\x22' :: '\x22' :: '\x22' :: rest =>
    textBody '\x22' true 0 (rest.drop ((lineEndSize? rest).getD 0))
  | '\x27' :: '\x27' :: '\x27' :: rest =>
    textBody '\x27' false 0 (rest.drop ((lineEndSize? rest).getD 0))
  | '\x22' :: rest => lineBody '\x22' true 0 rest
  | '\x27' :: rest => lineBody '\x27' false 0 rest
  | _ => none

def keyChars? (cs : List Char) : Option (List Char × List Char) :=
  match cs with
  | '\x22' :: rest => lineBody '\x22' true 0 rest
  | '\x27' :: rest => lineBody '\x27' false 0 rest
  | _ =>
    let key := cs.takeWhile isBareKey
    if key = [] then none else some (key, cs.dropWhile isBareKey)

def key? (cs : List Char) : Option (String × List Char) :=
  (keyChars? cs).map fun (key, rest) => (String.ofList key, rest)

def keyPath? : (fuel : Nat) → List Char → Option (List String × List Char)
  | 0, _ => none
  | fuel + 1, cs => do
    let (key, rest) ← key? (skipBlanks cs)
    match skipBlanks rest with
    | '.' :: rest =>
      let (keys, rest) ← keyPath? fuel rest
      return (key :: keys, rest)
    | rest => return ([key], rest)

end SymbolIndex.Toml
