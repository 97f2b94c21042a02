import SymbolIndex.Json.Basic
import SymbolIndex.Text.Numeral

/-! # JSON text

`Json.print` writes a tree on one line and in ASCII alone: every other scalar is an escape, or two
of them beyond the basic plane. A number that is no integer has no text and is written as a null.

`Json.parse?` turns a text into the tree it denotes, or refuses it. Each scanner takes the
characters that are left and gives what it read with the characters after it. Arrays and objects
are nested less than 128 deep, and of two members with one key the later one counts.
-/
namespace SymbolIndex.Json

def codeUnit (n : Nat) : List Char := '\\' :: 'u' :: Hexadecimal.fixed 4 n

def escape (c : Char) : List Char :=
  if c = '\x22' ∨ c = '\\' then ['\\', c]
  else if c.toNat < 0x20 ∨ (0x7F ≤ c.toNat ∧ c.toNat < 0x10000) then codeUnit c.toNat
  else if 0x10000 ≤ c.toNat then
    codeUnit (0xD800 + (c.toNat - 0x10000) / 0x400)
      ++ codeUnit (0xDC00 + (c.toNat - 0x10000) % 0x400)
  else [c]

def quote (s : String) : String :=
  String.ofList ('\x22' :: s.toList.flatMap escape ++ ['\x22'])

mutual

def print : Json → String
  | null => "null"
  | bool true => "true"
  | bool false => "false"
  | integer n => toString n
  | fraction => "null"
  | string s => quote s
  | array items => "[" ++ String.intercalate "," (printItems items) ++ "]"
  | object members => "\x7b" ++ String.intercalate "," (printMembers members) ++ "\x7d"

def printItems : List Json → List String
  | [] => []
  | item :: items => item.print :: printItems items

def printMembers : List (String × Json) → List String
  | [] => []
  | (key, value) :: members => (quote key ++ ":" ++ value.print) :: printMembers members

end

def isSpace (c : Char) : Bool := c = ' ' || c = '\t' || c = '\n' || c = '\r'

def skipSpace (cs : List Char) : List Char := cs.dropWhile isSpace

def codeUnit? (cs : List Char) : Option Nat :=
  if (cs.take 4).length = 4 then Hexadecimal.toNat? (cs.take 4) else none

/-- The scalar of four digits, or of two such groups if the first is half of a pair; with the
number of characters that were read. -/
def unicodeEscape? (cs : List Char) : Option (Char × Nat) := do
  let n ← codeUnit? cs
  if 0xD800 ≤ n ∧ n < 0xDC00 then
    match cs.drop 4 with
    | '\\' :: 'u' :: rest =>
      let m ← codeUnit? rest
      if 0xDC00 ≤ m ∧ m < 0xE000 then
        return (Char.ofNat (0x10000 + (n - 0xD800) * 0x400 + (m - 0xDC00)), 10)
      else none
    | _ => none
  else if 0xDC00 ≤ n ∧ n < 0xE000 then none
  else return (Char.ofNat n, 4)

def escape? : List Char → Option (Char × Nat)
  | '\x22' :: _ => some ('\x22', 1)
  | '\\' :: _ => some ('\\', 1)
  | '/' :: _ => some ('/', 1)
  | 'b' :: _ => some ('\x08', 1)
  | 'f' :: _ => some ('\x0c', 1)
  | 'n' :: _ => some ('\n', 1)
  | 'r' :: _ => some ('\r', 1)
  | 't' :: _ => some ('\t', 1)
  | 'u' :: cs => (unicodeEscape? cs).map fun (c, size) => (c, size + 1)
  | _ => none

/-- The rest of a string after `acc`, which is reversed; `skip` characters are already read. -/
def stringBody (acc : List Char) : (skip : Nat) → List Char → Option (String × List Char)
  | _, [] => none
  | skip + 1, _ :: cs => stringBody acc skip cs
  | 0, c :: cs =>
    if c = '\x22' then some (String.ofList acc.reverse, cs)
    else if c = '\\' then
      match escape? cs with
      | some (d, size) => stringBody (d :: acc) size cs
      | none => none
    else if c.toNat < 0x20 then none
    else stringBody (c :: acc) 0 cs

def digitRun (cs : List Char) : List Char × List Char :=
  (cs.takeWhile Char.isDigit, cs.dropWhile Char.isDigit)

def fractionPart? : List Char → Option (List Char × List Char)
  | '.' :: cs => if (digitRun cs).1 = [] then none else some (digitRun cs)
  | cs => some ([], cs)

def exponentPart? : List Char → Option (Int × List Char)
  | [] => some (0, [])
  | c :: cs =>
    if c = 'e' ∨ c = 'E' then
      let (down, cs) :=
        match cs with
        | '+' :: cs => (false, cs)
        | '-' :: cs => (true, cs)
        | cs => (false, cs)
      let (digits, rest) := digitRun cs
      let n : Int := Numeral.value 10 digits
      if digits = [] then none else some (if down then -n else n, rest)
    else some (0, c :: cs)

/-- A significand of 64 bits and a power of ten. Digits that the significand has no room for count
as places before the point and as nothing after it. -/
def scaled (whole decimals : List Char) (exponent : Int) : Nat × Int :=
  let (m, surplus) := Numeral.extend 0 whole
  let (m, ignored) := Numeral.extend m decimals
  (m, exponent + surplus.length - (decimals.length - ignored.length : Nat))

/-- An integer if it has neither fraction nor exponent and fits 64 bits, signed or not; a zero with
a sign is none. A number is refused if its two factors make one too large for binary64. -/
def number? (cs : List Char) : Option (Json × List Char) := do
  let (negative, cs) :=
    match cs with
    | '-' :: cs => (true, cs)
    | cs => (false, cs)
  let (whole, afterWhole) := digitRun cs
  if whole = [] ∨ (1 < whole.length ∧ whole.head? = some '0') then none
  else
    let (decimals, rest) ← fractionPart? afterWhole
    let (exponent, rest) ← exponentPart? rest
    let n : Int := Numeral.value 10 whole
    let n := if negative then -n else n
    let (significand, power) := scaled whole decimals exponent
    if Numeral.productOverflows significand power then none
    else if rest.length = afterWhole.length ∧ ¬(negative ∧ n = 0)
        ∧ -9223372036854775808 ≤ n ∧ n ≤ 18446744073709551615 then
      return (.integer n, rest)
    else return (.fraction, rest)

def arrayItems (value : List Char → Option (Json × List Char)) (acc : List Json) :
    (fuel : Nat) → List Char → Option (Json × List Char)
  | 0, _ => none
  | fuel + 1, cs =>
    match value (skipSpace cs) with
    | none => none
    | some (v, rest) =>
      match skipSpace rest with
      | ',' :: rest => arrayItems value (v :: acc) fuel rest
      | ']' :: rest => some (.array (v :: acc).reverse, rest)
      | _ => none

def member? (value : List Char → Option (Json × List Char)) (cs : List Char) :
    Option ((String × Json) × List Char) :=
  match skipSpace cs with
  | '\x22' :: cs => do
    let (key, rest) ← stringBody [] 0 cs
    match skipSpace rest with
    | ':' :: rest =>
      let (v, rest) ← value (skipSpace rest)
      return ((key, v), rest)
    | _ => none
  | _ => none

def objectMembers (value : List Char → Option (Json × List Char)) (acc : List (String × Json)) :
    (fuel : Nat) → List Char → Option (Json × List Char)
  | 0, _ => none
  | fuel + 1, cs =>
    match member? value cs with
    | none => none
    | some (member, rest) =>
      let acc := member :: acc.filter (·.1 ≠ member.1)
      match skipSpace rest with
      | ',' :: rest => objectMembers value acc fuel rest
      | '\x7d' :: rest => some (.object acc.reverse, rest)
      | _ => none

def value? : (depth : Nat) → List Char → Option (Json × List Char)
  | _, 'n' :: 'u' :: 'l' :: 'l' :: rest => some (.null, rest)
  | _, 't' :: 'r' :: 'u' :: 'e' :: rest => some (.bool true, rest)
  | _, 'f' :: 'a' :: 'l' :: 's' :: 'e' :: rest => some (.bool false, rest)
  | _, '\x22' :: cs => (stringBody [] 0 cs).map fun (s, rest) => (.string s, rest)
  | 0, '[' :: _ => none
  | 0, '\x7b' :: _ => none
  | depth + 1, '[' :: cs =>
    match skipSpace cs with
    | ']' :: rest => some (.array [], rest)
    | _ => arrayItems (value? depth) [] (cs.length + 1) cs
  | depth + 1, '\x7b' :: cs =>
    match skipSpace cs with
    | '\x7d' :: rest => some (.object [], rest)
    | _ => objectMembers (value? depth) [] (cs.length + 1) cs
  | _, cs => number? cs

def nestingLimit : Nat := 127

def parse? (text : String) : Option Json :=
  match value? nestingLimit (skipSpace text.toList) with
  | some (v, rest) => if skipSpace rest = [] then some v else none
  | none => none

end SymbolIndex.Json
