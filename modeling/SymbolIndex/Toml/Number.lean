import SymbolIndex.Json.Basic
import SymbolIndex.Text.Numeral

/-! # Numbers, dates and times of a TOML document

Integers have a sign and 64 bits. Dates and times are checked and then count as tables without
members, which is how a reader of settings meets them.
-/
namespace SymbolIndex.Toml

/-- Digits with single underscores between them, at least one; gives the digits alone. -/
def digits? (isDigit : Char → Bool) : List Char → Option (List Char × List Char)
  | [] => none
  | [c] => if isDigit c then some ([c], []) else none
  | c :: d :: cs =>
    if isDigit c then
      let more := if d = '_' then digits? isDigit cs else digits? isDigit (d :: cs)
      match more with
      | some (ds, rest) => some (c :: ds, rest)
      | none => some ([c], d :: cs)
    else none

def decimal? (cs : List Char) : Option (List Char × List Char) :=
  match cs with
  | '0' :: rest => some (['0'], rest)
  | _ => digits? Char.isDigit cs

def isHexDigit (c : Char) : Bool :=
  c.isDigit || ('a' ≤ c && c ≤ 'f') || ('A' ≤ c && c ≤ 'F')

def isOctalDigit (c : Char) : Bool := '0' ≤ c && c ≤ '7'

def isBinaryDigit (c : Char) : Bool := c = '0' || c = '1'

def integer? (n : Int) : Option Json :=
  if -9223372036854775808 ≤ n ∧ n ≤ 9223372036854775807 then some (.integer n) else none

def fractionPart? : List Char → Option (List Char × List Char)
  | '.' :: cs => digits? Char.isDigit cs
  | cs => some ([], cs)

def power? (cs : List Char) : Option (Int × List Char) :=
  match cs with
  | '-' :: rest =>
    (digits? Char.isDigit rest).map fun (ds, rest) => (-(Numeral.value 10 ds : Int), rest)
  | '+' :: rest => (digits? Char.isDigit rest).map fun (ds, rest) => (Numeral.value 10 ds, rest)
  | _ => (digits? Char.isDigit cs).map fun (ds, rest) => (Numeral.value 10 ds, rest)

def exponentPart? : List Char → Option (Int × List Char)
  | 'e' :: cs => power? cs
  | 'E' :: cs => power? cs
  | cs => some (0, cs)

/-- A decimal integer or a number with a fraction or an exponent, after its sign. A number too large
for binary64 is refused unless it is negative. -/
def unsigned? (negative : Bool) (cs : List Char) : Option (Json × List Char) :=
  match cs with
  | 'i' :: 'n' :: 'f' :: rest => some (.fraction, rest)
  | 'n' :: 'a' :: 'n' :: rest => some (.fraction, rest)
  | _ => do
    let (whole, afterWhole) ← decimal? cs
    let (fraction, afterFraction) ← fractionPart? afterWhole
    let (exponent, rest) ← exponentPart? afterFraction
    if rest.length = afterWhole.length then
      let n : Int := Numeral.value 10 whole
      return (← integer? (if negative then -n else n), rest)
    else
      let m := Numeral.value 10 (whole ++ fraction)
      if !negative ∧ Numeral.overflows m (exponent - fraction.length) then none
      else return (.fraction, rest)

def based? (base : Nat) (isDigit : Char → Bool) (cs : List Char) :
    Option (Json × List Char) := do
  let (ds, rest) ← digits? isDigit cs
  return (← integer? (Numeral.value base ds), rest)

def number? (cs : List Char) : Option (Json × List Char) :=
  match cs with
  | '+' :: rest => unsigned? false rest
  | '-' :: rest => unsigned? true rest
  | '0' :: 'x' :: rest => based? 16 isHexDigit rest
  | '0' :: 'o' :: rest => based? 8 isOctalDigit rest
  | '0' :: 'b' :: rest => based? 2 isBinaryDigit rest
  | _ => unsigned? false cs

def field? (size low high : Nat) (cs : List Char) : Option (Nat × List Char) :=
  let ds := cs.take size
  let n := Numeral.value 10 ds
  if ds.length = size ∧ ds.all Char.isDigit ∧ low ≤ n ∧ n ≤ high then some (n, cs.drop size)
  else none

def expect? (c : Char) : List Char → Option (List Char)
  | [] => none
  | d :: cs => if d = c then some cs else none

def daysIn (year month : Nat) : Nat :=
  if month = 2 then
    if year % 4 = 0 ∧ (year % 100 ≠ 0 ∨ year % 400 = 0) then 29 else 28
  else if month ∈ [4, 6, 9, 11] then 30
  else 31

def date? (cs : List Char) : Option (List Char) := do
  let (year, rest) ← field? 4 0 9999 cs
  let (month, rest) ← field? 2 1 12 (← expect? '-' rest)
  let (_, rest) ← field? 2 1 (daysIn year month) (← expect? '-' rest)
  return rest

def time? (cs : List Char) : Option (List Char) := do
  let (_, rest) ← field? 2 0 23 cs
  let (_, rest) ← field? 2 0 59 (← expect? ':' rest)
  let (_, rest) ← field? 2 0 60 (← expect? ':' rest)
  match rest with
  | '.' :: fraction =>
    if (fraction.head?.map Char.isDigit).getD false then return fraction.dropWhile Char.isDigit
    else none
  | _ => return rest

def offset? (cs : List Char) : Option (List Char) :=
  match cs with
  | 'Z' :: rest => some rest
  | 'z' :: rest => some rest
  | '+' :: rest => distance? rest
  | '-' :: rest => distance? rest
  | _ => some cs
where
  distance? (cs : List Char) : Option (List Char) := do
    let (_, rest) ← field? 2 0 23 cs
    let (_, rest) ← field? 2 0 59 (← expect? ':' rest)
    return rest

def isTimeMark (c : Char) : Bool := c = 'T' || c = 't' || c = ' '

/-- What may follow a date: a time with or without an offset. A blank may also be just a blank. -/
def afterDate? (cs : List Char) : Option (List Char) :=
  match cs with
  | c :: rest =>
    if isTimeMark c ∧ (rest.head?.map Char.isDigit).getD false then do offset? (← time? rest)
    else some cs
  | [] => some cs

def startsWith (size : Nat) (c : Char) (cs : List Char) : Bool :=
  (cs.take size).length = size && (cs.take size).all Char.isDigit && (cs.drop size).head? = some c

def numeric? (cs : List Char) : Option (Json × List Char) :=
  if startsWith 4 '-' cs then do
    return (.object [], ← afterDate? (← date? cs))
  else if startsWith 2 ':' cs then do
    return (.object [], ← time? cs)
  else number? cs

end SymbolIndex.Toml
