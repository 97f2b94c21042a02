/-! # Numerals

What digits are worth, what is a decimal numeral, and which numbers are too large for binary64.
-/
namespace SymbolIndex.Numeral

def value (base : Nat) (digits : List Char) : Nat :=
  digits.foldl (fun n c =>
    n * base + (if c.isDigit then c.toNat - '0'.toNat else c.toLower.toNat - 'a'.toNat + 10)) 0

/-- The least number that binary64 rounds to infinity. -/
def binary64Limit : Nat := Nat.pow 2 1024 - Nat.pow 2 970

/-- Whether `m` times the power `e` of ten is too large for a binary64 number. -/
def overflows (m : Nat) (e : Int) : Bool :=
  let size : Int := (Nat.toDigits 10 m).length + e
  if m = 0 ∨ size ≤ 308 then false
  else if 310 ≤ size then true
  else if 0 ≤ e then binary64Limit ≤ m * Nat.pow 10 e.toNat
  else binary64Limit * Nat.pow 10 (-e).toNat ≤ m

/-- A significand with as many more digits as 64 bits can hold, and the digits after those. -/
def extend (significand : Nat) : List Char → Nat × List Char
  | [] => (significand, [])
  | c :: cs =>
    let next := significand * 10 + (c.toNat - '0'.toNat)
    if next < 18446744073709551616 then extend next cs else (significand, c :: cs)

def round53 (n : Nat) : Nat :=
  let unit := Nat.pow 2 (n.log2 - 52)
  let digits := n / unit
  let rest := n % unit
  if unit < 2 * rest ∨ (unit = 2 * rest ∧ digits % 2 = 1) then (digits + 1) * unit
  else digits * unit

def productOverflows (m : Nat) (e : Int) : Bool :=
  m ≠ 0 && (308 < e
    || 0 ≤ e && binary64Limit ≤ round53 m * round53 (Nat.pow 10 e.toNat))

def unsigned : List Char → List Char
  | '+' :: cs => cs
  | '-' :: cs => cs
  | cs => cs

def isInteger (text : List Char) : Bool :=
  unsigned text ≠ [] && (unsigned text).all Char.isDigit

/-- Whether a text is a decimal numeral: digits with at most one point and perhaps a power of ten,
or a word for what is no finite number. -/
def isDecimal (text : List Char) : Bool :=
  let text := unsigned text
  let mantissa := text.takeWhile (· ∉ ['e', 'E'])
  let digits := mantissa.filter (· ≠ '.')
  let power := text.drop mantissa.length
  String.ofList (text.map Char.toLower) ∈ ["inf", "infinity", "nan"]
    || (digits ≠ [] && digits.all Char.isDigit && mantissa.length ≤ digits.length + 1
      && (power = [] || isInteger (power.drop 1)))

end SymbolIndex.Numeral
