/-! # Hexadecimal text

Numbers of a fixed width and bytes as two digits each. Digits are written in lower case and read in
either case. A number that has to stay below a bound may be read with a plus sign in front of it.
-/
namespace SymbolIndex.Hexadecimal

def digit (n : Nat) : Char :=
  if n < 10 then Char.ofNat ('0'.toNat + n) else Char.ofNat ('a'.toNat + (n - 10))

def value? (c : Char) : Option Nat :=
  if '0' ≤ c ∧ c ≤ '9' then some (c.toNat - '0'.toNat)
  else if 'a' ≤ c ∧ c ≤ 'f' then some (c.toNat - 'a'.toNat + 10)
  else if 'A' ≤ c ∧ c ≤ 'F' then some (c.toNat - 'A'.toNat + 10)
  else none

def isDigit (c : Char) : Bool := (value? c).isSome

/-- The last `width` digits of `n`, the most significant first. -/
def fixed : (width n : Nat) → List Char
  | 0, _ => []
  | width + 1, n => fixed width (n / 16) ++ [digit (n % 16)]

def toNatFrom? (acc : Nat) : List Char → Option Nat
  | [] => some acc
  | c :: cs => (value? c).bind fun d => toNatFrom? (acc * 16 + d) cs

def toNat? (cs : List Char) : Option Nat := toNatFrom? 0 cs

inductive Fault where
  | empty
  | notDigit
  | tooLarge
  deriving DecidableEq, Repr

def Fault.message : Fault → String
  | empty => "cannot parse integer from empty string"
  | notDigit => "invalid digit found in string"
  | tooLarge => "number too large to fit in target type"

def readFrom (bound acc : Nat) : List Char → Except Fault Nat
  | [] => .ok acc
  | c :: cs =>
    match value? c with
    | none => .error .notDigit
    | some d =>
      let next := acc * 16 + d
      if next < bound then readFrom bound next cs else .error .tooLarge

def read (bound : Nat) : List Char → Except Fault Nat
  | [] => .error .empty
  | '+' :: c :: cs => readFrom bound 0 (c :: cs)
  | cs => readFrom bound 0 cs

def ofBytes (bytes : List UInt8) : List Char := bytes.flatMap fun b => fixed 2 b.toNat

def toBytes? : List Char → Option (List UInt8)
  | [] => some []
  | [_] => none
  | high :: low :: cs => do
    let h ← value? high
    let l ← value? low
    return UInt8.ofNat (h * 16 + l) :: (← toBytes? cs)

theorem length_fixed (width n : Nat) : (fixed width n).length = width := by
  induction width generalizing n with
  | zero => rfl
  | succ width ih => simp [fixed, ih]

end SymbolIndex.Hexadecimal
