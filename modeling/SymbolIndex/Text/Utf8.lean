/-! # UTF-8

A byte list is read one scalar at a time. `head` tells what stands at its front: a scalar, a
malformed part of one to three bytes, or a sequence that the end of the text cuts short. Strict
reading stops at the first fault and says where it is; lossy reading writes U+FFFD for each. A part
of a text can be given by places counted in bytes, as long as none is inside a scalar.
-/
namespace SymbolIndex.Utf8

def encode (cs : List Char) : List UInt8 := cs.flatMap String.utf8EncodeChar

def size (cs : List Char) : Nat := (encode cs).length

def drop? (place : Nat) : List Char → Option (List Char)
  | [] => if place = 0 then some [] else none
  | c :: cs =>
    if place = 0 then some (c :: cs)
    else if c.utf8Size ≤ place then drop? (place - c.utf8Size) cs
    else none

def take? (length : Nat) : List Char → Option (List Char)
  | [] => if length = 0 then some [] else none
  | c :: cs =>
    if length = 0 then some []
    else if c.utf8Size ≤ length then (take? (length - c.utf8Size) cs).map (c :: ·)
    else none

inductive Head where
  | scalar (c : Char) (size : Nat)
  | malformed (size : Nat)
  | truncated
  deriving DecidableEq, Repr

/-- What a lead byte announces: the number of continuation bytes, the number of values its own bits
can have, and the range of the first continuation byte. The range keeps out overlong forms,
surrogates and values above U+10FFFF. -/
def lead? (b : UInt8) : Option (Nat × Nat × UInt8 × UInt8) :=
  if 0xC2 ≤ b ∧ b ≤ 0xDF then some (1, 32, 0x80, 0xBF)
  else if b = 0xE0 then some (2, 16, 0xA0, 0xBF)
  else if b = 0xED then some (2, 16, 0x80, 0x9F)
  else if 0xE1 ≤ b ∧ b ≤ 0xEF then some (2, 16, 0x80, 0xBF)
  else if b = 0xF0 then some (3, 8, 0x90, 0xBF)
  else if 0xF1 ≤ b ∧ b ≤ 0xF3 then some (3, 8, 0x80, 0xBF)
  else if b = 0xF4 then some (3, 8, 0x80, 0x8F)
  else none

/-- Reads the `more` continuation bytes left of a sequence whose first `seen` bytes carry `bits`. -/
def continuation (seen bits : Nat) : (more : Nat) → (low high : UInt8) → List UInt8 → Head
  | 0, _, _, _ => .scalar (Char.ofNat bits) seen
  | _ + 1, _, _, [] => .truncated
  | more + 1, low, high, b :: bs =>
    if low ≤ b ∧ b ≤ high then
      continuation (seen + 1) (bits * 64 + b.toNat % 64) more 0x80 0xBF bs
    else .malformed seen

def head (b : UInt8) (bs : List UInt8) : Head :=
  if b < 0x80 then .scalar (Char.ofNat b.toNat) 1
  else
    match lead? b with
    | none => .malformed 1
    | some (more, values, low, high) => continuation 1 (b.toNat % values) more low high bs

structure Fault where
  position : Nat
  /-- Length of the malformed part; none if the text ends inside a sequence. -/
  length : Option Nat
  deriving DecidableEq, Repr

def Fault.message (f : Fault) : String :=
  match f.length with
  | some n =>
    "invalid utf-8 sequence of " ++ toString n ++ " bytes from index " ++ toString f.position
  | none => "incomplete utf-8 byte sequence from index " ++ toString f.position

def decodeFrom (position : Nat) : List UInt8 → Except Fault (List Char)
  | [] => .ok []
  | b :: bs =>
    match head b bs with
    | .scalar c size => (decodeFrom (position + size) (bs.drop (size - 1))).map (c :: ·)
    | .malformed size => .error ⟨position, some size⟩
    | .truncated => .error ⟨position, none⟩
termination_by bs => bs.length

def decode (bytes : List UInt8) : Except Fault (List Char) := decodeFrom 0 bytes

def lossy : List UInt8 → List Char
  | [] => []
  | b :: bs =>
    match head b bs with
    | .scalar c size => c :: lossy (bs.drop (size - 1))
    | .malformed size => '\uFFFD' :: lossy (bs.drop (size - 1))
    | .truncated => ['\uFFFD']
termination_by bs => bs.length

end SymbolIndex.Utf8
