import SymbolIndex.Blake3
import SymbolIndex.Files
import SymbolIndex.Identifier

/-! # Fingerprints

A fingerprint is a number of 128 bits that stands for the content of an artifact. Its text is 32
hexadecimal digits, written in lower case; the digits of either case are read.
-/
namespace SymbolIndex

structure Fingerprint where
  value : BitVec 128
  deriving DecidableEq, Repr

namespace Fingerprint

instance : Ord Fingerprint := ⟨compareOn (·.value.toNat)⟩

def zero : Fingerprint := ⟨0⟩

def ofWords (high low : UInt64) : Fingerprint := ⟨high.toBitVec ++ low.toBitVec⟩

def words (f : Fingerprint) : UInt64 × UInt64 :=
  (⟨f.value.extractLsb' 64 64⟩, ⟨f.value.extractLsb' 0 64⟩)

def bigEndian (bytes : List UInt8) : Nat := bytes.foldl (fun n b => n * 256 + b.toNat) 0

def ofDigest (digest : Vector UInt8 32) : Fingerprint :=
  ⟨BitVec.ofNat 128 (bigEndian (digest.toList.take 16))⟩

def ofContent (content : List UInt8) : Fingerprint := ofDigest (Blake3.digest content)

def ofFile (read : Reader) (path : Path) : Except ReadFault Fingerprint :=
  (read path).map ofContent

def encodeChars (f : Fingerprint) : List Char := Hexadecimal.fixed 32 f.value.toNat

def encode (f : Fingerprint) : String := String.ofList f.encodeChars

/-- The width is counted in bytes of UTF-8 and looked at first. The digits are looked at before they
are read as a number, since a number may have a sign. -/
def decode (text : String) : Except DecodeError Fingerprint :=
  if text.utf8ByteSize ≠ 32 then
    .error (.invalidFingerprint text "expected 32 hexadecimal digits")
  else if ¬ text.toList.all Hexadecimal.isDigit then
    .error (.invalidFingerprint text "non-hexadecimal character")
  else
    match Hexadecimal.read (Nat.pow 2 128) text.toList with
    | .ok n => .ok ⟨BitVec.ofNat 128 n⟩
    | .error fault => .error (.invalidFingerprint text fault.message)

end Fingerprint

end SymbolIndex
