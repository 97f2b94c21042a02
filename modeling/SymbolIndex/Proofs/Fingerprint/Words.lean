import Mathlib.Data.List.Forall2
import SymbolIndex.Proofs.Fingerprint

/-! # Words and content of a fingerprint

A fingerprint is one number of 128 bits, two words, sixteen bytes of a digest and 32 digits. The
forms agree since each is the number in another base: the most significant part stands first in all
of them, and a base that is a power of sixteen cuts the digits into groups of one width.
-/
namespace SymbolIndex

namespace Hexadecimal

/-- The text of `n` in `width` digits of lower case. -/
structure Spells (width n : Nat) (cs : List Char) : Prop where
  length : cs.length = width
  lower : ∀ c ∈ cs, c ∈ alphabet
  number : number cs = n

theorem spells_fixed {width n : Nat} (h : n < 16 ^ width) : Spells width n (fixed width n) where
  length := length_fixed width n
  lower := fun _ => mem_fixed
  number := by rw [number_fixed, Nat.mod_eq_of_lt h]

/-- The digits of a number whose last `w` digits make `n`. -/
theorem fixed_add {n : Nat} (v w m : Nat) (h : n < 16 ^ w) :
    fixed (v + w) (m * 16 ^ w + n) = fixed v m ++ fixed w n := by
  induction w generalizing n with
  | zero =>
    rw [Nat.pow_zero, Nat.lt_one_iff] at h
    rw [h, Nat.pow_zero, Nat.mul_one]
    exact (List.append_nil _).symm
  | succ w ih =>
    have hsum : m * 16 ^ (w + 1) + n = 16 * (m * 16 ^ w + n / 16) + n % 16 := by
      have hn := Nat.div_add_mod n 16
      rw [Nat.pow_succ]
      linarith
    have hdiv : (m * 16 ^ (w + 1) + n) / 16 = m * 16 ^ w + n / 16 := by omega
    have hmod : (m * 16 ^ (w + 1) + n) % 16 = n % 16 := by omega
    rw [Nat.pow_succ] at h
    rw [← Nat.add_assoc, fixed, hdiv, hmod, ih (by omega), fixed, List.append_assoc]

end Hexadecimal

namespace Fingerprint

open Hexadecimal (Spells fixed)

/-- The number to base 256, of which the last byte counts the ones. -/
def byteNumber (bytes : List UInt8) : Nat := Nat.ofDigits 256 (bytes.reverse.map UInt8.toNat)

theorem byteNumber_concat (bytes : List UInt8) (b : UInt8) :
    byteNumber (bytes ++ [b]) = b.toNat + 256 * byteNumber bytes := by
  simp [byteNumber, Nat.ofDigits_cons]

theorem bigEndian_eq (bytes : List UInt8) : bigEndian bytes = byteNumber bytes := by
  induction bytes using List.reverseRecOn with
  | nil => rfl
  | append_singleton bytes b ih =>
    have hfold : bigEndian (bytes ++ [b]) = bigEndian bytes * 256 + b.toNat :=
      List.foldl_concat ..
    rw [hfold, byteNumber_concat, ih]
    omega

theorem byteNumber_lt (bytes : List UInt8) : byteNumber bytes < 256 ^ bytes.length := by
  have hlength : (bytes.reverse.map UInt8.toNat).length = bytes.length := by
    rw [List.length_map, List.length_reverse]
  rw [byteNumber, ← hlength]
  apply Nat.ofDigits_lt_base_pow_length (by decide)
  intro d hd
  obtain ⟨b, -, rfl⟩ := List.mem_map.1 hd
  exact b.toNat_lt

theorem byteNumber_append (high low : List UInt8) :
    byteNumber (high ++ low) = byteNumber high * 256 ^ low.length + byteNumber low := by
  simp [byteNumber, Nat.ofDigits_append, Nat.add_comm, Nat.mul_comm]

theorem fixed_byteNumber (bytes : List UInt8) :
    fixed (2 * bytes.length) (byteNumber bytes) = Hexadecimal.ofBytes bytes := by
  induction bytes using List.reverseRecOn with
  | nil => rfl
  | append_singleton bytes b ih =>
    have hsum : byteNumber (bytes ++ [b]) = byteNumber bytes * 16 ^ 2 + b.toNat := by
      rw [byteNumber_concat]
      omega
    rw [hsum, List.length_append, Nat.mul_add, List.length_singleton,
      Hexadecimal.fixed_add _ 2 _ b.toNat_lt, ih]
    simp [Hexadecimal.ofBytes]

theorem toNat_ofWords (high low : UInt64) :
    (ofWords high low).value.toNat = high.toNat * 2 ^ 64 + low.toNat := by
  rw [ofWords, BitVec.toNat_append, ← Nat.shiftLeft_add_eq_or_of_lt low.toBitVec.isLt,
    Nat.shiftLeft_eq]
  rfl

theorem toNat_words (f : Fingerprint) :
    f.words.1.toNat = f.value.toNat / 2 ^ 64 ∧ f.words.2.toNat = f.value.toNat % 2 ^ 64 := by
  have hlt := f.value.isLt
  constructor
  · change (f.value.extractLsb' 64 64).toNat = _
    rw [BitVec.extractLsb'_toNat, Nat.shiftRight_eq_div_pow, Nat.mod_eq_of_lt (by omega)]
  · change (f.value.extractLsb' 0 64).toNat = _
    rw [BitVec.extractLsb'_toNat, Nat.shiftRight_zero]

theorem words_ofWords (high low : UInt64) : (ofWords high low).words = (high, low) := by
  obtain ⟨hhigh, hlow⟩ := toNat_words (ofWords high low)
  rw [toNat_ofWords] at hhigh hlow
  have hlt := low.toNat_lt
  apply Prod.ext
  · apply UInt64.toNat_inj.1
    change _ = high.toNat
    omega
  · apply UInt64.toNat_inj.1
    change _ = low.toNat
    omega

theorem ofWords_words (f : Fingerprint) : ofWords f.words.1 f.words.2 = f := by
  obtain ⟨hhigh, hlow⟩ := toNat_words f
  have hvalue : (ofWords f.words.1 f.words.2).value = f.value := by
    apply BitVec.eq_of_toNat_eq
    rw [toNat_ofWords, hhigh, hlow]
    exact Nat.div_add_mod' ..
  exact congrArg Fingerprint.mk hvalue

theorem encode_ofWords (high low : UInt64) :
    (ofWords high low).encode.toList = fixed 16 high.toNat ++ fixed 16 low.toNat := by
  rw [encode, String.toList_ofList, encodeChars, toNat_ofWords]
  exact Hexadecimal.fixed_add 16 16 high.toNat low.toNat_lt

section

variable {f : Fingerprint} {bytes : List UInt8}

/-- Sixteen bytes make the number of the first eight in front of that of the others. -/
theorem words_of_bytes (hlength : bytes.length = 16) (hvalue : f.value.toNat = byteNumber bytes) :
    f.words.1.toNat = byteNumber (bytes.take 8) ∧ f.words.2.toNat = byteNumber (bytes.drop 8) := by
  obtain ⟨hhigh, hlow⟩ := toNat_words f
  have hlast : (bytes.drop 8).length = 8 := by rw [List.length_drop, hlength]
  have hlt := byteNumber_lt (bytes.drop 8)
  have hsplit := byteNumber_append (bytes.take 8) (bytes.drop 8)
  rw [hlast] at hlt hsplit
  rw [List.take_append_drop] at hsplit
  omega

theorem encode_of_bytes (hlength : bytes.length = 16) (hvalue : f.value.toNat = byteNumber bytes) :
    f.encode.toList = Hexadecimal.ofBytes bytes := by
  have hfixed := fixed_byteNumber bytes
  rw [hlength] at hfixed
  rw [encode, String.toList_ofList, encodeChars, hvalue, hfixed]

end

theorem spells_ofBytes (bytes : List UInt8) :
    ∃ parts, Hexadecimal.ofBytes bytes = parts.flatten ∧
      List.Forall₂ (fun b cs => Spells 2 b.toNat cs) bytes parts := by
  refine ⟨bytes.map fun b : UInt8 => fixed 2 b.toNat, List.flatMap_def, ?_⟩
  rw [List.forall₂_map_right_iff, List.forall₂_same]
  intro b _
  exact Hexadecimal.spells_fixed b.toNat_lt

theorem toNat_ofDigest (digest : Vector UInt8 32) :
    (ofDigest digest).value.toNat = byteNumber (digest.toList.take 16) := by
  have hlt := byteNumber_lt (digest.toList.take 16)
  rw [List.length_take, Vector.length_toList] at hlt
  rw [ofDigest, BitVec.toNat_ofNat, bigEndian_eq]
  exact Nat.mod_eq_of_lt hlt

structure OfDigest (f : Fingerprint) (digest : Vector UInt8 32) : Prop where
  text : ∃ parts, f.encode.toList = parts.flatten ∧
    List.Forall₂ (fun b cs => Spells 2 b.toNat cs) (digest.toList.take 16) parts
  high : f.words.1.toNat = byteNumber (digest.toList.take 8)
  low : f.words.2.toNat = byteNumber ((digest.toList.take 16).drop 8)

theorem ofDigest_digest (digest : Vector UInt8 32) : OfDigest (ofDigest digest) digest := by
  have hvalue := toNat_ofDigest digest
  have hlength : (digest.toList.take 16).length = 16 := by
    rw [List.length_take, Vector.length_toList]
    rfl
  obtain ⟨hhigh, hlow⟩ := words_of_bytes hlength hvalue
  rw [List.take_take] at hhigh
  refine ⟨?_, hhigh, hlow⟩
  rw [encode_of_bytes hlength hvalue]
  exact spells_ofBytes _

/-- Words, numbers and digits of a fingerprint agree, and the leading bytes of a digest are its
digits two by two and its words. -/
theorem words_and_content :
    (∀ high low : UInt64,
      (ofWords high low).words = (high, low) ∧
      (ofWords high low).value.toNat = high.toNat * 2 ^ 64 + low.toNat ∧
      ∃ hs ls, (ofWords high low).encode.toList = hs ++ ls ∧
        Spells 16 high.toNat hs ∧ Spells 16 low.toNat ls) ∧
    (∀ f : Fingerprint, ofWords f.words.1 f.words.2 = f) ∧
    (∀ digest : Vector UInt8 32, OfDigest (ofDigest digest) digest) ∧
    ∀ content : List UInt8, OfDigest (ofContent content) (Blake3.digest content) := by
  refine ⟨?_, ofWords_words, ofDigest_digest, fun content => ofDigest_digest _⟩
  intro high low
  exact ⟨words_ofWords high low, toNat_ofWords high low, _, _, encode_ofWords high low,
    Hexadecimal.spells_fixed high.toNat_lt, Hexadecimal.spells_fixed low.toNat_lt⟩

/-- Sixteen bytes of a digest, none of which stands where another one could. -/
theorem words_and_content_bytes :
    let digest : Vector UInt8 32 := .ofFn fun i => UInt8.ofNat i.val
    (ofDigest digest).words = (0x0001020304050607, 0x08090A0B0C0D0E0F) ∧
      ofWords 0x0001020304050607 0x08090A0B0C0D0E0F = ofDigest digest ∧
      (ofDigest digest).encode = "000102030405060708090a0b0c0d0e0f" := by
  intro digest
  have hdigest := words_and_content.2.2.1 digest
  have hhigh : (ofDigest digest).words.1 = 0x0001020304050607 :=
    UInt64.toNat_inj.1 (hdigest.high.trans (by decide +kernel))
  have hlow : (ofDigest digest).words.2 = 0x08090A0B0C0D0E0F :=
    UInt64.toNat_inj.1 (hdigest.low.trans (by decide +kernel))
  have hwords : ofWords 0x0001020304050607 0x08090A0B0C0D0E0F = ofDigest digest := by
    rw [← hhigh, ← hlow]
    exact words_and_content.2.1 _
  refine ⟨Prod.ext hhigh hlow, hwords, ?_⟩
  rw [← hwords]
  decide +kernel

end Fingerprint

end SymbolIndex
