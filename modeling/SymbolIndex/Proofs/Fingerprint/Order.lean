import SymbolIndex.Proofs.Fingerprint
import SymbolIndex.Proofs.Identifier.Order
import SymbolIndex.Store.Column

/-! # The order of fingerprints

The digits of a fixed width are ordered as the numbers they make, since the letters come after the
numerals in ASCII and a small number has leading zeros. So the texts that are stored are in the
order of the fingerprints.
-/
namespace SymbolIndex

namespace Hexadecimal

theorem compare_eq_compare {a b c d : Nat} (hlt : a < b ↔ c < d) (hgt : b < a ↔ d < c) :
    compare a b = compare c d := by
  rcases Nat.lt_trichotomy a b with h | h | h
  · rw [Nat.compare_eq_lt.2 h, Nat.compare_eq_lt.2 (hlt.1 h)]
  · rw [Nat.compare_eq_eq.2 h, Nat.compare_eq_eq.2 (by omega)]
  · rw [Nat.compare_eq_gt.2 h, Nat.compare_eq_gt.2 (hgt.1 h)]

/-- Of two numbers the leading digits decide first. -/
theorem compare_div_mod (m n : Nat) :
    compare m n = (compare (m / 16) (n / 16)).then (compare (m % 16) (n % 16)) := by
  rcases Nat.lt_trichotomy (m / 16) (n / 16) with h | h | h
  · rw [Nat.compare_eq_lt.2 h, Nat.compare_eq_lt.2 (by omega)]
    rfl
  · rw [Nat.compare_eq_eq.2 h]
    exact compare_eq_compare (by omega) (by omega)
  · rw [Nat.compare_eq_gt.2 h, Nat.compare_eq_gt.2 (by omega)]
    rfl

theorem toNat_digit {n : Nat} (h : n < 16) :
    (digit n).toNat = if n < 10 then 48 + n else 87 + n := by
  interval_cases n <;> rfl

theorem compare_digit {m n : Nat} (hm : m < 16) (hn : n < 16) :
    compare (digit m).toNat (digit n).toNat = compare m n := by
  rw [toNat_digit hm, toNat_digit hn]
  apply compare_eq_compare
  · split <;> split <;> omega
  · split <;> split <;> omega

theorem compare_fixed {width m n : Nat} (hm : m < 16 ^ width) (hn : n < 16 ^ width) :
    compare ((fixed width m).map Char.toNat) ((fixed width n).map Char.toNat) = compare m n := by
  induction width generalizing m n with
  | zero =>
    rw [Nat.pow_zero, Nat.lt_one_iff] at hm hn
    rw [hm, hn]
    rfl
  | succ width ih =>
    rw [Nat.pow_succ] at hm hn
    have hlength : ((fixed width (m / 16)).map Char.toNat).length =
        ((fixed width (n / 16)).map Char.toNat).length := by
      rw [List.length_map, List.length_map, length_fixed, length_fixed]
    have hlast : compare [(digit (m % 16)).toNat] [(digit (n % 16)).toNat] =
        compare (m % 16) (n % 16) := by
      rw [List.compare_cons_cons, List.compare_nil_nil, Ordering.then_eq]
      exact compare_digit (Nat.mod_lt m (by decide)) (Nat.mod_lt n (by decide))
    rw [fixed, fixed, List.map_append, List.map_append, compare_append hlength,
      ih (Nat.div_lt_of_lt_mul (by omega)) (Nat.div_lt_of_lt_mul (by omega)), compare_div_mod m n]
    exact congrArg _ hlast

end Hexadecimal

namespace Fingerprint

open Text (compareScalars compareBytes)

theorem compareScalars_encode (a b : Fingerprint) :
    compareScalars a.encode b.encode = compare a b := by
  rw [compareScalars, encode, encode, String.toList_ofList, String.toList_ofList]
  exact Hexadecimal.compare_fixed a.value.isLt b.value.isLt

theorem compareBytes_encode (a b : Fingerprint) :
    compareBytes a.encode b.encode = compare a b := by
  rw [Text.compareBytes_eq, compareScalars_encode]

theorem precedes_encode_iff (a b : Fingerprint) :
    Text.Precedes a.encode.toList b.encode.toList ↔ a.value.toNat < b.value.toNat := by
  rw [← Text.compareScalars_eq_lt_iff, compareScalars_encode]
  exact Nat.compare_eq_lt

theorem encode_inj {a b : Fingerprint} : a.encode = b.encode ↔ a = b := by
  constructor
  · intro h
    have hdecode := decode_encode a
    rw [h, decode_encode] at hdecode
    exact (Except.ok.inj hdecode).symm
  · rintro rfl
    rfl

theorem map_encode_sort (fs : List Fingerprint) :
    (sort fs).map encode = (fs.map encode).mergeSort fun s t => (compareBytes s t).isLE := by
  apply List.map_mergeSort
  intro a _ b _
  rw [compareBytes_encode]

/-- The order of fingerprints is that of their numbers, of their texts and of the bytes that are
stored for them, and no two of them have one text. -/
theorem ordered_as_stored :
    (∀ a b : Fingerprint,
      compare a b = compare a.value.toNat b.value.toNat ∧
      compareScalars a.encode b.encode = compare a b ∧
      compareBytes a.encode b.encode = compare a b ∧
      (Text.Precedes a.encode.toList b.encode.toList ↔ a.value.toNat < b.value.toNat) ∧
      (a.encode = b.encode ↔ a = b)) ∧
    (∀ f : Fingerprint, Scalar.fingerprint.write f = .ok (.text (Utf8.encode f.encode.toList))) ∧
    ∀ fs : List Fingerprint,
      (sort fs).map encode = (fs.map encode).mergeSort fun s t => (compareBytes s t).isLE := by
  refine ⟨?_, fun f => rfl, map_encode_sort⟩
  intro a b
  exact ⟨rfl, compareScalars_encode a b, compareBytes_encode a b, precedes_encode_iff a b,
    encode_inj⟩

/-- A letter comes after a numeral, and a leading zero before every other digit. -/
theorem ordered_as_stored_letter :
    (Fingerprint.mk 9).value.toNat < (Fingerprint.mk 10).value.toNat ∧
      Text.Precedes (Fingerprint.mk 9).encode.toList (Fingerprint.mk 10).encode.toList ∧
      compareBytes (Fingerprint.mk 0xF).encode (Fingerprint.mk 0x10).encode = .lt ∧
      (Fingerprint.mk 9).encode ≠ (Fingerprint.mk 10).encode := by
  obtain ⟨-, -, -, hprecedes, hencode⟩ := ordered_as_stored.1 ⟨9⟩ ⟨10⟩
  have hlt : (Fingerprint.mk 9).value.toNat < (Fingerprint.mk 10).value.toNat := by decide
  refine ⟨hlt, hprecedes.2 hlt, ?_, ?_⟩
  · obtain ⟨-, -, hbytes, -⟩ := ordered_as_stored.1 ⟨0xF⟩ ⟨0x10⟩
    rw [hbytes]
    decide
  · rw [Ne, hencode]
    decide

end Fingerprint

end SymbolIndex
