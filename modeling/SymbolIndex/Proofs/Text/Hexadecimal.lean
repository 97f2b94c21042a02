import Mathlib.Data.List.Induction
import Mathlib.Data.Nat.Digits.Defs
import Mathlib.Tactic.IntervalCases
import Mathlib.Tactic.Ring
import SymbolIndex.Text.Hexadecimal

/-! # What hexadecimal digits make

The number that digits make is told by their places in the alphabet, apart from the reader. It is
read as long as it is below the bound, and written in the same width it gives back the digits, in
lower case.
-/
namespace SymbolIndex.Hexadecimal

def alphabet : List Char :=
  ['0', '1', '2', '3', '4', '5', '6', '7', '8', '9', 'a', 'b', 'c', 'd', 'e', 'f']

def digits : List Char := alphabet ++ ['A', 'B', 'C', 'D', 'E', 'F']

def worth (c : Char) : Nat := alphabet.idxOf c.toLower

/-- The number to base 16, of which the last digit counts the ones. -/
def number (cs : List Char) : Nat := Nat.ofDigits 16 (cs.reverse.map worth)

variable {cs : List Char} {c : Char} {n bound : Nat}

theorem mem_digits_of_value? (h : value? c = some n) : c ∈ digits := by
  have hrange : 48 ≤ c.toNat ∧ c.toNat ≤ 57 ∨ 97 ≤ c.toNat ∧ c.toNat ≤ 102 ∨
      65 ≤ c.toNat ∧ c.toNat ≤ 70 := by
    simp only [value?, Char.le_def, UInt32.le_iff_toNat_le] at h
    split at h
    · exact Or.inl ‹_›
    split at h
    · exact Or.inr (Or.inl ‹_›)
    split at h
    · exact Or.inr (Or.inr ‹_›)
    · cases h
  rw [← Char.ofNat_toNat c]
  generalize c.toNat = k at hrange
  rcases hrange with ⟨hlow, hhigh⟩ | ⟨hlow, hhigh⟩ | ⟨hlow, hhigh⟩ <;>
    interval_cases k <;> decide

/-- Goes through the digits alone, which `decide` does not if it takes all characters in turn. -/
theorem forall_mem_digits {P : Char → Prop} [DecidablePred P]
    (h : digits.all (fun c => P c) = true) : ∀ c ∈ digits, P c := by
  intro c hc
  exact of_decide_eq_true (List.all_eq_true.1 h c hc)

theorem value?_of_mem (h : c ∈ digits) : value? c = some (worth c) := by
  revert c
  apply forall_mem_digits
  decide

theorem digit_worth (h : c ∈ digits) : digit (worth c) = c.toLower := by
  revert c
  apply forall_mem_digits
  decide

theorem worth_lt (h : c ∈ digits) : worth c < 16 := by
  revert c
  apply forall_mem_digits
  decide

theorem utf8Size_of_mem (h : c ∈ digits) : c.utf8Size = 1 := by
  revert c
  apply forall_mem_digits
  decide

theorem digit_mem_alphabet (h : n < 16) : digit n ∈ alphabet := by
  interval_cases n <;> decide

theorem worth_digit (h : n < 16) : worth (digit n) = n := by
  interval_cases n <;> decide

theorem isDigit_iff : isDigit c = true ↔ c ∈ digits := by
  rw [isDigit, Option.isSome_iff_exists]
  constructor
  · rintro ⟨n, hn⟩
    exact mem_digits_of_value? hn
  · intro h
    exact ⟨_, value?_of_mem h⟩

theorem number_concat (cs : List Char) (c : Char) :
    number (cs ++ [c]) = worth c + 16 * number cs := by
  simp [number, Nat.ofDigits_cons]

theorem number_cons (c : Char) (cs : List Char) :
    number (c :: cs) = number cs + 16 ^ cs.length * worth c := by
  simp [number, Nat.ofDigits_append]

theorem number_lt (h : ∀ c ∈ cs, c ∈ digits) : number cs < 16 ^ cs.length := by
  induction cs with
  | nil => exact Nat.one_pos
  | cons c cs ih =>
    have hc := worth_lt (h c List.mem_cons_self)
    have hcs := ih fun d hd => h d (List.mem_cons_of_mem c hd)
    calc number (c :: cs)
        < 16 ^ cs.length + 16 ^ cs.length * worth c := by
          rw [number_cons]
          exact Nat.add_lt_add_right hcs _
      _ = 16 ^ cs.length * (worth c + 1) := by ring
      _ ≤ 16 ^ cs.length * 16 := Nat.mul_le_mul_left _ hc
      _ = 16 ^ (c :: cs).length := (Nat.pow_succ ..).symm

theorem mem_fixed {width : Nat} (h : c ∈ fixed width n) : c ∈ alphabet := by
  induction width generalizing n with
  | zero => cases h
  | succ width ih =>
    rw [fixed, List.mem_append, List.mem_singleton] at h
    rcases h with h | rfl
    · exact ih h
    · exact digit_mem_alphabet (Nat.mod_lt n (by decide))

theorem number_fixed (width n : Nat) : number (fixed width n) = n % 16 ^ width := by
  induction width generalizing n with
  | zero => rw [Nat.pow_zero, Nat.mod_one]; rfl
  | succ width ih =>
    rw [fixed, number_concat, ih, worth_digit (Nat.mod_lt n (by decide)), Nat.pow_succ',
      Nat.mod_mul]

theorem digitChar_eq_digit (h : n < 16) : Nat.digitChar n = digit n := by
  interval_cases n <;> decide

theorem toDigits_step (n : Nat) : Nat.toDigits 16 n =
    (if n < 16 then [] else Nat.toDigits 16 (n / 16)) ++ [digit (n % 16)] := by
  have hdigit := digitChar_eq_digit (Nat.mod_lt n (by decide : 0 < 16))
  rw [Nat.toDigits_eq_if (by decide)]
  by_cases h : n < 16
  · rw [if_pos h, if_pos h, ← hdigit, Nat.mod_eq_of_lt h, List.nil_append]
  · rw [if_neg h, if_neg h, hdigit]

theorem mem_toDigits (h : c ∈ Nat.toDigits 16 n) : c ∈ alphabet := by
  induction n using Nat.strongRecOn with
  | ind n ih =>
    rw [toDigits_step, List.mem_append, List.mem_singleton] at h
    rcases h with h | rfl
    · by_cases hn : n < 16
      · rw [if_pos hn] at h
        cases h
      · rw [if_neg hn] at h
        exact ih (n / 16) (by omega) h
    · exact digit_mem_alphabet (Nat.mod_lt n (by decide))

theorem number_toDigits (n : Nat) : number (Nat.toDigits 16 n) = n := by
  induction n using Nat.strongRecOn with
  | ind n ih =>
    rw [toDigits_step, number_concat, worth_digit (Nat.mod_lt n (by decide))]
    by_cases hn : n < 16
    · rw [if_pos hn, Nat.mod_eq_of_lt hn]
      rfl
    · rw [if_neg hn, ih (n / 16) (by omega)]
      exact Nat.mod_add_div n 16

/-- Digits are the only text of their width for their number, apart from their case. -/
theorem fixed_number (h : ∀ c ∈ cs, c ∈ digits) :
    fixed cs.length (number cs) = cs.map Char.toLower := by
  induction cs using List.reverseRecOn with
  | nil => rfl
  | append_singleton cs c ih =>
    have hc := h c (by simp)
    have hcs := ih fun d hd => h d (List.mem_append_left _ hd)
    have hlt := worth_lt hc
    have hdiv : (worth c + 16 * number cs) / 16 = number cs := by omega
    have hmod : (worth c + 16 * number cs) % 16 = worth c := by omega
    rw [List.length_append, List.length_singleton, fixed, number_concat, hdiv, hmod, hcs,
      digit_worth hc, List.map_append, List.map_singleton]

/-- No leading part makes a larger number than the whole, so the bound is met on the way. -/
theorem readFrom_of_digits {acc : Nat} (h : ∀ c ∈ cs, c ∈ digits)
    (hbound : acc * 16 ^ cs.length + number cs < bound) :
    readFrom bound acc cs = .ok (acc * 16 ^ cs.length + number cs) := by
  induction cs generalizing acc with
  | nil => simp [readFrom, number]
  | cons c cs ih =>
    have hsum : acc * 16 ^ (c :: cs).length + number (c :: cs) =
        (acc * 16 + worth c) * 16 ^ cs.length + number cs := by
      rw [number_cons, List.length_cons]
      ring
    rw [hsum] at hbound ⊢
    have hnext : acc * 16 + worth c < bound :=
      calc acc * 16 + worth c
          ≤ (acc * 16 + worth c) * 16 ^ cs.length := Nat.le_mul_of_pos_right _ (by positivity)
        _ ≤ (acc * 16 + worth c) * 16 ^ cs.length + number cs := Nat.le_add_right _ _
        _ < bound := hbound
    rw [readFrom, value?_of_mem (h c List.mem_cons_self)]
    simp only [if_pos hnext]
    exact ih (fun d hd => h d (List.mem_cons_of_mem c hd)) hbound

theorem read_of_digits (hne : cs ≠ []) (h : ∀ c ∈ cs, c ∈ digits) (hbound : number cs < bound) :
    read bound cs = .ok (number cs) := by
  have hstart : 0 * 16 ^ cs.length + number cs = number cs := by rw [Nat.zero_mul, Nat.zero_add]
  have hread := readFrom_of_digits h (hstart ▸ hbound)
  rw [hstart] at hread
  unfold read
  split
  · exact absurd rfl hne
  · rename_i c cs
    exact absurd (h '+' List.mem_cons_self) (by decide)
  · exact hread

theorem utf8ByteSize_of_digits (h : ∀ c ∈ cs, c ∈ digits) :
    (String.ofList cs).utf8ByteSize = cs.length := by
  induction cs with
  | nil => rfl
  | cons c cs ih =>
    have hc := utf8Size_of_mem (h c List.mem_cons_self)
    have hcs := ih fun d hd => h d (List.mem_cons_of_mem c hd)
    rw [String.ofList_cons, String.utf8ByteSize_append, hcs]
    simp [hc, Nat.add_comm]

end SymbolIndex.Hexadecimal
