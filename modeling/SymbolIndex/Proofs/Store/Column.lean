import SymbolIndex.Proofs.Fingerprint
import SymbolIndex.Proofs.Identifier
import SymbolIndex.Proofs.Text.Utf8
import SymbolIndex.Store.Column

/-! # One column written and read

Only a path can be refused, and only if its bytes are no text. Whatever a column does write, it
reads back, and nothing is reported on the way. What it reads at all is told by `Holds`.
-/
namespace SymbolIndex

namespace Path

/-- The bytes are the UTF-8 form of some text. -/
def IsText (p : Path) : Prop := ∃ text, p = ofText text

theorem isText_iff {p : Path} : p.IsText ↔ ∃ cs, Utf8.decode p.bytes = .ok cs := by
  simp only [Utf8.decode_eq_ok_iff]
  constructor
  · rintro ⟨text, rfl⟩
    exact ⟨text.toList, rfl⟩
  · rintro ⟨cs, h⟩
    refine ⟨String.ofList cs, ?_⟩
    rw [ofText, String.toList_ofList, ← h]

instance (p : Path) : Decidable p.IsText :=
  match h : Utf8.decode p.bytes with
  | .ok cs => isTrue (isText_iff.2 ⟨cs, h⟩)
  | .error fault => isFalse fun ht => by
      obtain ⟨cs, hcs⟩ := isText_iff.1 ht
      rw [h] at hcs
      cases hcs

/-- A path that is text is shown as it is. -/
theorem ofText_display {p : Path} (h : p.IsText) : ofText p.display = p := by
  obtain ⟨text, rfl⟩ := h
  simp only [ofText, display, Utf8.lossy_encode, String.toList_ofList]

def firstMalformed? (paths : List Path) : Option Path := paths.find? fun p => ¬ p.IsText

theorem firstMalformed?_append (ps qs : List Path) :
    firstMalformed? (ps ++ qs) = (firstMalformed? ps).or (firstMalformed? qs) :=
  List.find?_append

theorem firstMalformed?_eq_none_iff {paths : List Path} :
    firstMalformed? paths = none ↔ ∀ p ∈ paths, p.IsText := by
  simp [firstMalformed?]

end Path

theorem decodeText_encode (text : String) :
    decodeText (Utf8.encode text.toList) = .ok text := by
  simp [decodeText]

theorem readIdentifier_textCell {α : Type} {what text : String}
    {decode : String → Except DecodeError α} {a : α} (h : decode text = .ok a) :
    readIdentifier what decode (Scalar.textCell text) = pure a := by
  rw [Scalar.textCell, readIdentifier, decodeText_encode]
  simp only [h]

theorem readInt32_toInt64 (n : Int32) : readInt32 (.integer n.toInt64) = .ok n := by
  have hl := n.le_toInt
  have hu := n.toInt_lt
  rw [readInt32, if_pos (by rw [Int32.toInt_toInt64]; omega), Int32.toInt32_toInt64]

theorem readPath_text {p : Path} {cs : List Char} (h : Utf8.decode p.bytes = .ok cs) :
    readPath (.text p.bytes) = .ok p := by
  have hp : p.bytes = Utf8.encode cs := Utf8.decode_eq_ok_iff.1 h
  simp only [readPath, decodeText, h, Except.map, Path.ofText, String.toList_ofList, ← hp]

theorem decodeText_eq_ok_iff {bytes : List UInt8} {text : String} :
    decodeText bytes = .ok text ↔ bytes = Utf8.encode text.toList := by
  constructor
  · intro h
    rw [decodeText] at h
    split at h
    · rename_i cs hcs
      cases h
      rw [String.toList_ofList]
      exact Utf8.decode_eq_ok_iff.1 hcs
    · cases h
  · rintro rfl
    exact decodeText_encode text

theorem outcome_readIdentifier_eq_ok_iff {α : Type} {what : String}
    {decode : String → Except DecodeError α} {cell : Cell} {a : α} :
    (readIdentifier what decode cell).outcome = .ok a ↔
      ∃ text, cell = Scalar.textCell text ∧ decode text = .ok a := by
  constructor
  · intro h
    cases cell with
    | text bytes =>
      rw [readIdentifier] at h
      split at h
      · cases h
      · rename_i text ht
        split at h
        · cases h
        · rename_i a' ha
          cases h
          exact ⟨text, congrArg Cell.text (decodeText_eq_ok_iff.1 ht), ha⟩
    | _ => cases h
  · rintro ⟨text, rfl, ha⟩
    rw [readIdentifier_textCell ha]
    rfl

theorem readPath_eq_ok_iff {cell : Cell} {p : Path} :
    readPath cell = .ok p ↔ cell = .text p.bytes ∧ p.IsText := by
  constructor
  · intro h
    cases cell with
    | text bytes =>
      simp only [readPath] at h
      cases ht : decodeText bytes with
      | error fault =>
        rw [ht] at h
        cases h
      | ok text =>
        rw [ht] at h
        cases h
        exact ⟨congrArg Cell.text (decodeText_eq_ok_iff.1 ht), text, rfl⟩
    | _ => cases h
  · rintro ⟨rfl, ht⟩
    obtain ⟨cs, hcs⟩ := Path.isText_iff.1 ht
    exact readPath_text hcs

theorem readInt32_eq_ok_iff {cell : Cell} {v : Int32} :
    readInt32 cell = .ok v ↔
      ∃ n, cell = .integer n ∧ (-2147483648 ≤ n.toInt ∧ n.toInt < 2147483648) ∧
        v.toInt = n.toInt := by
  constructor
  · intro h
    cases cell with
    | integer n =>
      rw [readInt32] at h
      split at h
      · rename_i hn
        cases h
        refine ⟨n, rfl, ⟨hn.1, by omega⟩, ?_⟩
        rw [Int64.toInt_toInt32, Int.bmod_eq_of_le] <;> omega
      · cases h
    | _ => cases h
  · rintro ⟨n, rfl, hn, hv⟩
    have hn' : n = v.toInt64 := by
      apply Int64.toInt_inj.1
      rw [Int32.toInt_toInt64, hv]
    rw [hn', readInt32_toInt64]

theorem readInt32_out_of_range {n : Int64}
    (h : ¬ (-2147483648 ≤ n.toInt ∧ n.toInt < 2147483648)) :
    readInt32 (.integer n) = .error (.outOfRange n) := by
  rw [readInt32, if_neg]
  omega

namespace Scalar

def paths : (s : Scalar) → s.Value → List Path
  | path, p => [p]
  | _, _ => []

theorem write_eq_error_iff (s : Scalar) (a : s.Value) (e : EncodeError) :
    s.write a = .error e ↔ ∃ p, Path.firstMalformed? (s.paths a) = some p ∧ e = .nonUtf8Path p := by
  cases s with
  | path =>
    cases h : Utf8.decode a.bytes with
    | ok cs =>
      have ht : a.IsText := Path.isText_iff.2 ⟨cs, h⟩
      simp [write, paths, Path.firstMalformed?, h, ht]
    | error fault =>
      have ht : ¬ a.IsText := by simp [Path.isText_iff, h]
      simp [write, paths, Path.firstMalformed?, h, ht, eq_comm]
  | _ => simp [write, paths, Path.firstMalformed?]

theorem write_ne_null {s : Scalar} {a : s.Value} : s.write a ≠ .ok .null := by
  intro h
  cases s with
  | path =>
    simp only [write] at h
    split at h <;> cases h
  | _ => simp [write, textCell] at h

theorem read_of_write {s : Scalar} {a : s.Value} {cell : Cell} (h : s.write a = .ok cell) :
    s.read cell = pure a := by
  cases s with
  | occName =>
    cases h
    rw [read]
    exact readIdentifier_textCell a.decode_encode
  | moduleName =>
    cases h
    rw [read]
    exact readIdentifier_textCell rfl
  | unitId =>
    cases h
    rw [read]
    exact readIdentifier_textCell rfl
  | fingerprint =>
    cases h
    rw [read]
    exact readIdentifier_textCell a.decode_encode
  | path =>
    simp only [write] at h
    split at h
    · rename_i cs hcs
      cases h
      simp only [read, readPath_text hcs]
      rfl
    · cases h
  | flag =>
    cases h
    cases a <;> rfl
  | int32 =>
    cases h
    simp only [read, readInt32_toInt64]
    rfl
  | int64 =>
    cases h
    rfl

/-- The cell stands for the value. -/
def Holds : (s : Scalar) → Cell → s.Value → Prop
  | occName, cell, a => ∃ text, cell = textCell text ∧ OccName.decode text = .ok a
  | moduleName, cell, a => cell = textCell a.text
  | unitId, cell, a => cell = textCell a.text
  | fingerprint, cell, a => ∃ text, cell = textCell text ∧ Fingerprint.decode text = .ok a
  | path, cell, p => cell = .text p.bytes ∧ p.IsText
  | flag, cell, b => ∃ n, cell = .integer n ∧ b = (n != 0)
  | int32, cell, v =>
    ∃ n, cell = .integer n ∧ (-2147483648 ≤ n.toInt ∧ n.toInt < 2147483648) ∧ v.toInt = n.toInt
  | int64, cell, n => cell = .integer n

theorem outcome_read_eq_ok_iff {s : Scalar} {cell : Cell} {a : s.Value} :
    (s.read cell).outcome = .ok a ↔ s.Holds cell a := by
  cases s with
  | occName => exact outcome_readIdentifier_eq_ok_iff
  | fingerprint => exact outcome_readIdentifier_eq_ok_iff
  | moduleName =>
    refine outcome_readIdentifier_eq_ok_iff.trans ⟨?_, fun h => ⟨a.text, h, rfl⟩⟩
    rintro ⟨text, rfl, h⟩
    cases h
    rfl
  | unitId =>
    refine outcome_readIdentifier_eq_ok_iff.trans ⟨?_, fun h => ⟨a.text, h, rfl⟩⟩
    rintro ⟨text, rfl, h⟩
    cases h
    rfl
  | path => exact readPath_eq_ok_iff
  | int32 => exact readInt32_eq_ok_iff
  | flag => cases cell <;> simp [read, readFlag, Holds, eq_comm]
  | int64 => cases cell <;> simp [read, readInt64, Holds]

theorem not_holds_null {s : Scalar} {a : s.Value} : ¬ s.Holds .null a := by
  cases s <;> simp [Holds, textCell]

end Scalar

namespace Kind

def scalar : Kind → Scalar
  | required s => s
  | optional s => s

def paths : (k : Kind) → k.Value → List Path
  | required s, a => s.paths a
  | optional s, some a => s.paths a
  | optional _, none => []

theorem write_eq_error_iff (k : Kind) (a : k.Value) (e : EncodeError) :
    k.write a = .error e ↔ ∃ p, Path.firstMalformed? (k.paths a) = some p ∧ e = .nonUtf8Path p := by
  cases k with
  | required s => exact s.write_eq_error_iff a e
  | optional s =>
    cases a with
    | none => simp [write, paths, Path.firstMalformed?]
    | some a => exact s.write_eq_error_iff a e

theorem read_of_write {k : Kind} {a : k.Value} {cell : Cell} (h : k.write a = .ok cell) :
    k.read cell = pure a := by
  cases k with
  | required s => exact Scalar.read_of_write h
  | optional s =>
    cases a with
    | none =>
      cases h
      rfl
    | some a =>
      change s.write a = .ok cell at h
      cases cell with
      | null => exact absurd h Scalar.write_ne_null
      | _ =>
        rw [read, Scalar.read_of_write h]
        · rfl
        · simp

def Holds : (k : Kind) → Cell → k.Value → Prop
  | required s, cell, a => s.Holds cell a
  | optional _, cell, none => cell = .null
  | optional s, cell, some a => s.Holds cell a

theorem outcome_read_eq_ok_iff {k : Kind} {cell : Cell} {v : k.Value} :
    (k.read cell).outcome = .ok v ↔ k.Holds cell v := by
  cases k with
  | required s => exact Scalar.outcome_read_eq_ok_iff
  | optional s =>
    by_cases hc : cell = .null
    · subst hc
      cases v with
      | none => exact iff_of_true rfl rfl
      | some a => exact iff_of_false nofun Scalar.not_holds_null
    · rw [read, Traced.outcome_map]
      · cases v with
        | none =>
          refine iff_of_false ?_ hc
          cases (s.read cell).outcome <;> nofun
        | some a =>
          rw [Holds, ← Scalar.outcome_read_eq_ok_iff]
          cases (s.read cell).outcome <;> simp [Except.map]
      · exact hc

end Kind

end SymbolIndex
