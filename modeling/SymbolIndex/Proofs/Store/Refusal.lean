import SymbolIndex.Proofs.Store.Column
import SymbolIndex.Store.Row

/-! # Why a cell is refused

A column that does not take a cell fails with an error at the place of the cell. An identifier and a
path have to be text, a flag and a number an integer; what is text has to be UTF-8 and in the format
of its identifiers, and a number of 32 bits has to be in its range. A null is no value, but where a
value may be absent it is taken.
-/
namespace SymbolIndex

inductive Cell.IsOf : Cell → StorageClass → Prop where
  | null : IsOf .null .null
  | integer (n : Int64) : IsOf (.integer n) .integer
  | real (bits : UInt64) : IsOf (.real bits) .real
  | text (bytes : List UInt8) : IsOf (.text bytes) .text
  | blob (bytes : List UInt8) : IsOf (.blob bytes) .blob

theorem Cell.isOf_iff {cell : Cell} {found : StorageClass} :
    cell.IsOf found ↔ cell.storageClass = found := by
  constructor
  · intro h
    cases h <;> rfl
  · rintro rfl
    cases cell <;> constructor

section

variable {α : Type} {what : String} {decode : String → Except DecodeError α} {cell : Cell}

theorem outcome_readIdentifier_of_class (h : cell.storageClass ≠ .text) :
    (readIdentifier what decode cell).outcome =
      .error (.conversion (.undecodable (.expectedText what))) := by
  cases cell with
  | text bytes => exact absurd rfl h
  | _ => rfl

theorem outcome_readIdentifier_of_malformed {bytes : List UInt8} {fault : Utf8.Fault}
    (h : Utf8.decode bytes = .error fault) :
    (readIdentifier what decode (.text bytes)).outcome = .error (.conversion (.malformed fault)) := by
  have htext : decodeText bytes = .error (.conversion (.malformed fault)) := by
    rw [decodeText, h]
  simp only [readIdentifier, htext, Traced.outcome_throw]

theorem outcome_readIdentifier_of_refused {text : String} {error : DecodeError}
    (h : decode text = .error error) :
    (readIdentifier what decode (Scalar.textCell text)).outcome =
      .error (.conversion (.undecodable error)) := by
  simp only [Scalar.textCell, readIdentifier, decodeText_encode, h, Traced.outcome_throw]

/-- A cell is of another class, malformed, a text that is refused, or read. -/
theorem readIdentifier_cases (what : String) (decode : String → Except DecodeError α)
    (cell : Cell) :
    cell.storageClass ≠ .text ∨
    (∃ bytes fault, cell = .text bytes ∧ Utf8.decode bytes = .error fault) ∨
    (∃ text error, cell = Scalar.textCell text ∧ decode text = .error error) ∨
    ∃ a, (readIdentifier what decode cell).outcome = .ok a := by
  by_cases hclass : cell.storageClass = .text
  · cases Cell.isOf_iff.2 hclass with
    | text bytes =>
      right
      cases hbytes : Utf8.decode bytes with
      | error fault => exact Or.inl ⟨bytes, fault, rfl, hbytes⟩
      | ok cs =>
        right
        have hcell : Cell.text bytes = Scalar.textCell (String.ofList cs) := by
          rw [Scalar.textCell, String.toList_ofList, Utf8.decode_eq_ok_iff.1 hbytes]
        cases htext : decode (String.ofList cs) with
        | error error => exact Or.inl ⟨_, error, hcell, htext⟩
        | ok a => exact Or.inr ⟨a, outcome_readIdentifier_eq_ok_iff.2 ⟨_, hcell, htext⟩⟩
  · exact Or.inl hclass

end

theorem readPath_cases (cell : Cell) :
    cell.storageClass ≠ .text ∧ readPath cell = .error .wrongClass ∨
    (∃ bytes fault, cell = .text bytes ∧ Utf8.decode bytes = .error fault ∧
      readPath cell = .error (.conversion (.malformed fault))) ∨
    ∃ p, readPath cell = .ok p := by
  cases cell with
  | text bytes =>
    right
    cases hbytes : Utf8.decode bytes with
    | error fault =>
      left
      refine ⟨bytes, fault, rfl, hbytes, ?_⟩
      simp only [readPath, decodeText, hbytes]
      rfl
    | ok cs =>
      right
      simp only [readPath, decodeText, hbytes]
      exact ⟨_, rfl⟩
  | _ => exact Or.inl ⟨by simp [Cell.storageClass], rfl⟩

theorem readInt32_cases (n : Int64) :
    ¬ (-2147483648 ≤ n.toInt ∧ n.toInt < 2147483648) ∧
      readInt32 (.integer n) = .error (.outOfRange n) ∨
    ∃ v, readInt32 (.integer n) = .ok v := by
  by_cases h : -2147483648 ≤ n.toInt ∧ n.toInt < 2147483648
  · refine Or.inr ⟨n.toInt32, ?_⟩
    rw [readInt32, if_pos]
    omega
  · exact Or.inl ⟨h, readInt32_out_of_range h⟩

namespace Scalar

def identifier? : Scalar → Option String
  | occName => some "an OccName"
  | moduleName => some "a ModuleName"
  | unitId => some "a UnitId"
  | fingerprint => some "a Fingerprint"
  | _ => none

def IsTextual : Scalar → Prop
  | flag => False
  | int32 => False
  | int64 => False
  | _ => True

/-- The error of a column that does not take the cell with the given index and name. -/
inductive Refuses (index : Nat) (name : String) : Scalar → Cell → RowError → Prop where
  | noIdentifier {s : Scalar} {what : String} {cell : Cell} {found : StorageClass}
    (hs : s.identifier? = some what) (hcell : cell.IsOf found) (hfound : found ≠ .text) :
    Refuses index name s cell (.conversion index found (.undecodable (.expectedText what)))
  | malformed {s : Scalar} {bytes : List UInt8} {fault : Utf8.Fault} (hs : s.IsTextual)
    (hbytes : Utf8.decode bytes = .error fault) :
    Refuses index name s (.text bytes) (.conversion index .text (.malformed fault))
  | occName {text : String} (htext : ¬ OccName.IsStored text) :
    Refuses index name .occName (textCell text)
      (.conversion index .text (.undecodable (.invalidOccName text)))
  | fingerprint {text : String} (htext : ¬ Fingerprint.IsText text) :
    Refuses index name .fingerprint (textCell text)
      (.conversion index .text (.undecodable (Fingerprint.refusal text)))
  | noPath {cell : Cell} {found : StorageClass} (hcell : cell.IsOf found) (hfound : found ≠ .text) :
    Refuses index name .path cell (.wrongClass index found name)
  | noInteger {s : Scalar} {cell : Cell} {found : StorageClass} (hs : s ∈ [flag, int32, int64])
    (hcell : cell.IsOf found) (hfound : found ≠ .integer) :
    Refuses index name s cell (.wrongClass index found name)
  | outOfRange {n : Int64} (hn : ¬ (-2147483648 ≤ n.toInt ∧ n.toInt < 2147483648)) :
    Refuses index name .int32 (.integer n) (.outOfRange index n)

variable {index : Nat} {name : String} {s : Scalar} {cell : Cell} {e : RowError}

theorem outcome_read_of_class {what : String} (hs : s.identifier? = some what)
    (h : cell.storageClass ≠ .text) :
    (s.read cell).outcome = .error (.conversion (.undecodable (.expectedText what))) := by
  cases s with
  | occName | moduleName | unitId | fingerprint =>
    cases hs
    exact outcome_readIdentifier_of_class h
  | _ => cases hs

theorem outcome_read_of_malformed (hs : s.IsTextual) {bytes : List UInt8} {fault : Utf8.Fault}
    (h : Utf8.decode bytes = .error fault) :
    (s.read (.text bytes)).outcome = .error (.conversion (.malformed fault)) := by
  cases s with
  | path =>
    simp only [read, Traced.outcome_ofExcept, readPath, decodeText, h]
    rfl
  | flag => exact hs.elim
  | int32 => exact hs.elim
  | int64 => exact hs.elim
  | _ =>
    rw [read]
    exact outcome_readIdentifier_of_malformed h

theorem outcome_read_of_not_integer (hs : s ∈ [flag, int32, int64])
    (h : cell.storageClass ≠ .integer) : (s.read cell).outcome = .error .wrongClass := by
  simp only [List.mem_cons, List.not_mem_nil, or_false] at hs
  cases cell with
  | integer n => exact absurd rfl h
  | _ => rcases hs with rfl | rfl | rfl <;> rfl

theorem Refuses.outcome_read (h : s.Refuses index name cell e) :
    ∃ fault, (s.read cell).outcome = .error fault ∧
      e = .ofFault index name cell.storageClass fault := by
  cases h with
  | noIdentifier hs hcell hfound =>
    obtain rfl := Cell.isOf_iff.1 hcell
    exact ⟨_, outcome_read_of_class hs hfound, rfl⟩
  | malformed hs hbytes => exact ⟨_, outcome_read_of_malformed hs hbytes, rfl⟩
  | @occName text htext =>
    refine ⟨.conversion (.undecodable (.invalidOccName text)), ?_, rfl⟩
    rw [read]
    exact outcome_readIdentifier_of_refused (OccName.decode_of_not_isStored htext)
  | @fingerprint text htext =>
    refine ⟨.conversion (.undecodable (Fingerprint.refusal text)), ?_, rfl⟩
    rw [read]
    exact outcome_readIdentifier_of_refused (Fingerprint.decode_of_not_isText htext)
  | noPath hcell hfound =>
    cases hcell with
    | text => exact absurd rfl hfound
    | _ => exact ⟨_, rfl, rfl⟩
  | noInteger hs hcell hfound =>
    obtain rfl := Cell.isOf_iff.1 hcell
    exact ⟨_, outcome_read_of_not_integer hs hfound, rfl⟩
  | outOfRange hn => exact ⟨_, readInt32_out_of_range hn, rfl⟩

/-- The errors of an identifier column, from those of its decoder. -/
theorem refuses_of_identifier (s : Scalar) {what : String}
    (decode : String → Except DecodeError s.Value) (hs : s.identifier? = some what)
    (htextual : s.IsTextual)
    (hread : ∀ cell, s.read cell = readIdentifier what decode cell)
    (hdecode : ∀ text error, decode text = .error error → s.Refuses index name (textCell text)
      (.conversion index .text (.undecodable error)))
    {fault : CellFault} (h : (s.read cell).outcome = .error fault) :
    s.Refuses index name cell (.ofFault index name cell.storageClass fault) := by
  rw [hread] at h
  rcases readIdentifier_cases what decode cell with hclass | ⟨bytes, f, rfl, hbytes⟩ |
    ⟨text, error, rfl, herror⟩ | ⟨a, ha⟩
  · cases h.symm.trans (outcome_readIdentifier_of_class hclass)
    exact .noIdentifier hs (Cell.isOf_iff.2 rfl) hclass
  · cases h.symm.trans (outcome_readIdentifier_of_malformed hbytes)
    exact .malformed htextual hbytes
  · cases h.symm.trans (outcome_readIdentifier_of_refused herror)
    exact hdecode text error herror
  · cases h.symm.trans ha

/-- The error of a flag or a number, for a cell that is no integer. -/
theorem refuses_of_number (hs : s ∈ [flag, int32, int64]) (hclass : cell.storageClass ≠ .integer)
    {fault : CellFault} (h : (s.read cell).outcome = .error fault) :
    s.Refuses index name cell (.ofFault index name cell.storageClass fault) := by
  cases h.symm.trans (outcome_read_of_not_integer hs hclass)
  exact .noInteger hs (Cell.isOf_iff.2 rfl) hclass

theorem refuses_of_outcome_read {fault : CellFault} (h : (s.read cell).outcome = .error fault) :
    s.Refuses index name cell (.ofFault index name cell.storageClass fault) := by
  cases s with
  | occName =>
    refine refuses_of_identifier .occName OccName.decode rfl trivial (fun _ => rfl) ?_ h
    intro text error herror
    by_cases htext : OccName.IsStored text
    · obtain ⟨occ, hocc⟩ := OccName.exists_decode_of_isStored htext
      cases herror.symm.trans hocc
    · cases herror.symm.trans (OccName.decode_of_not_isStored htext)
      exact .occName htext
  | fingerprint =>
    refine refuses_of_identifier .fingerprint Fingerprint.decode rfl trivial (fun _ => rfl) ?_ h
    intro text error herror
    by_cases htext : Fingerprint.IsText text
    · cases herror.symm.trans (Fingerprint.decode_of_isText htext)
    · cases herror.symm.trans (Fingerprint.decode_of_not_isText htext)
      exact .fingerprint htext
  | moduleName =>
    refine refuses_of_identifier .moduleName (fun text => .ok ⟨text⟩) rfl trivial (fun _ => rfl) ?_ h
    intro text error herror
    cases herror
  | unitId =>
    refine refuses_of_identifier .unitId (fun text => .ok ⟨text⟩) rfl trivial (fun _ => rfl) ?_ h
    intro text error herror
    cases herror
  | path =>
    change readPath cell = .error fault at h
    rcases readPath_cases cell with ⟨hclass, hpath⟩ | ⟨bytes, f, rfl, hbytes, hpath⟩ | ⟨p, hpath⟩
    · cases h.symm.trans hpath
      exact .noPath (Cell.isOf_iff.2 rfl) hclass
    · cases h.symm.trans hpath
      exact .malformed trivial hbytes
    · cases h.symm.trans hpath
  | flag =>
    refine refuses_of_number (by decide) ?_ h
    intro hclass
    cases Cell.isOf_iff.2 hclass with
    | integer n => cases h
  | int64 =>
    refine refuses_of_number (by decide) ?_ h
    intro hclass
    cases Cell.isOf_iff.2 hclass with
    | integer n => cases h
  | int32 =>
    by_cases hclass : cell.storageClass = .integer
    · cases Cell.isOf_iff.2 hclass with
      | integer n =>
        change readInt32 (.integer n) = .error fault at h
        rcases readInt32_cases n with ⟨hn, hread⟩ | ⟨v, hread⟩
        · cases h.symm.trans hread
          exact .outOfRange hn
        · cases h.symm.trans hread
    · exact refuses_of_number (by decide) hclass h

theorem refuses_iff : s.Refuses index name cell e ↔
    ∃ fault, (s.read cell).outcome = .error fault ∧
      e = .ofFault index name cell.storageClass fault := by
  constructor
  · exact Refuses.outcome_read
  · rintro ⟨fault, h, rfl⟩
    exact refuses_of_outcome_read h

end Scalar

namespace Kind

/-- A null is taken where a value may be absent; every other cell has to hold a value. -/
inductive Refuses (index : Nat) (name : String) : Kind → Cell → RowError → Prop where
  | required {s : Scalar} {cell : Cell} {e : RowError} (h : s.Refuses index name cell e) :
    Refuses index name (required s) cell e
  | optional {s : Scalar} {cell : Cell} {e : RowError} (hnull : cell ≠ .null)
    (h : s.Refuses index name cell e) : Refuses index name (optional s) cell e

variable {index : Nat} {name : String} {cell : Cell} {e : RowError}

theorem read_optional {s : Scalar} (h : cell ≠ .null) :
    (optional s).read cell = some <$> s.read cell := by
  rw [read]
  exact h

theorem outcome_read_optional_eq_error_iff {s : Scalar} {fault : CellFault} :
    ((optional s).read cell).outcome = .error fault ↔
      cell ≠ .null ∧ (s.read cell).outcome = .error fault := by
  by_cases hnull : cell = .null
  · subst hnull
    exact iff_of_false nofun fun h => h.1 rfl
  · rw [read_optional hnull, Traced.outcome_map]
    cases (s.read cell).outcome <;> simp [Except.map, hnull]

theorem refuses_iff {k : Kind} : k.Refuses index name cell e ↔
    ∃ fault, (k.read cell).outcome = .error fault ∧
      e = .ofFault index name cell.storageClass fault := by
  cases k with
  | required s =>
    refine Iff.trans ⟨?_, .required⟩ Scalar.refuses_iff
    intro h
    cases h with
    | required h => exact h
  | optional s =>
    constructor
    · intro h
      cases h with
      | optional hnull h =>
        obtain ⟨fault, hfault, he⟩ := Scalar.refuses_iff.1 h
        exact ⟨fault, outcome_read_optional_eq_error_iff.2 ⟨hnull, hfault⟩, he⟩
    · rintro ⟨fault, hfault, he⟩
      obtain ⟨hnull, hfault⟩ := outcome_read_optional_eq_error_iff.1 hfault
      exact .optional hnull (Scalar.refuses_iff.2 ⟨fault, hfault, he⟩)

end Kind

end SymbolIndex
