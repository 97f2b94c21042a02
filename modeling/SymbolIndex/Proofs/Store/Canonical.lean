import SymbolIndex.Proofs.Store.Codec
import SymbolIndex.Proofs.Store.Reading

/-! # Rows written again

What was read from a row is written in full. The cells are those of the row in their canonical
form, in which a flag is zero or one and a fingerprint is in lower case; any other cell is its own
canonical form.
-/
namespace SymbolIndex

def lowerByte (b : UInt8) : UInt8 := if 0x41 ≤ b ∧ b ≤ 0x46 then b + 0x20 else b

theorem lowerByte_lowerByte (b : UInt8) : lowerByte (lowerByte b) = lowerByte b := by
  simp only [lowerByte, UInt8.le_iff_toNat_le, UInt8.reduceToNat]
  by_cases h : 65 ≤ b.toNat ∧ b.toNat ≤ 70
  · have hlower : (b + 0x20).toNat = b.toNat + 32 := by
      simp only [UInt8.toNat_add, UInt8.reduceToNat]
      omega
    rw [if_pos h, hlower, if_neg (by omega)]
  · rw [if_neg h, if_neg h]

theorem Utf8.encode_map_toLower {cs : List Char} (h : ∀ c ∈ cs, c ∈ Hexadecimal.digits) :
    encode (cs.map Char.toLower) = (encode cs).map lowerByte := by
  have hchar : ∀ c ∈ Hexadecimal.digits,
      String.utf8EncodeChar c.toLower = (String.utf8EncodeChar c).map lowerByte :=
    Hexadecimal.forall_mem_digits (by decide)
  rw [encode, encode, List.flatMap_map, List.map_flatMap]
  apply List.flatMap_congr
  intro c hc
  exact hchar c (h c hc)

namespace Scalar

variable {s : Scalar} {cell : Cell} {a : s.Value}

def canonical : Scalar → Cell → Cell
  | flag, .integer n => .integer (if n = 0 then 0 else 1)
  | fingerprint, .text bytes => .text (bytes.map lowerByte)
  | _, cell => cell

theorem canonical_canonical (s : Scalar) (cell : Cell) :
    s.canonical (s.canonical cell) = s.canonical cell := by
  cases s with
  | flag =>
    cases cell with
    | integer n => by_cases hn : n = 0 <;> simp [canonical, hn]
    | _ => rfl
  | fingerprint =>
    cases cell with
    | text bytes => simp [canonical, lowerByte_lowerByte]
    | _ => rfl
  | _ => rfl

theorem textCell_encode_fingerprint {text : String} {f : Fingerprint}
    (h : Fingerprint.decode text = .ok f) :
    textCell f.encode = canonical fingerprint (textCell text) := by
  have hdigits := (Fingerprint.decode_eq_ok_iff.1 h).1.2
  rw [Fingerprint.encode_of_decode h, textCell, Fingerprint.lower, String.toList_ofList,
    Utf8.encode_map_toLower hdigits]
  rfl

/-- What a cell stands for is written as the canonical form of the cell. -/
theorem write_of_holds (h : s.Holds cell a) : s.write a = .ok (s.canonical cell) := by
  cases s with
  | occName =>
    obtain ⟨text, rfl, hdecode⟩ := h
    rw [write, OccName.encode_of_decode hdecode]
    rfl
  | moduleName =>
    cases h
    rfl
  | unitId =>
    cases h
    rfl
  | fingerprint =>
    obtain ⟨text, rfl, hdecode⟩ := h
    rw [write, textCell_encode_fingerprint hdecode]
  | path =>
    obtain ⟨rfl, htext⟩ := h
    obtain ⟨cs, hcs⟩ := Path.isText_iff.1 htext
    rw [write, hcs]
    rfl
  | flag =>
    obtain ⟨n, rfl, rfl⟩ := h
    by_cases hn : n = 0 <;> simp [write, canonical, hn]
  | int32 =>
    obtain ⟨n, rfl, -, hvalue⟩ := h
    have hn : a.toInt64 = n := by
      apply Int64.toInt_inj.1
      rw [Int32.toInt_toInt64, hvalue]
    rw [write, hn]
    rfl
  | int64 =>
    cases h
    rfl

end Scalar

namespace Kind

def canonical : Kind → Cell → Cell
  | required s, cell => s.canonical cell
  | optional s, cell => s.canonical cell

theorem canonical_canonical (k : Kind) (cell : Cell) :
    k.canonical (k.canonical cell) = k.canonical cell := by
  cases k with
  | required s => exact s.canonical_canonical cell
  | optional s => exact s.canonical_canonical cell

theorem write_of_holds {k : Kind} {cell : Cell} {v : k.Value} (h : k.Holds cell v) :
    k.write v = .ok (k.canonical cell) := by
  cases k with
  | required s => exact Scalar.write_of_holds h
  | optional s =>
    cases v with
    | none =>
      cases h
      cases s <;> rfl
    | some a => exact Scalar.write_of_holds h

end Kind

/-- The cells of the columns from `offset` on, in their canonical form. -/
def Fields.canonical (row : Row) (cs : List Column) (offset : Nat) : List Cell :=
  cs.zipWith (fun c entry => c.kind.canonical entry.2) (row.drop offset)

theorem Fields.write_of_read {row : Row} {cs : List Column} {offset : Nat} {f : Fields cs}
    (h : (read row cs offset).outcome = .ok f) : write cs f = .ok (canonical row cs offset) := by
  induction cs generalizing offset with
  | nil => rfl
  | cons c cs ih =>
    obtain ⟨a, f⟩ := f
    obtain ⟨⟨name, cell, hcell, hholds⟩, hrest⟩ := outcome_read_cons_eq_ok_iff.1 h
    obtain ⟨hlt, hget⟩ := List.getElem?_eq_some_iff.1 hcell
    rw [write_cons_eq_ok_iff]
    refine ⟨c.kind.canonical cell, canonical row cs (offset + 1), Kind.write_of_holds hholds,
      ih hrest, ?_⟩
    rw [canonical, List.drop_eq_getElem_cons hlt, hget, List.zipWith_cons_cons]
    rfl

theorem Fields.getElem?_canonical {row : Row} {cs : List Column} {offset i : Nat} {c : Column}
    {name : String} {cell : Cell} (hc : cs[i]? = some c)
    (hcell : row[offset + i]? = some (name, cell)) :
    (canonical row cs offset)[i]? = some (c.kind.canonical cell) := by
  rw [canonical, List.getElem?_zipWith_eq_some]
  exact ⟨c, (name, cell), hc, by rwa [List.getElem?_drop], rfl⟩

namespace ResultShape

structure Canonicalised (t : ResultShape) (row : Row) (offset : Nat) (r : t.Record)
    (cells : List Cell) : Prop where
  written : t.write r = .ok cells
  width : cells.length = t.width
  canonical : ∀ i c, t.columns[i]? = some c →
    ∃ name cell, row[offset + i]? = some (name, cell) ∧ cells[i]? = some (c.kind.canonical cell)
  restored : ∀ before named after : Row, named.map (·.2) = cells →
    t.read (before ++ named ++ after) before.length = pure r

theorem canonicalised {t : ResultShape} {row : Row} {offset : Nat} {r : t.Record}
    (h : (t.read row offset).outcome = .ok r) :
    t.Canonicalised row offset r (Fields.canonical row t.columns offset) := by
  have hread := t.outcome_read_eq_ok_iff.1 h
  have hwrite : t.write r = .ok (Fields.canonical row t.columns offset) := by
    rw [t.write_eq, Fields.write_of_read hread]
  have hlossless := t.lossless r
  refine ⟨hwrite, hlossless.width _ hwrite, ?_, hlossless.restored _ hwrite⟩
  intro i c hc
  obtain ⟨v, ⟨name, cell, hcell, -⟩, -⟩ := Fields.outcome_read_eq_ok_iff.1 hread i c hc
  exact ⟨name, cell, hcell, Fields.getElem?_canonical hc hcell⟩

end ResultShape

/-- Whatever a row is read as, it is written as the canonical form of the cells that were read, and
that form is written again as it is. -/
theorem rows_canonicalised :
    (∀ (t : ResultShape) (row : Row) (offset : Nat) (r : t.Record),
      (t.read row offset).outcome = .ok r → ∃ cells, t.Canonicalised row offset r cells) ∧
    ∀ (k : Kind) (cell : Cell), k.canonical (k.canonical cell) = k.canonical cell := by
  refine ⟨?_, Kind.canonical_canonical⟩
  intro t row offset r h
  exact ⟨_, ResultShape.canonicalised h⟩

/-- Seven is true, and so is the one that is written for it. -/
theorem rows_canonicalised_seven :
    let row : Row := [("id", .integer 4), ("mod", Scalar.textCell "Map"),
      ("unit", Scalar.textCell "base"), ("is_boot", .integer 7), ("hs_src", .null),
      ("is_real", .integer 0), ("hash", Scalar.textCell "0000000000000000000000000000ABcd")]
    let info : ModuleInfo := ⟨⟨"Map"⟩, ⟨"base"⟩, true, none, false, ⟨0xABCD⟩⟩
    (Shape.moduleInfo.read row 1).outcome = .ok info ∧
      ∃ cells, Shape.moduleInfo.write info = .ok cells ∧ cells[2]? = some (.integer 1) ∧
        cells[5]? = some (Scalar.textCell "0000000000000000000000000000abcd") := by
  intro row info
  have hread : (Shape.moduleInfo.read row 1).outcome = .ok info := by decide +kernel
  obtain ⟨cells, h⟩ := rows_canonicalised.1 (.plain .moduleInfo) row 1 info hread
  refine ⟨hread, cells, h.written, ?_, ?_⟩
  · obtain ⟨name, cell, hcell, hflag⟩ := h.canonical 2 ⟨"is_boot", .required .flag⟩ rfl
    cases hcell
    exact hflag
  · obtain ⟨name, cell, hcell, hhash⟩ := h.canonical 5 ⟨"hash", .required .fingerprint⟩ rfl
    cases hcell
    exact hhash.trans (congrArg some (by decide +kernel))

end SymbolIndex
