import SymbolIndex.Proofs.Store.Refusal

/-! # Identifier columns

An identifier column takes text alone, and only UTF-8 in the format of its identifiers. What it takes
is written again as it was, apart from the case of the letters of a fingerprint.
-/
namespace SymbolIndex

open Scalar (textCell)

/-- What is promised of a column of identifiers: `what` its errors call them, the texts it takes and
its `refusal` of any other, and how a text that was read is `rewritten`. -/
structure TextColumn (s : Scalar) (what : String) (Format : String → Prop)
    (refusal : String → DecodeError) (rewritten : String → String) : Prop where
  accepted : ∀ cell, (∃ a, (s.read cell).outcome = .ok a) ↔
    ∃ text, cell = .text (Utf8.encode text.toList) ∧ Format text
  otherClass : ∀ cell, cell.storageClass ≠ .text →
    (s.read cell).outcome = .error (.conversion (.undecodable (.expectedText what)))
  malformed : ∀ bytes, ¬ Utf8.WellFormed bytes → ∃ fault, Utf8.decode bytes = .error fault ∧
    (s.read (.text bytes)).outcome = .error (.conversion (.malformed fault))
  refused : ∀ text, ¬ Format text →
    (s.read (textCell text)).outcome = .error (.conversion (.undecodable (refusal text)))
  restored : ∀ a, ∃ cell, s.write a = .ok cell ∧ (s.read cell).outcome = .ok a
  kept : ∀ text a, (s.read (textCell text)).outcome = .ok a →
    s.write a = .ok (textCell (rewritten text))

/-- A column is no more than the codec of its texts. -/
theorem TextColumn.of_codec (s : Scalar) {what : String} {Format : String → Prop}
    {refusal : String → DecodeError} {rewritten : String → String}
    (decode : String → Except DecodeError s.Value) (encode : s.Value → String)
    (hread : ∀ cell, s.read cell = readIdentifier what decode cell)
    (hwrite : ∀ a, s.write a = .ok (textCell (encode a)))
    (hformat : ∀ text, Format text → ∃ a, decode text = .ok a)
    (hrefusal : ∀ text, ¬ Format text → decode text = .error (refusal text))
    (hencode : ∀ text a, decode text = .ok a → encode a = rewritten text) :
    TextColumn s what Format refusal rewritten := by
  constructor
  · intro cell
    simp only [hread, outcome_readIdentifier_eq_ok_iff]
    constructor
    · rintro ⟨a, text, rfl, ha⟩
      refine ⟨text, rfl, ?_⟩
      by_contra hnot
      rw [hrefusal text hnot] at ha
      cases ha
    · rintro ⟨text, rfl, htext⟩
      obtain ⟨a, ha⟩ := hformat text htext
      exact ⟨a, text, rfl, ha⟩
  · intro cell hclass
    rw [hread]
    exact outcome_readIdentifier_of_class hclass
  · intro bytes hbytes
    obtain ⟨fault, hfault⟩ := Utf8.exists_fault_of_not_wellFormed hbytes
    rw [hread]
    exact ⟨fault, hfault, outcome_readIdentifier_of_malformed hfault⟩
  · intro text htext
    rw [hread]
    exact outcome_readIdentifier_of_refused (hrefusal text htext)
  · intro a
    exact ⟨_, hwrite a, congrArg Traced.outcome (Scalar.read_of_write (hwrite a))⟩
  · intro text a ha
    rw [hread, outcome_readIdentifier_eq_ok_iff] at ha
    obtain ⟨text', htext', ha⟩ := ha
    have hchars : text.toList = text'.toList := Utf8.encode_injective (Cell.text.inj htext')
    rw [hwrite, String.toList_inj.1 hchars, hencode text' a ha]

theorem occName_column :
    TextColumn .occName "an OccName" OccName.IsStored .invalidOccName id := by
  apply TextColumn.of_codec .occName OccName.decode OccName.encode
  · intro cell
    rfl
  · intro occ
    rfl
  · intro text
    exact OccName.exists_decode_of_isStored
  · intro text
    exact OccName.decode_of_not_isStored
  · intro text occ
    exact OccName.encode_of_decode

theorem fingerprint_column :
    TextColumn .fingerprint "a Fingerprint" Fingerprint.IsText Fingerprint.refusal
      Fingerprint.lower := by
  apply TextColumn.of_codec .fingerprint Fingerprint.decode Fingerprint.encode
  · intro cell
    rfl
  · intro f
    rfl
  · intro text htext
    exact ⟨_, Fingerprint.decode_of_isText htext⟩
  · intro text
    exact Fingerprint.decode_of_not_isText
  · intro text f
    exact Fingerprint.encode_of_decode

/-- A column that takes any text refuses none, so it does not matter what a refusal would be. -/
theorem TextColumn.of_any (s : Scalar) {what : String} (ofText : String → s.Value)
    (toText : s.Value → String) (hread : ∀ cell, s.read cell = readIdentifier what
      (fun text => .ok (ofText text)) cell)
    (hwrite : ∀ a, s.write a = .ok (textCell (toText a)))
    (htext : ∀ text, toText (ofText text) = text) (refusal : String → DecodeError) :
    TextColumn s what (fun _ => True) refusal id := by
  apply TextColumn.of_codec s _ toText hread hwrite
  · intro text _
    exact ⟨ofText text, rfl⟩
  · intro text hnot
    exact absurd trivial hnot
  · intro text a h
    cases h
    exact htext text

theorem moduleName_column (refusal : String → DecodeError) :
    TextColumn .moduleName "a ModuleName" (fun _ => True) refusal id :=
  .of_any .moduleName ModuleName.mk ModuleName.text (fun _ => rfl) (fun _ => rfl) (fun _ => rfl)
    refusal

theorem unitId_column (refusal : String → DecodeError) :
    TextColumn .unitId "a UnitId" (fun _ => True) refusal id :=
  .of_any .unitId UnitId.mk UnitId.text (fun _ => rfl) (fun _ => rfl) (fun _ => rfl) refusal

/-- Which cells each column of identifiers takes, why it refuses the others, and what it writes. -/
theorem identifier_columns :
    TextColumn .occName "an OccName" OccName.IsStored .invalidOccName id ∧
    (∀ refusal, TextColumn .moduleName "a ModuleName" (fun _ => True) refusal id) ∧
    (∀ refusal, TextColumn .unitId "a UnitId" (fun _ => True) refusal id) ∧
    TextColumn .fingerprint "a Fingerprint" Fingerprint.IsText Fingerprint.refusal
      Fingerprint.lower ∧
    (∀ bytes, Utf8.WellFormed bytes ↔ ∃ text : String, bytes = Utf8.encode text.toList) ∧
    ∀ (text : String) (occ : OccName), OccName.decode text = .ok occ ↔ text = occ.encode := by
  refine ⟨occName_column, moduleName_column, unitId_column, fingerprint_column, ?_, ?_⟩
  · intro bytes
    exact Utf8.wellFormed_iff_text
  · intro text occ
    exact OccName.decode_eq_ok_iff

/-- A blob, a surrogate, a tag that no name space has, and a hash with capital letters. -/
theorem identifier_columns_cases :
    (Scalar.moduleName.read (.blob [0x4D])).outcome =
      .error (.conversion (.undecodable (.expectedText "a ModuleName"))) ∧
    ¬ Utf8.WellFormed [0x76, 0xED, 0xA0, 0x80] ∧
    (Scalar.occName.read (.text [0x76, 0xED, 0xA0, 0x80])).outcome =
      .error (.conversion (.malformed ⟨1, some 1⟩)) ∧
    (Scalar.occName.read (textCell "x")).outcome =
      .error (.conversion (.undecodable (.invalidOccName "x"))) ∧
    Scalar.fingerprint.write ⟨0xAB⟩ = .ok (textCell "000000000000000000000000000000ab") := by
  obtain ⟨hocc, hmodule, -, hhash, hutf8, -⟩ := identifier_columns
  have hdecode : Utf8.decode [0x76, 0xED, 0xA0, 0x80] = .error ⟨1, some 1⟩ := by decide +kernel
  have hmalformed : ¬ Utf8.WellFormed [0x76, 0xED, 0xA0, 0x80] := by
    rw [hutf8]
    rintro ⟨text, htext⟩
    cases hdecode.symm.trans (Utf8.decode_eq_ok_iff.2 htext)
  obtain ⟨fault, hfault, hread⟩ := hocc.malformed _ hmalformed
  cases hdecode.symm.trans hfault
  refine ⟨(hmodule .invalidOccName).otherClass _ (by decide), hmalformed, hread,
    hocc.refused "x" ?_, ?_⟩
  · rintro ⟨tag, rest, htext, htag⟩
    cases htext
    revert htag
    decide
  · exact hhash.kept "000000000000000000000000000000AB" ⟨0xAB⟩ (by decide +kernel)

end SymbolIndex
