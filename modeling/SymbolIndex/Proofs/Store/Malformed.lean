import SymbolIndex.Proofs.Store.Identifier
import SymbolIndex.Proofs.Store.Rejection
import SymbolIndex.Proofs.Text.Malformed

/-! # Bytes that are no text, stored and read

What is written as a path and what is read as a path or an identifier are the same byte lists, the
encodings of texts. Of any other, reading tells where and how far it is malformed, and the message of
a path that is not written shows the very same parts as U+FFFD.
-/
namespace SymbolIndex

namespace Scalar

theorem write_path_eq_ok_iff {bytes : List UInt8} {cell : Cell} :
    path.write ⟨bytes⟩ = .ok cell ↔
      ∃ text : String, bytes = Utf8.encode text.toList ∧ cell = textCell text := by
  constructor
  · intro h
    obtain ⟨rfl, text, htext⟩ := readPath_eq_ok_iff.1 (congrArg Traced.outcome (read_of_write h))
    have hbytes : bytes = Utf8.encode text.toList := congrArg Path.bytes htext
    exact ⟨text, hbytes, congrArg Cell.text hbytes⟩
  · rintro ⟨text, rfl, rfl⟩
    simp only [write, Utf8.decode_encode]
    rfl

theorem write_path_of_malformed {bytes : List UInt8} {fault : Utf8.Fault}
    (h : Utf8.decode bytes = .error fault) :
    path.write ⟨bytes⟩ = .error (.nonUtf8Path ⟨bytes⟩) := by
  simp only [write, h]

end Scalar

namespace Kind

theorem outcome_read_of_malformed {k : Kind} (hk : k.scalar.IsTextual) {bytes : List UInt8}
    {fault : Utf8.Fault} (h : Utf8.decode bytes = .error fault) :
    (k.read (.text bytes)).outcome = .error (.conversion (.malformed fault)) := by
  cases k with
  | required s => exact Scalar.outcome_read_of_malformed hk h
  | optional s =>
    have hread : (s.read (.text bytes)).outcome = .error (.conversion (.malformed fault)) :=
      Scalar.outcome_read_of_malformed hk h
    have hcell : Cell.text bytes ≠ .null := by simp
    rw [read_optional hcell, Traced.outcome_map, hread]
    rfl

theorem holds_path_iff {bytes : List UInt8} {p : Path} :
    Scalar.path.Holds (.text bytes) p ↔
      ∃ text : String, bytes = Utf8.encode text.toList ∧ p = .ofText text := by
  constructor
  · rintro ⟨hcell, text, rfl⟩
    exact ⟨text, Cell.text.inj hcell, rfl⟩
  · rintro ⟨text, rfl, rfl⟩
    exact ⟨rfl, text, rfl⟩

theorem outcome_read_path_eq_ok_iff {k : Kind} (hk : k.scalar = .path) {bytes : List UInt8}
    {v : k.Value} : (k.read (.text bytes)).outcome = .ok v ↔
      ∃ text : String, bytes = Utf8.encode text.toList ∧ k.paths v = [.ofText text] := by
  rw [outcome_read_eq_ok_iff]
  cases k with
  | required s =>
    cases hk
    simpa [Holds, paths, Scalar.paths] using holds_path_iff
  | optional s =>
    cases hk
    cases v with
    | none => simp [Holds, paths]
    | some p => simpa [Holds, paths, Scalar.paths] using holds_path_iff

end Kind

theorem outcome_readIdentifier_encode {α : Type} (what text : String)
    (decode : String → Except DecodeError α) :
    (readIdentifier what decode (.text (Utf8.encode text.toList))).outcome =
      (decode text).mapError fun error => .conversion (.undecodable error) := by
  simp only [readIdentifier, decodeText_encode]
  cases decode text <;> rfl

structure AgreeOn (bytes : List UInt8) : Prop where
  written : ∀ cell, Scalar.path.write ⟨bytes⟩ = .ok cell ↔
    ∃ text : String, bytes = Utf8.encode text.toList ∧ cell = Scalar.textCell text
  decoded : ∀ text, decodeText bytes = .ok text ↔ bytes = Utf8.encode text.toList
  paths : ∀ k : Kind, k.scalar = .path → ∀ v, (k.read (.text bytes)).outcome = .ok v ↔
    ∃ text : String, bytes = Utf8.encode text.toList ∧ k.paths v = [.ofText text]
  identifiers : ∀ text : String, bytes = Utf8.encode text.toList →
    ∀ (α : Type) (what : String) (decode : String → Except DecodeError α),
      (readIdentifier what decode (.text bytes)).outcome =
        (decode text).mapError fun error => .conversion (.undecodable error)
  refused : (¬ ∃ text : String, bytes = Utf8.encode text.toList) →
    ∃ fault, Utf8.FaultAt bytes fault ∧
      (∀ k : Kind, k.scalar.IsTextual →
        (k.read (.text bytes)).outcome = .error (.conversion (.malformed fault))) ∧
      Scalar.path.write ⟨bytes⟩ = .error (.nonUtf8Path ⟨bytes⟩) ∧
      ∃ text : String, bytes.take fault.position = Utf8.encode text.toList ∧
        (EncodeError.nonUtf8Path ⟨bytes⟩).message =
          "Path is not valid UTF-8: " ++ (text ++ ("\uFFFD" ++ Path.display ⟨fault.rest bytes⟩))

theorem display_of_faultAt {bytes : List UInt8} {fault : Utf8.Fault}
    (h : Utf8.FaultAt bytes fault) :
    ∃ text : String, bytes.take fault.position = Utf8.encode text.toList ∧
      Path.display ⟨bytes⟩ = text ++ ("\uFFFD" ++ Path.display ⟨fault.rest bytes⟩) := by
  obtain ⟨cs, htake, hlossy⟩ := h.shown
  refine ⟨String.ofList cs, by rw [htake, String.toList_ofList], ?_⟩
  rw [Path.display, hlossy, ← String.toList_inj]
  simp [Path.display]

theorem agreeOn (bytes : List UInt8) : AgreeOn bytes := by
  constructor
  · intro cell
    exact Scalar.write_path_eq_ok_iff
  · intro text
    exact decodeText_eq_ok_iff
  · intro k hk v
    exact Kind.outcome_read_path_eq_ok_iff hk
  · intro text hbytes α what decode
    rw [hbytes]
    exact outcome_readIdentifier_encode what text decode
  · intro hnot
    obtain ⟨fault, hdecode⟩ :=
      Utf8.exists_fault_of_not_wellFormed (mt Utf8.wellFormed_iff_text.1 hnot)
    have hfault := Utf8.faultAt_of_decode hdecode
    obtain ⟨text, htake, hdisplay⟩ := display_of_faultAt hfault
    refine ⟨fault, hfault, ?_, Scalar.write_path_of_malformed hdecode, text, htake, ?_⟩
    · intro k hk
      exact Kind.outcome_read_of_malformed hk hdecode
    · exact congrArg ("Path is not valid UTF-8: " ++ ·) hdisplay

theorem display_insert (before after : List UInt8) {text : String} (h : text ≠ "") :
    Path.display ⟨before ++ (Utf8.encode text.toList ++ after)⟩ =
      Path.display ⟨before⟩ ++ (text ++ Path.display ⟨after⟩) := by
  have hne : text.toList ≠ [] := by
    rwa [Ne, ← String.toList_inj] at h
  rw [Path.display, Utf8.lossy_insert before after hne, ← String.toList_inj]
  simp [Path.display]

/-- Both sides of the store take the same bytes for text and find the same faults in all others. What
is shown of these has every scalar in its place, and could not be anything else. -/
theorem malformed_bytes_agreed :
    (∀ bytes, AgreeOn bytes) ∧
    (∀ (before after : List UInt8) (text : String), text ≠ "" →
      Path.display ⟨before ++ (Utf8.encode text.toList ++ after)⟩ =
        Path.display ⟨before⟩ ++ (text ++ Path.display ⟨after⟩)) ∧
    Utf8.Shows Utf8.lossy ∧
    ∀ f, Utf8.Shows f → ∀ bytes, f bytes = Utf8.lossy bytes := by
  refine ⟨agreeOn, ?_, Utf8.lossy_shows, ?_⟩
  · intro before after text h
    exact display_insert before after h
  · intro f h bytes
    exact h.eq_lossy bytes

/-- A scalar of four bytes whose last one is missing, a text, and the beginning of another scalar. -/
theorem malformed_bytes_agreed_cut :
    let bytes : List UInt8 := [0x61, 0xF0, 0x9F, 0x98, 0x2F, 0xED]
    (¬ ∃ text : String, bytes = Utf8.encode text.toList) ∧
      Utf8.FaultAt bytes ⟨1, some 3⟩ ∧
      Scalar.path.write ⟨bytes⟩ = .error (.nonUtf8Path ⟨bytes⟩) ∧
      (EncodeError.nonUtf8Path ⟨bytes⟩).message = "Path is not valid UTF-8: a\uFFFD/\uFFFD" := by
  intro bytes
  have hdecode : Utf8.decode bytes = .error ⟨1, some 3⟩ := by decide +kernel
  have hnot : ¬ ∃ text : String, bytes = Utf8.encode text.toList := by
    rintro ⟨text, htext⟩
    cases hdecode.symm.trans (Utf8.decode_eq_ok_iff.2 htext)
  obtain ⟨fault, hfault, hreads, hwrite, -⟩ := (malformed_bytes_agreed.1 bytes).refused hnot
  have htextual : (Kind.required .moduleName).scalar.IsTextual := trivial
  have hread := Kind.outcome_read_of_malformed htextual hdecode
  obtain rfl : fault = ⟨1, some 3⟩ := by
    cases (hreads _ htextual).symm.trans hread
    rfl
  exact ⟨hnot, hfault, hwrite, by decide +kernel⟩

end SymbolIndex
