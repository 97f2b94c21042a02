import SymbolIndex.Fingerprint
import SymbolIndex.Proofs.Text.Hexadecimal

/-! # The text of a fingerprint

A text is read as a fingerprint exactly if it is 32 hexadecimal digits of either case, and what is
read is the number that they make. Any other text is refused for its width in bytes, or else for a
character: a number that is read after both are looked at is always there and always fits.
-/
namespace SymbolIndex.Fingerprint

open Hexadecimal

def IsText (text : String) : Prop := text.length = 32 ∧ ∀ c ∈ text.toList, c ∈ digits

def lower (text : String) : String := String.ofList (text.toList.map Char.toLower)

variable {text : String} {f : Fingerprint}

theorem all_isDigit_iff : text.toList.all isDigit = true ↔ ∀ c ∈ text.toList, c ∈ digits := by
  simp only [List.all_eq_true, isDigit_iff]

instance (text : String) : Decidable (IsText text) :=
  decidable_of_iff (text.length = 32 ∧ text.toList.all isDigit = true)
    (and_congr_right' all_isDigit_iff)

theorem length_of_digits (h : ∀ c ∈ text.toList, c ∈ digits) : text.utf8ByteSize = text.length := by
  have := utf8ByteSize_of_digits h
  rwa [String.ofList_toList, String.length_toList] at this

theorem IsText.utf8ByteSize (h : IsText text) : text.utf8ByteSize = 32 := by
  rw [length_of_digits h.2, h.1]

theorem number_lt_of_length (hlength : text.length = 32) (h : ∀ c ∈ text.toList, c ∈ digits) :
    number text.toList < Nat.pow 2 128 := by
  have hlt := number_lt h
  rw [String.length_toList, hlength] at hlt
  exact hlt

/-- What the reader of numbers refuses has been refused before. -/
theorem read_digits (hsize : text.utf8ByteSize = 32) (h : ∀ c ∈ text.toList, c ∈ digits) :
    read (Nat.pow 2 128) text.toList = .ok (number text.toList) := by
  have hlength : text.length = 32 := by rw [← length_of_digits h, hsize]
  have hne : text.toList ≠ [] := by
    intro hnil
    have := String.length_toList (s := text)
    rw [hnil, hlength] at this
    cases this
  exact read_of_digits hne h (number_lt_of_length hlength h)

theorem decode_of_isText (h : IsText text) :
    decode text = .ok ⟨BitVec.ofNat 128 (number text.toList)⟩ := by
  rw [decode, if_neg (not_not_intro h.utf8ByteSize), if_neg (not_not_intro (all_isDigit_iff.2 h.2)),
    read_digits h.utf8ByteSize h.2]

def refusal (text : String) : DecodeError :=
  .invalidFingerprint text
    (if text.utf8ByteSize ≠ 32 then "expected 32 hexadecimal digits"
      else "non-hexadecimal character")

theorem decode_of_not_isText (h : ¬ IsText text) : decode text = .error (refusal text) := by
  rw [decode, refusal]
  by_cases hsize : text.utf8ByteSize ≠ 32
  · rw [if_pos hsize, if_pos hsize]
  · have hnot : ¬ text.toList.all isDigit = true := by
      rw [all_isDigit_iff]
      intro hdigits
      apply h
      exact ⟨by rw [← length_of_digits hdigits, not_not.1 hsize], hdigits⟩
    rw [if_neg hsize, if_pos hnot, if_neg hsize]

theorem toNat_ofNat_number (h : IsText text) :
    (BitVec.ofNat 128 (number text.toList)).toNat = number text.toList := by
  rw [BitVec.toNat_ofNat]
  exact Nat.mod_eq_of_lt (number_lt_of_length h.1 h.2)

theorem decode_eq_ok_iff :
    decode text = .ok f ↔ IsText text ∧ f.value.toNat = number text.toList := by
  by_cases h : IsText text
  · rw [decode_of_isText h]
    constructor
    · intro hf
      cases hf
      exact ⟨h, toNat_ofNat_number h⟩
    · rintro ⟨-, hf⟩
      obtain ⟨value⟩ := f
      rw [← hf, BitVec.ofNat_toNat, BitVec.setWidth_eq]
  · rw [decode_of_not_isText h]
    exact iff_of_false nofun fun hf => h hf.1

theorem decode_eq_error_iff {e : DecodeError} :
    decode text = .error e ↔ ¬ IsText text ∧ e = .invalidFingerprint text
      (if text.utf8ByteSize ≠ 32 then "expected 32 hexadecimal digits"
        else "non-hexadecimal character") := by
  by_cases h : IsText text
  · rw [decode_of_isText h]
    exact iff_of_false nofun fun he => he.1 h
  · rw [decode_of_not_isText h, Except.error.injEq, eq_comm]
    exact (and_iff_right h).symm

theorem length_encode (f : Fingerprint) : f.encode.length = 32 := by
  rw [encode, String.length_ofList]
  exact length_fixed 32 _

theorem mem_encode {c : Char} (h : c ∈ f.encode.toList) : c ∈ alphabet := by
  rw [encode, String.toList_ofList] at h
  exact mem_fixed h

theorem number_encode (f : Fingerprint) : number f.encode.toList = f.value.toNat := by
  rw [encode, String.toList_ofList, encodeChars, number_fixed]
  exact Nat.mod_eq_of_lt f.value.isLt

theorem decode_encode (f : Fingerprint) : decode f.encode = .ok f := by
  rw [decode_eq_ok_iff, number_encode]
  refine ⟨⟨length_encode f, ?_⟩, rfl⟩
  intro c hc
  exact List.mem_append_left _ (mem_encode hc)

/-- Writing what was read changes nothing but the case of letters. -/
theorem encode_of_decode (h : decode text = .ok f) : f.encode = lower text := by
  obtain ⟨htext, hf⟩ := decode_eq_ok_iff.1 h
  have hlength : text.toList.length = 32 := by rw [String.length_toList, htext.1]
  rw [encode, encodeChars, hf, ← hlength, fixed_number htext.2, lower]

/-- The texts of fingerprints, what each stands for, and why any other text is refused. -/
theorem text_exact :
    (∀ f : Fingerprint, f.encode.length = 32 ∧ (∀ c ∈ f.encode.toList, c ∈ alphabet) ∧
      decode f.encode = .ok f) ∧
    ∀ text : String,
      (∀ f, decode text = .ok f ↔ IsText text ∧ f.value.toNat = number text.toList) ∧
      (IsText text → number text.toList < 2 ^ 128) ∧
      (∀ f, decode text = .ok f → f.encode = lower text) ∧
      (∀ e, decode text = .error e ↔ ¬ IsText text ∧ e = .invalidFingerprint text
        (if text.utf8ByteSize ≠ 32 then "expected 32 hexadecimal digits"
          else "non-hexadecimal character")) ∧
      (text.utf8ByteSize = 32 → text.toList.all isDigit = true →
        ∃ n, read (2 ^ 128) text.toList = .ok n) := by
  refine ⟨?_, ?_⟩
  · intro f
    exact ⟨length_encode f, fun c => mem_encode, decode_encode f⟩
  · intro text
    refine ⟨fun f => decode_eq_ok_iff, ?_, fun f => encode_of_decode,
      fun e => decode_eq_error_iff, ?_⟩
    · intro h
      exact number_lt_of_length h.1 h.2
    · intro hsize hdigits
      exact ⟨_, read_digits hsize (all_isDigit_iff.1 hdigits)⟩

/-- Upper case is read, sixteen letters of two bytes each have the width but are refused, and so is
a number with a sign, which the reader of numbers takes. -/
theorem text_exact_cases :
    let shout := "0123456789ABCDEF0123456789abcdef"
    let accents := "éééééééééééééééé"
    let signed := "+0123456789abcdef0123456789abcde"
    IsText shout ∧ (∃ f, decode shout = .ok f ∧ f.encode = "0123456789abcdef0123456789abcdef") ∧
      accents.utf8ByteSize = 32 ∧
      decode accents = .error (.invalidFingerprint accents "non-hexadecimal character") ∧
      (∃ n, read (2 ^ 128) signed.toList = .ok n) ∧
      decode signed = .error (.invalidFingerprint signed "non-hexadecimal character") := by
  intro shout accents signed
  have hshout : IsText shout := by decide +kernel
  have haccents : ¬ IsText accents := by decide +kernel
  have hsigned : ¬ IsText signed := by decide +kernel
  obtain ⟨hok, hlt, hlower, -, -⟩ := text_exact.2 shout
  have hread := (hok ⟨BitVec.ofNat 128 (number shout.toList)⟩).2 ⟨hshout, by decide +kernel⟩
  have hsign : read (2 ^ 128) signed.toList = .ok 0x123456789abcdef0123456789abcde := by
    decide +kernel
  refine ⟨hshout, ⟨_, hread, ?_⟩, by decide +kernel, ?_, ⟨_, hsign⟩, ?_⟩
  · rw [hlower _ hread]
    decide +kernel
  · exact ((text_exact.2 accents).2.2.2.1 _).2 ⟨haccents, by decide +kernel⟩
  · exact ((text_exact.2 signed).2.2.2.1 _).2 ⟨hsigned, by decide +kernel⟩

end SymbolIndex.Fingerprint
