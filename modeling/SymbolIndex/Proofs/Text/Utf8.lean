import SymbolIndex.Text.Utf8

/-! # What UTF-8 reads

`Sequence` lists the byte sequences of scalars by their length, apart from the reader and from the
encoder. Both agree with it, so a byte list is read exactly if it is the encoding of some text.
-/
namespace SymbolIndex.Utf8

def IsTail (b : UInt8) : Prop := 0x80 ≤ b.toNat ∧ b.toNat ≤ 0xBF

/-- The bytes of one scalar and the number they carry. The bounds on a second byte keep out longer
forms of smaller numbers, surrogates, and numbers above U+10FFFF. -/
inductive Sequence : List UInt8 → Nat → Prop where
  | one {a : UInt8} (ha : a.toNat < 0x80) : Sequence [a] a.toNat
  | two {a b : UInt8} (ha : 0xC2 ≤ a.toNat ∧ a.toNat ≤ 0xDF) (hb : IsTail b) :
    Sequence [a, b] (a.toNat % 32 * 64 + b.toNat % 64)
  | three {a b c : UInt8} (ha : 0xE0 ≤ a.toNat ∧ a.toNat ≤ 0xEF) (hb : IsTail b) (hc : IsTail c)
    (long : a.toNat = 0xE0 → 0xA0 ≤ b.toNat) (plain : a.toNat = 0xED → b.toNat ≤ 0x9F) :
    Sequence [a, b, c] ((a.toNat % 16 * 64 + b.toNat % 64) * 64 + c.toNat % 64)
  | four {a b c d : UInt8} (ha : 0xF0 ≤ a.toNat ∧ a.toNat ≤ 0xF4) (hb : IsTail b) (hc : IsTail c)
    (hd : IsTail d) (long : a.toNat = 0xF0 → 0x90 ≤ b.toNat)
    (low : a.toNat = 0xF4 → b.toNat ≤ 0x8F) :
    Sequence [a, b, c, d]
      (((a.toNat % 8 * 64 + b.toNat % 64) * 64 + c.toNat % 64) * 64 + d.toNat % 64)

theorem Sequence.valid {bs : List UInt8} {n : Nat} (h : Sequence bs n) : n.isValidChar := by
  unfold Nat.isValidChar
  cases h with
  | one ha => omega
  | two ha hb => omega
  | three ha hb hc long plain =>
    simp only [IsTail] at hb hc
    omega
  | four ha hb hc hd long low =>
    simp only [IsTail] at hb hc hd
    omega

theorem toNat_ofNat {n : Nat} (h : n.isValidChar) : (Char.ofNat n).toNat = n := by
  rw [Char.ofNat, dif_pos h]
  rfl

theorem Sequence.of_eq {bs : List UInt8} {m n : Nat} (h : Sequence bs m) (hn : m = n) :
    Sequence bs n := hn ▸ h

/-- The encoder takes a number apart into digits to base 64, which the bytes then carry. -/
theorem sequence_encodeChar (c : Char) : Sequence (String.utf8EncodeChar c) c.toNat := by
  have hv : c.val.toNat < 0xD800 ∨ 0xDFFF < c.val.toNat ∧ c.val.toNat < 0x110000 := c.valid
  change Sequence _ c.val.toNat
  generalize hn : c.val.toNat = n at hv
  simp only [String.utf8EncodeChar, hn]
  split
  · have hs := Sequence.one (a := UInt8.ofNat n) (by simp; omega)
    exact hs.of_eq (by simp; omega)
  split
  · have hs := Sequence.two (a := UInt8.ofNat (n / 64 % 32 + 192))
      (b := UInt8.ofNat (n % 64 + 128)) (by simp; omega) (by simp [IsTail]; omega)
    exact hs.of_eq (by simp; omega)
  split
  · have hs := Sequence.three (a := UInt8.ofNat (n / 4096 % 16 + 224))
      (b := UInt8.ofNat (n / 64 % 64 + 128)) (c := UInt8.ofNat (n % 64 + 128))
      (by simp; omega) (by simp [IsTail]; omega) (by simp [IsTail]; omega) (by simp; omega)
      (by simp; omega)
    exact hs.of_eq (by simp; omega)
  · have hs := Sequence.four (a := UInt8.ofNat (n / 262144 % 8 + 240))
      (b := UInt8.ofNat (n / 4096 % 64 + 128)) (c := UInt8.ofNat (n / 64 % 64 + 128))
      (d := UInt8.ofNat (n % 64 + 128)) (by simp; omega) (by simp [IsTail]; omega)
      (by simp [IsTail]; omega) (by simp [IsTail]; omega) (by simp; omega) (by simp; omega)
    exact hs.of_eq (by simp; omega)

theorem Sequence.encodeChar {bs : List UInt8} {n : Nat} (h : Sequence bs n) :
    String.utf8EncodeChar (Char.ofNat n) = bs := by
  have hn : (Char.ofNat n).val.toNat = n := toNat_ofNat h.valid
  simp only [String.utf8EncodeChar, hn]
  cases h with
  | one ha =>
    rw [if_pos (by omega)]
    simp
  | two ha hb =>
    simp only [IsTail] at hb
    rw [if_neg (by omega), if_pos (by omega)]
    simp only [List.cons.injEq, ← UInt8.toNat_inj, UInt8.toNat_ofNat', and_true]
    omega
  | three ha hb hc long plain =>
    simp only [IsTail] at hb hc
    rw [if_neg (by omega), if_neg (by omega), if_pos (by omega)]
    simp only [List.cons.injEq, ← UInt8.toNat_inj, UInt8.toNat_ofNat', and_true]
    omega
  | four ha hb hc hd long low =>
    simp only [IsTail] at hb hc hd
    rw [if_neg (by omega), if_neg (by omega), if_neg (by omega)]
    simp only [List.cons.injEq, ← UInt8.toNat_inj, UInt8.toNat_ofNat', and_true]
    omega

/-- A small byte is never a part of a longer sequence. -/
theorem toNat_of_mem_encodeChar {c : Char} {b : UInt8} (h : b ∈ String.utf8EncodeChar c)
    (hb : b.toNat < 0x80) : b.toNat = c.toNat := by
  have hs := sequence_encodeChar c
  generalize String.utf8EncodeChar c = bs at h hs
  generalize c.toNat = n at hs
  cases hs with
  | one ha => rw [List.mem_singleton.1 h]
  | two ha hb' =>
    simp only [IsTail] at hb'
    simp only [List.mem_cons, List.not_mem_nil, or_false] at h
    rcases h with rfl | rfl <;> omega
  | three ha hb' hc =>
    simp only [IsTail] at hb' hc
    simp only [List.mem_cons, List.not_mem_nil, or_false] at h
    rcases h with rfl | rfl | rfl <;> omega
  | four ha hb' hc hd =>
    simp only [IsTail] at hb' hc hd
    simp only [List.mem_cons, List.not_mem_nil, or_false] at h
    rcases h with rfl | rfl | rfl | rfl <;> omega

theorem lead?_two {b : UInt8} (h : 0xC2 ≤ b.toNat ∧ b.toNat ≤ 0xDF) :
    lead? b = some (1, 32, 0x80, 0xBF) := by
  simp only [lead?, UInt8.le_iff_toNat_le, UInt8.reduceToNat]
  rw [if_pos h]

theorem lead?_three {b : UInt8} (h : 0xE0 ≤ b.toNat ∧ b.toNat ≤ 0xEF) :
    lead? b = some (2, 16, if b.toNat = 0xE0 then 0xA0 else 0x80,
      if b.toNat = 0xED then 0x9F else 0xBF) := by
  simp only [lead?, UInt8.le_iff_toNat_le, ← UInt8.toNat_inj, UInt8.reduceToNat]
  rw [if_neg (by omega)]
  by_cases h0 : b.toNat = 0xE0
  · simp [h0]
  by_cases hD : b.toNat = 0xED
  · simp [hD]
  rw [if_neg h0, if_neg hD, if_pos (by omega), if_neg h0, if_neg hD]

theorem lead?_four {b : UInt8} (h : 0xF0 ≤ b.toNat ∧ b.toNat ≤ 0xF4) :
    lead? b = some (3, 8, if b.toNat = 0xF0 then 0x90 else 0x80,
      if b.toNat = 0xF4 then 0x8F else 0xBF) := by
  simp only [lead?, UInt8.le_iff_toNat_le, ← UInt8.toNat_inj, UInt8.reduceToNat]
  rw [if_neg (by omega), if_neg (by omega), if_neg (by omega), if_neg (by omega)]
  by_cases h0 : b.toNat = 0xF0
  · simp [h0]
  by_cases h4 : b.toNat = 0xF4
  · simp [h4]
  rw [if_neg h0, if_pos (by omega), if_neg h0, if_neg h4]

theorem lead?_none {b : UInt8} (h : b.toNat < 0xC2 ∨ 0xF4 < b.toNat) : lead? b = none := by
  simp only [lead?, UInt8.le_iff_toNat_le, ← UInt8.toNat_inj, UInt8.reduceToNat]
  rw [if_neg (by omega), if_neg (by omega), if_neg (by omega), if_neg (by omega),
    if_neg (by omega), if_neg (by omega), if_neg (by omega)]

/-- The range of the second byte of three, as `Sequence.three` has it. -/
theorem second_of_three {a b : UInt8} :
    (if a.toNat = 0xE0 then 0xA0 else 0x80) ≤ b ∧ b ≤ (if a.toNat = 0xED then 0x9F else 0xBF) ↔
      IsTail b ∧ (a.toNat = 0xE0 → 0xA0 ≤ b.toNat) ∧ (a.toNat = 0xED → b.toNat ≤ 0x9F) := by
  simp only [IsTail, UInt8.le_iff_toNat_le]
  split <;> split <;> simp only [UInt8.reduceToNat] <;> omega

theorem second_of_four {a b : UInt8} :
    (if a.toNat = 0xF0 then 0x90 else 0x80) ≤ b ∧ b ≤ (if a.toNat = 0xF4 then 0x8F else 0xBF) ↔
      IsTail b ∧ (a.toNat = 0xF0 → 0x90 ≤ b.toNat) ∧ (a.toNat = 0xF4 → b.toNat ≤ 0x8F) := by
  simp only [IsTail, UInt8.le_iff_toNat_le]
  split <;> split <;> simp only [UInt8.reduceToNat] <;> omega

theorem isTail_iff {b : UInt8} : 0x80 ≤ b ∧ b ≤ 0xBF ↔ IsTail b := by
  simp only [IsTail, UInt8.le_iff_toNat_le, UInt8.reduceToNat]

theorem head_sequence {a : UInt8} {tail : List UInt8} {n : Nat} (h : Sequence (a :: tail) n)
    (rest : List UInt8) : head a (tail ++ rest) = .scalar (Char.ofNat n) (tail.length + 1) := by
  simp only [head, UInt8.lt_iff_toNat_lt, UInt8.reduceToNat]
  cases h with
  | one ha => rw [if_pos ha]; rfl
  | two ha hb =>
    rw [if_neg (by omega), lead?_two ha]
    simp [continuation, isTail_iff, hb]
  | three ha hb hc long plain =>
    have h2 := second_of_three.2 ⟨hb, long, plain⟩
    rw [if_neg (by omega), lead?_three ha]
    simp only [List.cons_append, continuation, h2, isTail_iff, hc, and_self, if_true]
    rfl
  | four ha hb hc hd long low =>
    have h2 := second_of_four.2 ⟨hb, long, low⟩
    rw [if_neg (by omega), lead?_four ha]
    simp only [List.cons_append, continuation, h2, isTail_iff, hc, hd, and_self, if_true]
    rfl

theorem continuation_succ {seen bits more size : Nat} {low high : UInt8} {bs : List UInt8}
    {c : Char} (h : continuation seen bits (more + 1) low high bs = .scalar c size) :
    ∃ b rest, bs = b :: rest ∧ (low ≤ b ∧ b ≤ high) ∧
      continuation (seen + 1) (bits * 64 + b.toNat % 64) more 0x80 0xBF rest = .scalar c size := by
  cases bs with
  | nil => cases h
  | cons b rest =>
    rw [continuation] at h
    split at h
    · exact ⟨b, rest, rfl, ‹_›, h⟩
    · cases h

/-- A scalar is only found where its whole sequence stands. -/
theorem sequence_of_head {a : UInt8} {bs : List UInt8} {c : Char} {size : Nat}
    (h : head a bs = .scalar c size) :
    ∃ tail rest n, bs = tail ++ rest ∧ size = tail.length + 1 ∧ c = Char.ofNat n ∧
      Sequence (a :: tail) n := by
  simp only [head, UInt8.lt_iff_toNat_lt, UInt8.reduceToNat] at h
  by_cases h1 : a.toNat < 0x80
  · rw [if_pos h1] at h
    cases h
    exact ⟨[], bs, _, rfl, rfl, rfl, .one h1⟩
  rw [if_neg h1] at h
  by_cases h2 : 0xC2 ≤ a.toNat ∧ a.toNat ≤ 0xDF
  · rw [lead?_two h2] at h
    obtain ⟨b, rest, rfl, hb, h⟩ := continuation_succ h
    cases h
    exact ⟨[b], rest, _, rfl, rfl, rfl, .two h2 (isTail_iff.1 hb)⟩
  by_cases h3 : 0xE0 ≤ a.toNat ∧ a.toNat ≤ 0xEF
  · rw [lead?_three h3] at h
    obtain ⟨b, rest, rfl, hb, h⟩ := continuation_succ h
    obtain ⟨c, rest, rfl, hc, h⟩ := continuation_succ h
    cases h
    obtain ⟨hb, long, plain⟩ := second_of_three.1 hb
    exact ⟨[b, c], rest, _, rfl, rfl, rfl, .three h3 hb (isTail_iff.1 hc) long plain⟩
  by_cases h4 : 0xF0 ≤ a.toNat ∧ a.toNat ≤ 0xF4
  · rw [lead?_four h4] at h
    obtain ⟨b, rest, rfl, hb, h⟩ := continuation_succ h
    obtain ⟨c, rest, rfl, hc, h⟩ := continuation_succ h
    obtain ⟨d, rest, rfl, hd, h⟩ := continuation_succ h
    cases h
    obtain ⟨hb, long, low⟩ := second_of_four.1 hb
    exact ⟨[b, c, d], rest, _, rfl, rfl, rfl,
      .four h4 hb (isTail_iff.1 hc) (isTail_iff.1 hd) long low⟩
  · rw [lead?_none (by omega)] at h
    cases h

theorem not_isTail_of_sequence {a : UInt8} {tail : List UInt8} {n : Nat}
    (h : Sequence (a :: tail) n) : ¬ IsTail a := by
  cases h
  all_goals
    simp only [IsTail]
    omega

/-- What stands at the front of an encoding is its first scalar, whatever comes after it. -/
theorem exists_head_encodeChar (c : Char) :
    ∃ a tail, String.utf8EncodeChar c = a :: tail ∧ ¬ IsTail a ∧
      ∀ rest, head a (tail ++ rest) = .scalar c (tail.length + 1) := by
  have hs := sequence_encodeChar c
  cases hc : String.utf8EncodeChar c with
  | nil =>
    rw [hc] at hs
    cases hs
  | cons a tail =>
    rw [hc] at hs
    refine ⟨a, tail, rfl, not_isTail_of_sequence hs, ?_⟩
    intro rest
    rw [head_sequence hs, Char.ofNat_toNat]

theorem encode_cons_append (c : Char) (cs : List Char) (bs : List UInt8) :
    encode (c :: cs) ++ bs = String.utf8EncodeChar c ++ (encode cs ++ bs) := by
  rw [encode, encode, List.flatMap_cons, List.append_assoc]

/-- Strict reading goes over a text and then on as if it began there. -/
theorem decodeFrom_append (position : Nat) (cs : List Char) (bs : List UInt8) :
    decodeFrom position (encode cs ++ bs) =
      (decodeFrom (position + (encode cs).length) bs).map (cs ++ ·) := by
  induction cs generalizing position with
  | nil =>
    change decodeFrom position bs = (decodeFrom position bs).map id
    cases decodeFrom position bs <;> rfl
  | cons c cs ih =>
    obtain ⟨a, tail, hc, -, hhead⟩ := exists_head_encodeChar c
    have hposition : position + (tail.length + 1) + (encode cs).length =
        position + (encode (c :: cs)).length := by
      simp only [encode, List.flatMap_cons, List.length_append, hc, List.length_cons]
      omega
    rw [encode_cons_append, hc, List.cons_append, decodeFrom, hhead]
    simp only [Nat.add_sub_cancel, List.drop_left, ih, hposition]
    cases decodeFrom (position + (encode (c :: cs)).length) bs <;> rfl

theorem lossy_append (cs : List Char) (bs : List UInt8) :
    lossy (encode cs ++ bs) = cs ++ lossy bs := by
  induction cs with
  | nil => rfl
  | cons c cs ih =>
    obtain ⟨a, tail, hc, -, hhead⟩ := exists_head_encodeChar c
    rw [encode_cons_append, hc, List.cons_append, lossy, hhead]
    simp only [Nat.add_sub_cancel, List.drop_left, ih, List.cons_append]

theorem decodeFrom_encode (position : Nat) (cs : List Char) :
    decodeFrom position (encode cs) = .ok cs := by
  have happend := decodeFrom_append position cs []
  rw [List.append_nil, decodeFrom] at happend
  rw [happend, Except.map, List.append_nil]

/-- No part of an encoding is malformed. -/
theorem lossy_encode (cs : List Char) : lossy (encode cs) = cs := by
  have happend := lossy_append cs []
  rwa [List.append_nil, lossy, List.append_nil] at happend

theorem eq_encode_of_decodeFrom {position : Nat} {bs : List UInt8} {cs : List Char}
    (h : decodeFrom position bs = .ok cs) : bs = encode cs := by
  induction position, bs using decodeFrom.induct generalizing cs with
  | case1 position =>
    rw [decodeFrom] at h
    cases h
    rfl
  | case2 position a bs c size hhead ih =>
    rw [decodeFrom, hhead] at h
    obtain ⟨tail, rest, n, rfl, rfl, rfl, hs⟩ := sequence_of_head hhead
    simp only [Nat.add_sub_cancel, List.drop_left] at h ih
    cases hr : decodeFrom (position + (tail.length + 1)) rest with
    | error fault =>
      rw [hr] at h
      cases h
    | ok cs' =>
      rw [hr] at h
      cases h
      rw [encode, List.flatMap_cons, hs.encodeChar, ih hr]
      rfl
  | case3 position a bs size hhead =>
    rw [decodeFrom, hhead] at h
    cases h
  | case4 position a bs hhead =>
    rw [decodeFrom, hhead] at h
    cases h

/-- Strict reading accepts the encodings of texts and nothing else. -/
theorem decode_eq_ok_iff {bytes : List UInt8} {cs : List Char} :
    decode bytes = .ok cs ↔ bytes = encode cs := by
  constructor
  · exact eq_encode_of_decodeFrom
  · rintro rfl
    exact decodeFrom_encode 0 cs

@[simp] theorem decode_encode (cs : List Char) : decode (encode cs) = .ok cs :=
  decode_eq_ok_iff.2 rfl

theorem encode_injective {cs ds : List Char} (h : encode cs = encode ds) : cs = ds := by
  have hd := decode_encode ds
  rw [← h, decode_encode] at hd
  exact Except.ok.inj hd

theorem encode_eq_iff {cs ds : List Char} : encode cs = encode ds ↔ cs = ds :=
  ⟨encode_injective, congrArg encode⟩

inductive WellFormed : List UInt8 → Prop where
  | nil : WellFormed []
  | cons {bs rest : List UInt8} {n : Nat} (first : Sequence bs n) (more : WellFormed rest) :
    WellFormed (bs ++ rest)

theorem wellFormed_iff {bytes : List UInt8} : WellFormed bytes ↔ ∃ cs, bytes = encode cs := by
  constructor
  · intro h
    induction h with
    | nil => exact ⟨[], rfl⟩
    | @cons bs rest n first more ih =>
      obtain ⟨cs, rfl⟩ := ih
      refine ⟨Char.ofNat n :: cs, ?_⟩
      rw [encode, encode, List.flatMap_cons, first.encodeChar]
  · rintro ⟨cs, rfl⟩
    induction cs with
    | nil => exact .nil
    | cons c cs ih =>
      rw [encode, List.flatMap_cons]
      exact .cons (sequence_encodeChar c) ih

theorem wellFormed_iff_text {bytes : List UInt8} :
    WellFormed bytes ↔ ∃ text : String, bytes = encode text.toList := by
  rw [wellFormed_iff]
  constructor
  · rintro ⟨cs, rfl⟩
    exact ⟨String.ofList cs, by rw [String.toList_ofList]⟩
  · rintro ⟨text, rfl⟩
    exact ⟨text.toList, rfl⟩

theorem exists_fault_of_not_wellFormed {bytes : List UInt8} (h : ¬ WellFormed bytes) :
    ∃ fault, decode bytes = .error fault := by
  cases hdecode : decode bytes with
  | error fault => exact ⟨fault, rfl⟩
  | ok cs => exact absurd (wellFormed_iff.2 ⟨cs, decode_eq_ok_iff.1 hdecode⟩) h

end SymbolIndex.Utf8
