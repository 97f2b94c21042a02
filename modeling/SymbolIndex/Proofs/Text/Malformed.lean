import SymbolIndex.Proofs.Text.Utf8

/-! # Where bytes are no text

Strict reading stops behind the longest initial part that is UTF-8. What is malformed there is the
longest beginning of a scalar, or one byte if there is none. Lossy reading writes one U+FFFD for it
and goes on behind it, so no scalar is ever lost: it is read where it stands, whatever is around it.
-/
namespace SymbolIndex.Utf8

/-- The bytes of some scalar without its last ones, of which at least one is missing. -/
def Begins (bs : List UInt8) : Prop :=
  ∃ c : Char, bs <+: String.utf8EncodeChar c ∧ bs ≠ String.utf8EncodeChar c

structure Longest (P : List UInt8 → Prop) (bs : List UInt8) (n : Nat) : Prop where
  fits : n ≤ bs.length
  holds : P (bs.take n)
  longest : ∀ m, m ≤ bs.length → P (bs.take m) → m ≤ n

/-! ## What stands at the front -/

section

variable {seen bits more size : Nat} {low high : UInt8} {bs : List UInt8} {a : UInt8} {c : Char}

/-- Once it is known what stands at the front, more bytes do not change it. -/
theorem continuation_append (h : continuation seen bits more low high bs ≠ .truncated)
    (ys : List UInt8) : continuation seen bits more low high (bs ++ ys) =
      continuation seen bits more low high bs := by
  induction more generalizing seen bits low high bs with
  | zero => rfl
  | succ more ih =>
    cases bs with
    | nil => exact absurd rfl h
    | cons b bs =>
      simp only [List.cons_append, continuation] at h ⊢
      by_cases hb : low ≤ b ∧ b ≤ high
      · rw [if_pos hb] at h
        rw [if_pos hb, if_pos hb, ih h]
      · rw [if_neg hb, if_neg hb]

theorem continuation_of_tails (more : Nat) (h : low ≤ high) :
    ∃ ys c, ys.length = more ∧ continuation seen bits more low high ys = .scalar c (seen + more) := by
  induction more generalizing seen bits low high with
  | zero => exact ⟨[], _, rfl, rfl⟩
  | succ more ih =>
    obtain ⟨ys, c, hlength, hys⟩ := @ih (seen + 1) (bits * 64 + low.toNat % 64) 0x80 0xBF (by decide)
    refine ⟨low :: ys, c, by rw [List.length_cons, hlength], ?_⟩
    rw [continuation, if_pos ⟨UInt8.le_refl _, h⟩, hys]
    congr 1
    omega

/-- A sequence that is cut short can be completed. -/
theorem exists_complete (hrange : low ≤ high)
    (h : continuation seen bits more low high bs = .truncated) :
    ∃ ys c, ys ≠ [] ∧ continuation seen bits more low high (bs ++ ys) =
      .scalar c (seen + bs.length + ys.length) := by
  induction more generalizing seen bits low high bs with
  | zero => cases h
  | succ more ih =>
    cases bs with
    | nil =>
      obtain ⟨ys, c, hlength, hys⟩ := @continuation_of_tails seen bits low high (more + 1) hrange
      refine ⟨ys, c, ?_, ?_⟩
      · rintro rfl
        cases hlength
      · rw [List.nil_append, hys, hlength]
        rfl
    | cons b bs =>
      rw [continuation] at h
      split at h
      · rename_i hb
        obtain ⟨ys, c, hne, hys⟩ := ih (by decide) h
        refine ⟨ys, c, hne, ?_⟩
        rw [List.cons_append, continuation, if_pos hb, hys, List.length_cons]
        congr 1
        omega
      · cases h

/-- What is malformed is cut short in front of the first byte that does not fit. -/
theorem continuation_malformed (h : continuation seen bits more low high bs = .malformed size) :
    ∃ good bad rest, bs = good ++ bad :: rest ∧ size = seen + good.length ∧
      continuation seen bits more low high good = .truncated ∧
      continuation seen bits more low high (good ++ [bad]) = .malformed size := by
  induction more generalizing seen bits low high bs with
  | zero => cases h
  | succ more ih =>
    cases bs with
    | nil => cases h
    | cons b bs =>
      rw [continuation] at h
      split at h
      · rename_i hb
        obtain ⟨good, bad, rest, rfl, hsize, hgood, hbad⟩ := ih h
        refine ⟨b :: good, bad, rest, rfl, ?_, ?_, ?_⟩
        · rw [hsize, List.length_cons]
          omega
        · rw [continuation, if_pos hb, hgood]
        · rw [List.cons_append, continuation, if_pos hb, hbad]
      · rename_i hb
        cases h
        refine ⟨[], b, bs, rfl, rfl, rfl, ?_⟩
        rw [List.nil_append, continuation, if_neg hb]

/-- A byte that starts a scalar ends the sequence in front of it. -/
theorem continuation_stops (hlow : 0x80 ≤ low) (hhigh : high ≤ 0xBF) (ha : ¬ IsTail a)
    (h : continuation seen bits more low high bs = .truncated) (rest : List UInt8) :
    continuation seen bits more low high (bs ++ a :: rest) = .malformed (seen + bs.length) := by
  induction more generalizing seen bits low high bs with
  | zero => cases h
  | succ more ih =>
    cases bs with
    | nil =>
      rw [List.nil_append, continuation, if_neg]
      · rfl
      · rintro ⟨hla, hah⟩
        exact ha (isTail_iff.1 ⟨UInt8.le_trans hlow hla, UInt8.le_trans hah hhigh⟩)
    | cons b bs =>
      rw [continuation] at h
      split at h
      · rename_i hb
        rw [List.cons_append, continuation, if_pos hb, ih (UInt8.le_refl _) (UInt8.le_refl _) h,
          List.length_cons]
        congr 1
        omega
      · cases h

theorem lead?_range {b low high : UInt8} {values : Nat} (h : lead? b = some (more, values, low, high)) :
    0x80 ≤ low ∧ low ≤ high ∧ high ≤ 0xBF := by
  unfold lead? at h
  repeat' split at h
  all_goals cases h
  all_goals decide

/-- Either the first byte alone decides, or the bytes after it do. -/
theorem head_cases (a : UInt8) :
    (∃ c, ∀ bs, head a bs = .scalar c 1) ∨ (∀ bs, head a bs = .malformed 1) ∨
      ∃ bits more low high, (0x80 ≤ low ∧ low ≤ high ∧ high ≤ 0xBF) ∧
        ∀ bs, head a bs = continuation 1 bits more low high bs := by
  by_cases ha : a < 0x80
  · refine Or.inl ⟨Char.ofNat a.toNat, ?_⟩
    intro bs
    rw [head, if_pos ha]
  · refine Or.inr ?_
    cases hlead : lead? a with
    | none =>
      refine Or.inl ?_
      intro bs
      rw [head, if_neg ha, hlead]
    | some lead =>
      obtain ⟨more, values, low, high⟩ := lead
      refine Or.inr ⟨a.toNat % values, more, low, high, lead?_range hlead, ?_⟩
      intro bs
      rw [head, if_neg ha, hlead]

theorem head_append (h : head a bs ≠ .truncated) (ys : List UInt8) :
    head a (bs ++ ys) = head a bs := by
  rcases head_cases a with ⟨c, hc⟩ | hm | ⟨bits, more, low, high, -, hk⟩
  · rw [hc, hc]
  · rw [hm, hm]
  · rw [hk] at h
    rw [hk, hk, continuation_append h]

theorem head_append_of_scalar (h : head a bs = .scalar c size) (ys : List UInt8) :
    head a (bs ++ ys) = .scalar c size := by
  rw [head_append (by simp [h]), h]

theorem head_append_of_malformed (h : head a bs = .malformed size) (ys : List UInt8) :
    head a (bs ++ ys) = .malformed size := by
  rw [head_append (by simp [h]), h]

theorem exists_head_complete (h : head a bs = .truncated) :
    ∃ ys c, ys ≠ [] ∧ head a (bs ++ ys) = .scalar c (1 + bs.length + ys.length) := by
  rcases head_cases a with ⟨c, hc⟩ | hm | ⟨bits, more, low, high, hrange, hk⟩
  · rw [hc] at h
    cases h
  · rw [hm] at h
    cases h
  · rw [hk] at h
    simp only [hk]
    exact exists_complete hrange.2.1 h

theorem head_stops {b : UInt8} (hb : ¬ IsTail b) (h : head a bs = .truncated) (rest : List UInt8) :
    head a (bs ++ b :: rest) = .malformed (1 + bs.length) := by
  rcases head_cases a with ⟨c, hc⟩ | hm | ⟨bits, more, low, high, hrange, hk⟩
  · rw [hc] at h
    cases h
  · rw [hm] at h
    cases h
  · rw [hk] at h
    rw [hk, continuation_stops hrange.1 hrange.2.2 hb h]

/-! ## Beginnings of scalars -/

theorem begins_nil : Begins [] := ⟨'a', List.nil_prefix, by decide⟩

theorem Begins.of_prefix {as : List UInt8} (h : Begins bs) (hp : as <+: bs) : Begins as := by
  obtain ⟨c, hbs, hne⟩ := h
  refine ⟨c, hp.trans hbs, ?_⟩
  rintro rfl
  exact hne (hbs.eq_of_length_le hp.length_le)

theorem begins_cons_iff : Begins (a :: bs) ↔ head a bs = .truncated := by
  constructor
  · rintro ⟨c, ⟨ys, hys⟩, hne⟩
    have hs := sequence_encodeChar c
    rw [← hys, List.cons_append] at hs
    have hhead := head_sequence hs []
    rw [List.append_nil] at hhead
    by_cases htruncated : head a bs = .truncated
    · exact htruncated
    · rw [head_append htruncated] at hhead
      obtain ⟨tail, rest, n, rfl, hsize, -, -⟩ := sequence_of_head hhead
      rw [List.length_append, List.length_append] at hsize
      have hnil : ys = [] := List.eq_nil_of_length_eq_zero (by omega)
      rw [hnil, List.append_nil] at hys
      exact absurd hys hne
  · intro h
    obtain ⟨ys, c, hne, hhead⟩ := exists_head_complete h
    obtain ⟨tail, rest, n, htail, hsize, -, hs⟩ := sequence_of_head hhead
    have hlengths := congrArg List.length htail
    rw [List.length_append, List.length_append] at hlengths
    have hnil : rest = [] := List.eq_nil_of_length_eq_zero (by omega)
    rw [hnil, List.append_nil] at htail
    rw [← htail] at hs
    refine ⟨Char.ofNat n, ?_, ?_⟩
    · rw [hs.encodeChar]
      exact ⟨ys, rfl⟩
    · rw [hs.encodeChar]
      intro heq
      exact hne (List.self_eq_append_right.1 (List.cons.inj heq).2)

/-- A malformed part is the longest beginning of a scalar, or one byte if there is none. -/
theorem longest_of_malformed (h : head a bs = .malformed size) :
    size ≤ bs.length + 1 ∧ ∃ n, Longest Begins (a :: bs) n ∧ size = max 1 n := by
  rcases head_cases a with ⟨c, hc⟩ | hm | ⟨bits, more, low, high, -, hk⟩
  · cases (hc bs).symm.trans h
  · cases (hm bs).symm.trans h
    refine ⟨Nat.le_add_left _ _, 0, ⟨Nat.zero_le _, begins_nil, ?_⟩, rfl⟩
    intro m _ hbegins
    cases m with
    | zero => exact Nat.le_refl _
    | succ m =>
      rw [List.take_succ_cons, begins_cons_iff, hm] at hbegins
      cases hbegins
  · rw [hk] at h
    obtain ⟨good, bad, rest, rfl, hsize, hgood, hbad⟩ := continuation_malformed h
    rw [← hk] at hgood hbad
    have hfits : size ≤ (good ++ bad :: rest).length + 1 := by
      rw [hsize, List.length_append]
      omega
    refine ⟨hfits, size, ⟨hfits, ?_, ?_⟩, by omega⟩
    · rw [hsize, Nat.add_comm, List.take_succ_cons, List.take_left, begins_cons_iff, hgood]
    · intro m _ hbegins
      rcases Nat.lt_or_ge size m with hlt | hle
      · have hprefix : a :: (good ++ [bad]) <+: (a :: (good ++ bad :: rest)).take m := by
          rw [List.prefix_take_iff]
          constructor
          · exact ⟨rest, by simp⟩
          · simp
            omega
        have htruncated := begins_cons_iff.1 (hbegins.of_prefix hprefix)
        cases hbad.symm.trans htruncated
      · exact hle

/-! ## Where strict reading stops -/

/-- A fault is found behind a text, where no scalar stands. -/
theorem exists_of_decodeFrom {position : Nat} {fault : Fault}
    (h : decodeFrom position bs = .error fault) :
    ∃ cs a rest, bs = encode cs ++ a :: rest ∧
      fault.position = position + (encode cs).length ∧
      ((∃ size, head a rest = .malformed size ∧ fault.length = some size) ∨
        head a rest = .truncated ∧ fault.length = none) := by
  induction position, bs using decodeFrom.induct with
  | case1 position =>
    rw [decodeFrom] at h
    cases h
  | case2 position a bs c size hhead ih =>
    rw [decodeFrom, hhead] at h
    obtain ⟨tail, rest, n, rfl, rfl, rfl, hs⟩ := sequence_of_head hhead
    simp only [Nat.add_sub_cancel, List.drop_left] at h ih
    cases hr : decodeFrom (position + (tail.length + 1)) rest with
    | ok cs =>
      rw [hr] at h
      cases h
    | error fault' =>
      rw [hr] at h
      cases h
      obtain ⟨cs, a', rest', rfl, hposition, hfault⟩ := ih hr
      refine ⟨Char.ofNat n :: cs, a', rest', ?_, ?_, hfault⟩
      · rw [encode, encode, List.flatMap_cons, hs.encodeChar]
        simp
      · rw [hposition, encode, encode, List.flatMap_cons, hs.encodeChar]
        simp
        omega
  | case3 position a bs size hhead =>
    rw [decodeFrom, hhead] at h
    cases h
    exact ⟨[], a, bs, rfl, rfl, Or.inl ⟨size, hhead, rfl⟩⟩
  | case4 position a bs hhead =>
    rw [decodeFrom, hhead] at h
    cases h
    exact ⟨[], a, bs, rfl, rfl, Or.inr ⟨hhead, rfl⟩⟩

/-- No text goes beyond a place where no scalar stands. -/
theorem longest_wellFormed {cs : List Char} {rest : List UInt8}
    (h : ∀ c size, head a rest ≠ .scalar c size) :
    Longest WellFormed (encode cs ++ a :: rest) (encode cs).length := by
  refine ⟨by simp, ?_, ?_⟩
  · rw [List.take_left]
    exact wellFormed_iff.2 ⟨cs, rfl⟩
  · intro m _ hm
    rcases Nat.lt_or_ge (encode cs).length m with hlt | hle
    · obtain ⟨k, rfl⟩ := Nat.exists_eq_add_of_lt hlt
      obtain ⟨ds, hds⟩ := wellFormed_iff.1 hm
      rw [Nat.add_assoc, List.take_length_add_append, List.take_succ_cons] at hds
      have hdecode := decodeFrom_encode 0 ds
      rw [← hds, decodeFrom_append, decodeFrom] at hdecode
      cases hhead : head a (rest.take k) with
      | scalar c size =>
        have hrest := head_append_of_scalar hhead (rest.drop k)
        rw [List.take_append_drop] at hrest
        exact absurd hrest (h c size)
      | malformed size =>
        rw [hhead] at hdecode
        cases hdecode
      | truncated =>
        rw [hhead] at hdecode
        cases hdecode
    · exact hle

def Fault.rest (fault : Fault) (bs : List UInt8) : List UInt8 :=
  match fault.length with
  | none => []
  | some n => bs.drop (fault.position + n)

/-- What strict reading tells of bytes that are no text, and lossy reading makes of them. -/
structure FaultAt (bs : List UInt8) (fault : Fault) : Prop where
  position : Longest WellFormed bs fault.position
  incomplete : fault.length = none ↔ Begins (bs.drop fault.position)
  length : ∀ n, fault.length = some n →
    ∃ m, Longest Begins (bs.drop fault.position) m ∧ n = max 1 m
  inside : ∀ n, fault.length = some n → 0 < n ∧ fault.position + n ≤ bs.length
  shown : ∃ cs, bs.take fault.position = encode cs ∧
    lossy bs = cs ++ '\uFFFD' :: lossy (fault.rest bs)

theorem faultAt_of_decode {fault : Fault} (h : decode bs = .error fault) : FaultAt bs fault := by
  obtain ⟨cs, a, rest, rfl, hposition, hfault⟩ := exists_of_decodeFrom h
  rw [Nat.zero_add] at hposition
  have hdrop : (encode cs ++ a :: rest).drop fault.position = a :: rest := by
    rw [hposition, List.drop_left]
  have htake : (encode cs ++ a :: rest).take fault.position = encode cs := by
    rw [hposition, List.take_left]
  rcases hfault with ⟨size, hhead, hlength⟩ | ⟨hhead, hlength⟩
  · obtain ⟨hfits, n, hlongest, hsize⟩ := longest_of_malformed hhead
    constructor
    · rw [hposition]
      exact longest_wellFormed (by simp [hhead])
    · rw [hdrop, begins_cons_iff, hhead, hlength]
      simp
    · intro m hm
      cases hlength.symm.trans hm
      exact ⟨n, by rwa [hdrop], hsize⟩
    · intro m hm
      cases hlength.symm.trans hm
      rw [hposition, List.length_append, List.length_cons]
      omega
    · refine ⟨cs, htake, ?_⟩
      have hlossy : lossy (a :: rest) = '\uFFFD' :: lossy (rest.drop (size - 1)) := by
        rw [lossy, hhead]
      have hrest : (a :: rest).drop size = rest.drop (size - 1) := by
        obtain ⟨k, rfl⟩ : ∃ k, size = k + 1 := ⟨size - 1, by omega⟩
        rfl
      simp only [Fault.rest, hlength]
      rw [lossy_append, hlossy, ← List.drop_drop, hdrop, hrest]
  · constructor
    · rw [hposition]
      exact longest_wellFormed (by simp [hhead])
    · rw [hdrop, begins_cons_iff, hhead, hlength]
      exact iff_of_true rfl rfl
    · intro m hm
      cases hlength.symm.trans hm
    · intro m hm
      cases hlength.symm.trans hm
    · refine ⟨cs, htake, ?_⟩
      have hlossy : lossy (a :: rest) = ['\uFFFD'] := by
        rw [lossy, hhead]
      simp only [Fault.rest, hlength]
      rw [lossy_append, hlossy, lossy]

/-! ## Lossy reading -/

theorem drop_before {size : Nat} (h : size ≤ bs.length + 1) (ys : List UInt8) :
    (bs ++ ys).drop (size - 1) = bs.drop (size - 1) ++ ys := by
  rw [List.drop_append_of_le_length]
  omega

/-- Lossy reading finds every scalar, whatever the bytes around it are. -/
theorem lossy_insert (before after : List UInt8) {cs : List Char} (hcs : cs ≠ []) :
    lossy (before ++ (encode cs ++ after)) = lossy before ++ (cs ++ lossy after) := by
  induction before using lossy.induct with
  | case1 => rw [List.nil_append, lossy_append, lossy, List.nil_append]
  | case2 a bs c size hhead ih =>
    have hsize : size ≤ bs.length + 1 := by
      obtain ⟨tail, rest, n, rfl, rfl, -, -⟩ := sequence_of_head hhead
      simp
    rw [List.cons_append, lossy, head_append_of_scalar hhead, lossy, hhead]
    simp only [drop_before hsize, ih, List.cons_append]
  | case3 a bs size hhead ih =>
    have hsize := (longest_of_malformed hhead).1
    rw [List.cons_append, lossy, head_append_of_malformed hhead, lossy, hhead]
    simp only [drop_before hsize, ih, List.cons_append]
  | case4 a bs hhead =>
    -- The sequence that was cut short at the end is now cut short by the scalar.
    obtain ⟨c, cs, rfl⟩ := List.exists_cons_of_ne_nil hcs
    obtain ⟨b, tail, hc, hb, -⟩ := exists_head_encodeChar c
    have hstops := head_stops hb hhead (tail ++ (encode cs ++ after))
    rw [← List.cons_append, ← hc, ← encode_cons_append] at hstops
    rw [List.cons_append, lossy, hstops, lossy, hhead]
    simp only [Nat.add_sub_cancel_left, List.drop_left, lossy_append, List.cons_append,
      List.nil_append]

/-- A text is shown as it is, and each malformed part of other bytes as one U+FFFD. -/
structure Shows (f : List UInt8 → List Char) : Prop where
  text : ∀ cs, f (encode cs) = cs
  fault : ∀ bs fault, decode bs = .error fault → ∃ cs, bs.take fault.position = encode cs ∧
    f bs = cs ++ '\uFFFD' :: f (fault.rest bs)

theorem lossy_shows : Shows lossy := by
  constructor
  · exact lossy_encode
  · intro bs fault h
    exact (faultAt_of_decode h).shown

theorem length_rest {fault : Fault} (h : decode bs = .error fault) :
    (fault.rest bs).length < bs.length := by
  rw [Fault.rest]
  cases hn : fault.length with
  | none =>
    cases bs with
    | nil =>
      rw [decode, decodeFrom] at h
      cases h
    | cons a bs => exact Nat.succ_pos _
  | some n =>
    obtain ⟨hpos, hinside⟩ := (faultAt_of_decode h).inside n hn
    simp only [List.length_drop]
    omega

/-- There is no other way to show bytes: what is left behind a fault is always less. -/
theorem Shows.eq_lossy {f : List UInt8 → List Char} (h : Shows f) (bs : List UInt8) :
    f bs = lossy bs := by
  induction hlength : bs.length using Nat.strongRecOn generalizing bs with
  | ind n ih =>
    cases hdecode : decode bs with
    | ok cs =>
      rw [decode_eq_ok_iff.1 hdecode, h.text, lossy_encode]
    | error fault =>
      obtain ⟨cs, hcs, hf⟩ := h.fault bs fault hdecode
      obtain ⟨ds, hds, hlossy⟩ := (faultAt_of_decode hdecode).shown
      obtain rfl : cs = ds := encode_injective (hcs.symm.trans hds)
      rw [hf, hlossy, ih _ (hlength ▸ length_rest hdecode) _ rfl]

end

end SymbolIndex.Utf8
