import SymbolIndex.Proofs.Text.Utf8

/-! # The order of texts

Texts are compared by the code points of their scalars, and the front of a longer text comes before
it. The bytes of UTF-8 give the same order: of two scalars the larger has the larger first byte, or
else the larger byte at the first place where they differ.
-/
namespace SymbolIndex

theorem compare_byte (a b : UInt8) : compare a b = compare a.toNat b.toNat := by
  change compareOfLessAndEq a b = compareOfLessAndEq a.toNat b.toNat
  simp only [compareOfLessAndEq, UInt8.lt_iff_toNat_lt, ← UInt8.toNat_inj]

theorem compare_char (c d : Char) : compare c d = compare c.toNat d.toNat := by
  change compareOfLessAndEq c d = compareOfLessAndEq c.toNat d.toNat
  simp only [compareOfLessAndEq, Char.lt_def, UInt32.lt_iff_toNat_lt, ← Char.toNat_inj]
  rfl

/-- Parts of one length decide before what comes after them. -/
theorem compare_append {α : Type} [Ord α] {xs ys : List α} (h : xs.length = ys.length)
    (as bs : List α) : compare (xs ++ as) (ys ++ bs) = (compare xs ys).then (compare as bs) := by
  induction xs generalizing ys with
  | nil =>
    cases ys with
    | nil => rfl
    | cons y ys => cases h
  | cons x xs ih =>
    cases ys with
    | nil => cases h
    | cons y ys =>
      rw [List.cons_append, List.cons_append, List.compare_cons_cons, List.compare_cons_cons,
        ih (Nat.succ.inj h), Ordering.then_assoc]

namespace Text

def compareScalars (s t : String) : Ordering :=
  compare (s.toList.map Char.toNat) (t.toList.map Char.toNat)

def compareBytes (s t : String) : Ordering :=
  compare (Utf8.encode s.toList) (Utf8.encode t.toList)

/-- The first text is the front of the other, or has the smaller code point where they part. -/
def Precedes (cs ds : List Char) : Prop :=
  (∃ d rest, ds = cs ++ d :: rest) ∨
    ∃ shared c d cs' ds', cs = shared ++ c :: cs' ∧ ds = shared ++ d :: ds' ∧ c.toNat < d.toNat

variable {c d : Char} {cs ds : List Char}

theorem not_precedes_nil : ¬ Precedes cs [] := by
  rintro (⟨d, rest, h⟩ | ⟨shared, c, d, cs', ds', -, h, -⟩)
  · exact List.append_ne_nil_of_right_ne_nil cs (List.cons_ne_nil d rest) h.symm
  · exact List.append_ne_nil_of_right_ne_nil shared (List.cons_ne_nil d ds') h.symm

theorem precedes_cons_cons :
    Precedes (c :: cs) (d :: ds) ↔ c.toNat < d.toNat ∨ c = d ∧ Precedes cs ds := by
  constructor
  · rintro (⟨e, rest, h⟩ | ⟨shared, e, f, cs', ds', hc, hd, hlt⟩)
    · cases h
      exact .inr ⟨rfl, .inl ⟨e, rest, rfl⟩⟩
    · cases shared with
      | nil =>
        cases hc
        cases hd
        exact .inl hlt
      | cons x shared =>
        cases hc
        cases hd
        exact .inr ⟨rfl, .inr ⟨shared, e, f, cs', ds', rfl, rfl, hlt⟩⟩
  · rintro (hlt | ⟨rfl, ⟨e, rest, rfl⟩ | ⟨shared, e, f, cs', ds', rfl, rfl, hlt⟩⟩)
    · exact .inr ⟨[], c, d, cs, ds, rfl, rfl, hlt⟩
    · exact .inl ⟨e, rest, rfl⟩
    · exact .inr ⟨c :: shared, e, f, cs', ds', rfl, rfl, hlt⟩

theorem compare_map_toNat_eq_lt_iff :
    compare (cs.map Char.toNat) (ds.map Char.toNat) = .lt ↔ Precedes cs ds := by
  induction cs generalizing ds with
  | nil =>
    cases ds with
    | nil => exact iff_of_false nofun not_precedes_nil
    | cons d ds => exact iff_of_true rfl (.inl ⟨d, ds, rfl⟩)
  | cons c cs ih =>
    cases ds with
    | nil => exact iff_of_false nofun not_precedes_nil
    | cons d ds =>
      rw [List.map_cons, List.map_cons, List.compare_cons_cons, Ordering.then_eq_lt, ih,
        precedes_cons_cons, Nat.compare_eq_lt, Nat.compare_eq_eq, Char.toNat_inj]

theorem compareScalars_eq_lt_iff {s t : String} :
    compareScalars s t = .lt ↔ Precedes s.toList t.toList :=
  compare_map_toNat_eq_lt_iff

theorem compare_chars (cs ds : List Char) :
    compare cs ds = compare (cs.map Char.toNat) (ds.map Char.toNat) := by
  induction cs generalizing ds with
  | nil => cases ds <;> rfl
  | cons c cs ih =>
    cases ds with
    | nil => rfl
    | cons d ds =>
      rw [List.compare_cons_cons, List.map_cons, List.map_cons, List.compare_cons_cons, ih,
        compare_char]

instance : Std.TransCmp compareScalars :=
  inferInstanceAs (Std.TransCmp (compareOn fun s : String => s.toList.map Char.toNat))

instance : Std.LawfulEqCmp compareScalars where
  compare_self := Std.ReflOrd.compare_self
  eq_of_compare := by
    intro s t h
    have hchars : compare s.toList t.toList = .eq := (compare_chars s.toList t.toList).trans h
    exact String.toList_inj.1 (Std.LawfulEqOrd.eq_of_compare hchars)

end Text

namespace Utf8

/-- The larger number has the larger sequence, whatever comes after the two. -/
theorem Sequence.compare_eq_lt {xs ys : List UInt8} {m n : Nat} (hs : Sequence xs m)
    (ht : Sequence ys n) (h : m < n) (as bs : List UInt8) :
    compare (xs ++ as) (ys ++ bs) = .lt := by
  cases hs <;> cases ht <;>
    simp only [List.cons_append, List.compare_cons_cons, Ordering.then_eq_lt, compare_byte,
      Nat.compare_eq_lt, Nat.compare_eq_eq, IsTail] at * <;> omega

theorem compare_encode (cs ds : List Char) :
    compare (encode cs) (encode ds) = compare (cs.map Char.toNat) (ds.map Char.toNat) := by
  induction cs generalizing ds with
  | nil =>
    cases ds with
    | nil => rfl
    | cons d ds =>
      obtain ⟨a, tail, hd, -⟩ := exists_head_encodeChar d
      rw [encode, encode, List.flatMap_cons, hd]
      rfl
  | cons c cs ih =>
    cases ds with
    | nil =>
      obtain ⟨a, tail, hc, -⟩ := exists_head_encodeChar c
      rw [encode, encode, List.flatMap_cons, hc]
      rfl
    | cons d ds =>
      have hc := sequence_encodeChar c
      have hd := sequence_encodeChar d
      rw [encode, encode, List.flatMap_cons, List.flatMap_cons, List.map_cons, List.map_cons,
        List.compare_cons_cons]
      rcases Nat.lt_trichotomy c.toNat d.toNat with h | h | h
      · rw [hc.compare_eq_lt hd h, Nat.compare_eq_lt.2 h]
        rfl
      · rw [Char.toNat_inj.1 h, compare_append rfl, Std.ReflOrd.compare_self,
          Std.ReflOrd.compare_self]
        exact ih ds
      · rw [Std.OrientedOrd.eq_swap, hd.compare_eq_lt hc h, Nat.compare_eq_gt.2 h]
        rfl

end Utf8

theorem Text.compareBytes_eq (s t : String) : compareBytes s t = compareScalars s t :=
  Utf8.compare_encode s.toList t.toList

end SymbolIndex
