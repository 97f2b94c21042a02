import SymbolIndex.Proofs.Path
import SymbolIndex.Proofs.Store.Codec

/-! # Which records are stored alike

Two records are the same exactly if their rows are the same but for the spelling of paths. A row
keeps a path as it is spelled, so equal rows are rows of one record, and the same record can be
stored in two ways only by paths with parts that could be left out.
-/
namespace SymbolIndex

/-- Two absent paths, or the texts of two paths with the same components. -/
def SamePaths : Cell → Cell → Prop
  | .null, .null => True
  | .text a, .text b => Path.components ⟨a⟩ = Path.components ⟨b⟩
  | _, _ => False

namespace Scalar

theorem same_iff_eq {s : Scalar} {a b : s.Value} (h : s ≠ path) : s.same a b = true ↔ a = b := by
  cases s with
  | path => exact absurd rfl h
  | _ => exact decide_eq_true_iff

theorem eq_text_of_write {p : Path} {x : Cell} (h : path.write p = .ok x) : x = .text p.bytes := by
  simp only [write] at h
  split at h
  · cases h
    rfl
  · cases h

theorem same_iff_samePaths {p q : Path} {x y : Cell} (hp : path.write p = .ok x)
    (hq : path.write q = .ok y) : path.same p q = true ↔ SamePaths x y := by
  cases eq_text_of_write hp
  cases eq_text_of_write hq
  exact decide_eq_true_iff

end Scalar

namespace Kind

/-- What the cells of two values have in common if the values are the same. -/
def Agree (k : Kind) (x y : Cell) : Prop := if k.scalar = .path then SamePaths x y else x = y

variable {k : Kind} {a b : k.Value} {x y : Cell}

theorem write_injective (ha : k.write a = .ok x) (hb : k.write b = .ok x) : a = b := by
  have houtcome := congrArg Traced.outcome ((read_of_write hb).symm.trans (read_of_write ha))
  simpa using houtcome.symm

theorem same_iff_eq (h : k.scalar ≠ .path) : k.same a b = true ↔ a = b := by
  cases k with
  | required s => exact Scalar.same_iff_eq h
  | optional s =>
    rcases a with _ | a <;> rcases b with _ | b
    · simp [same]
    · simp [same]
    · simp [same]
    · rw [Option.some_inj]
      exact Scalar.same_iff_eq h

theorem same_iff_samePaths (h : k.scalar = .path) (ha : k.write a = .ok x)
    (hb : k.write b = .ok y) : k.same a b = true ↔ SamePaths x y := by
  cases k with
  | required s =>
    cases h
    exact Scalar.same_iff_samePaths ha hb
  | optional s =>
    cases h
    rcases a with _ | p <;> rcases b with _ | q
    · cases ha
      cases hb
      exact iff_of_true rfl trivial
    · cases ha
      cases Scalar.eq_text_of_write hb
      exact iff_of_false nofun id
    · cases hb
      cases Scalar.eq_text_of_write ha
      exact iff_of_false nofun id
    · exact Scalar.same_iff_samePaths ha hb

theorem same_iff_agree (ha : k.write a = .ok x) (hb : k.write b = .ok y) :
    k.same a b = true ↔ k.Agree x y := by
  rw [Agree]
  by_cases h : k.scalar = .path
  · rw [if_pos h]
    exact same_iff_samePaths h ha hb
  · rw [if_neg h, same_iff_eq h]
    constructor
    · rintro rfl
      exact Except.ok.inj (ha.symm.trans hb)
    · rintro rfl
      exact write_injective ha hb

theorem same_self (k : Kind) (a : k.Value) : k.same a a = true := by
  by_cases h : k.scalar = .path
  · cases k with
    | required s =>
      cases h
      exact decide_eq_true rfl
    | optional s =>
      cases h
      cases a with
      | none => rfl
      | some p => exact decide_eq_true rfl
  · exact (same_iff_eq h).2 rfl

/-- Cells that agree and still differ hold two spellings of one path. -/
theorem Agree.respelled {k : Kind} (h : k.Agree x y) (hne : x ≠ y) :
    k.scalar = .path ∧ ∃ p q : Path, x = .text p.bytes ∧ y = .text q.bytes ∧ p.Respelled q := by
  rw [Agree] at h
  by_cases hpath : k.scalar = .path
  · rw [if_pos hpath] at h
    refine ⟨hpath, ?_⟩
    unfold SamePaths at h
    split at h
    · exact absurd rfl hne
    · exact ⟨_, _, rfl, rfl, Path.components_eq_iff.1 h⟩
    · exact h.elim
  · rw [if_neg hpath] at h
    exact absurd h hne

end Kind

namespace Fields

variable {cs : List Column} {f g : Fields cs} {xs ys : List Cell}

theorem write_injective (hf : write cs f = .ok xs) (hg : write cs g = .ok xs) : f = g := by
  induction cs generalizing xs with
  | nil => rfl
  | cons c cs ih =>
    obtain ⟨a, f⟩ := f
    obtain ⟨b, g⟩ := g
    obtain ⟨x, others, ha, hothers, rfl⟩ := write_cons_eq_ok_iff.1 hf
    obtain ⟨y, others', hb, hothers', heq⟩ := write_cons_eq_ok_iff.1 hg
    cases heq
    have hhead : a = b := Kind.write_injective ha hb
    have htail : f = g := ih hothers hothers'
    rw [hhead, htail]

theorem same_self (cs : List Column) (f : Fields cs) : same cs f f = true := by
  induction cs with
  | nil => rfl
  | cons c cs ih => rw [same, c.kind.same_self, ih, Bool.and_true]

theorem same_iff_agree (hf : write cs f = .ok xs) (hg : write cs g = .ok ys) :
    same cs f g = true ↔
      ∀ (i : Nat) (c : Column) (x y : Cell), cs[i]? = some c → xs[i]? = some x →
        ys[i]? = some y → c.kind.Agree x y := by
  induction cs generalizing xs ys with
  | nil =>
    refine iff_of_true rfl ?_
    intro i c x y hc
    cases hc
  | cons c cs ih =>
    obtain ⟨a, f⟩ := f
    obtain ⟨b, g⟩ := g
    obtain ⟨x, xs, ha, hxs, rfl⟩ := write_cons_eq_ok_iff.1 hf
    obtain ⟨y, ys, hb, hys, rfl⟩ := write_cons_eq_ok_iff.1 hg
    rw [same, Bool.and_eq_true, Kind.same_iff_agree ha hb, ih hxs hys]
    constructor
    · rintro ⟨hhead, htail⟩ i c' x' y' hc hx hy
      cases i with
      | zero =>
        cases hc
        cases hx
        cases hy
        exact hhead
      | succ i => exact htail i c' x' y' hc hx hy
    · intro h
      constructor
      · exact h 0 c x y rfl rfl rfl
      · intro i
        exact h (i + 1)

end Fields

namespace Shape

structure Compares (s : Shape) (a b : s.Record) (xs ys : List Cell) : Prop where
  left : s.write a = .ok xs
  right : s.write b = .ok ys
  width : xs.length = s.width ∧ ys.length = s.width
  same_iff : s.same a b = true ↔
    ∀ (i : Nat) (c : Column) (x y : Cell), s.columns[i]? = some c → xs[i]? = some x →
      ys[i]? = some y → c.kind.Agree x y
  equal : xs = ys → a = b ∧ s.same a b = true
  respelled : s.same a b = true →
    ∀ (i : Nat) (c : Column) (x y : Cell), s.columns[i]? = some c → xs[i]? = some x →
      ys[i]? = some y → x ≠ y → c.kind.scalar = .path ∧
        ∃ p q : Path, x = .text p.bytes ∧ y = .text q.bytes ∧ p.Respelled q

theorem compares {s : Shape} {a b : s.Record} {xs ys : List Cell} (ha : s.write a = .ok xs)
    (hb : s.write b = .ok ys) : s.Compares a b xs ys := by
  have hsame := Fields.same_iff_agree (f := s.fields a) (g := s.fields b) ha hb
  refine ⟨ha, hb, ⟨Fields.length_of_write ha, Fields.length_of_write hb⟩, hsame, ?_, ?_⟩
  · rintro rfl
    have hfields : s.fields a = s.fields b := Fields.write_injective ha hb
    have heq : a = b := by
      rw [← s.ofFields_fields a, hfields, s.ofFields_fields]
    subst heq
    exact ⟨rfl, Fields.same_self _ _⟩
  · intro h i c x y hc hx hy
    exact (hsame.1 h i c x y hc hx hy).respelled

end Shape

/-- Records whose paths are text are all stored, and their rows tell which of them are the same. -/
theorem records_compared (s : Shape) (a b : s.Record) (ha : ∀ p ∈ s.paths a, p.IsText)
    (hb : ∀ p ∈ s.paths b, p.IsText) : ∃ xs ys, s.Compares a b xs ys := by
  obtain ⟨xs, hxs⟩ := ((ResultShape.plain s).lossless a).written.2 ha
  obtain ⟨ys, hys⟩ := ((ResultShape.plain s).lossless b).written.2 hb
  exact ⟨xs, ys, Shape.compares hxs hys⟩

/-- One record under two spellings of its path: the records are the same and their rows differ. -/
theorem records_compared_spellings :
    let info : ModuleInfo := ⟨⟨"Main"⟩, ⟨"main"⟩, false, some (.ofText "./Main.hs"), true, ⟨7⟩⟩
    let a : ModuleRow := ⟨.ofText "out//Main.hie", info⟩
    let b : ModuleRow := ⟨.ofText "out/./Main.hie/", info⟩
    (∀ p ∈ Shape.moduleRow.paths a, p.IsText) ∧ (∀ p ∈ Shape.moduleRow.paths b, p.IsText) ∧
      Shape.moduleRow.same a b = true ∧
      ∃ xs ys, Shape.moduleRow.write a = .ok xs ∧ Shape.moduleRow.write b = .ok ys ∧ xs ≠ ys := by
  intro info a b
  have ha : ∀ p ∈ Shape.moduleRow.paths a, p.IsText := by decide +kernel
  have hb : ∀ p ∈ Shape.moduleRow.paths b, p.IsText := by decide +kernel
  obtain ⟨xs, ys, h⟩ := records_compared .moduleRow a b ha hb
  refine ⟨ha, hb, by decide +kernel, xs, ys, h.left, h.right, ?_⟩
  intro hrows
  have hne : a ≠ b := by decide +kernel
  exact hne (h.equal hrows).1

end SymbolIndex
