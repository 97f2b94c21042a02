import Mathlib.Logic.Relation
import SymbolIndex.Path
import SymbolIndex.Proofs.Text.Split

/-! # Paths with the same components

A separator that repeats or comes last, and a `.` after the first place, can be left out of a path.
Two paths have the same components exactly if such parts, left out or put in one at a time, lead
from the one to the other.
-/
namespace SymbolIndex

namespace Path

/-- A segment that is no component after the first place. -/
def Idle (segment : List UInt8) : Prop := segment = [] ∨ segment = [0x2E]

instance (segment : List UInt8) : Decidable (Idle segment) :=
  inferInstanceAs (Decidable (_ ∨ _))

/-- The second path is the first without a separator and the idle segment after it. Something has to
be left, as the root is not the empty path. -/
inductive Shortens : Path → Path → Prop where
  | leaveOut {front segment back : List UInt8} (idle : Idle segment)
    (whole : back = [] ∨ back.head? = some separator) (left : front ++ back ≠ []) :
    Shortens ⟨front ++ separator :: (segment ++ back)⟩ ⟨front ++ back⟩

/-- The same path up to parts that can be left out. -/
def Respelled : Path → Path → Prop := Relation.EqvGen Shortens

namespace Component

def text : Component → List UInt8
  | root => []
  | current => [0x2E]
  | parent => [0x2E, 0x2E]
  | name bytes => bytes

@[simp] theorem text_ofSegment (segment : List UInt8) : (ofSegment segment).text = segment := by
  unfold ofSegment
  split <;> rfl

theorem ofSegment_ne_root (segment : List UInt8) : ofSegment segment ≠ root := by
  unfold ofSegment
  split <;> nofun

theorem ofLaterSegment?_of_idle {segment : List UInt8} (h : Idle segment) :
    ofLaterSegment? segment = none := if_pos h

theorem ofLaterSegment?_of_not_idle {segment : List UInt8} (h : ¬ Idle segment) :
    ofLaterSegment? segment = some (ofSegment segment) := if_neg h

theorem map_text_filterMap (later : List (List UInt8)) :
    (later.filterMap ofLaterSegment?).map text = later.filter fun segment => ¬ Idle segment := by
  induction later with
  | nil => rfl
  | cons segment later ih =>
    by_cases h : Idle segment
    · rw [List.filterMap_cons_none (ofLaterSegment?_of_idle h), ih]
      simp [h]
    · rw [List.filterMap_cons_some (ofLaterSegment?_of_not_idle h), List.map_cons, ih]
      simp [h]

/-- An idle segment counts only if it is all that tells the root from the empty path. -/
theorem ofSegments_leaveOut {segment : List UInt8} (h : Idle segment) (first : List UInt8)
    {before after : List (List UInt8)} (hleft : first = [] → before ++ after ≠ []) :
    ofSegments (first :: before ++ segment :: after) = ofSegments (first :: before ++ after) := by
  have hlater : (before ++ segment :: after).filterMap ofLaterSegment? =
      (before ++ after).filterMap ofLaterSegment? := by
    rw [List.filterMap_append, List.filterMap_append,
      List.filterMap_cons_none (ofLaterSegment?_of_idle h)]
  simp only [List.cons_append, ofSegments, hlater]
  by_cases hfirst : first = []
  · rw [if_pos hfirst, if_pos hfirst, if_neg (by simp), if_neg (hleft hfirst)]
  · rw [if_neg hfirst, if_neg hfirst]

end Component

/-! ## What is left out is no component -/

theorem not_mem_of_idle {segment : List UInt8} (h : Idle segment) : separator ∉ segment := by
  rcases h with rfl | rfl <;> decide

theorem Shortens.components_eq {p q : Path} (h : Shortens p q) : p.components = q.components := by
  obtain @⟨front, segment, back, hidle, hwhole, hleft⟩ := h
  obtain ⟨first, before, hsplit, -, hfront⟩ := Text.exists_split separator front
  have hsegment := Text.split_of_not_mem (not_mem_of_idle hidle)
  simp only [components]
  rcases hwhole with rfl | hback
  · have hne : first = [] → before ++ [] ≠ [] := by
      rintro rfl hnil
      rw [List.append_nil] at hnil hleft
      subst hnil
      exact hleft hfront
    rw [List.append_nil, List.append_nil, Text.split_append_split, hsplit, hsegment]
    have hleave := Component.ofSegments_leaveOut hidle first hne
    rwa [List.append_nil] at hleave
  · obtain ⟨back, rfl⟩ := List.head?_eq_some_iff.1 hback
    have hne : first = [] → before ++ Text.split separator back ≠ [] := by
      intro _ hnil
      exact Text.split_ne_nil separator back (List.append_eq_nil_iff.1 hnil).2
    rw [Text.split_append_split, Text.split_append_split, Text.split_append_split, hsplit, hsegment]
    exact Component.ofSegments_leaveOut hidle first hne

/-! ## Every path can be shortened to its components -/

def ofComponents : List Component → Path
  | .root :: rest => ⟨separator :: Text.join separator (rest.map Component.text)⟩
  | cs => ⟨Text.join separator (cs.map Component.text)⟩

theorem whole_flatMap (later : List (List UInt8)) :
    later.flatMap (separator :: ·) = [] ∨
      (later.flatMap (separator :: ·)).head? = some separator := by
  cases later with
  | nil => exact Or.inl rfl
  | cons segment later => exact Or.inr rfl

/-- The induction moves each segment that stays over to the front. -/
theorem respelled_filter (front : List UInt8) (hfront : front ≠ []) (later : List (List UInt8)) :
    Respelled ⟨front ++ later.flatMap (separator :: ·)⟩
      ⟨front ++ (later.filter fun segment => ¬ Idle segment).flatMap (separator :: ·)⟩ := by
  induction later generalizing front with
  | nil => exact .refl _
  | cons segment later ih =>
    by_cases h : Idle segment
    · have hleft : front ++ later.flatMap (separator :: ·) ≠ [] := by simp [hfront]
      have hshort := Shortens.leaveOut h (whole_flatMap later) hleft
      have hrest := ih front hfront
      simp only [List.flatMap_cons, List.cons_append, List.filter_cons, h, not_true_eq_false,
        decide_false, Bool.false_eq_true, if_false]
      exact .trans _ _ _ (.rel _ _ hshort) hrest
    · have hrest := ih (front ++ separator :: segment) (by simp)
      simpa [List.flatMap_cons, List.filter_cons, h] using hrest

theorem respelled_root {later : List (List UInt8)} (hlater : later ≠ []) :
    Respelled ⟨later.flatMap (separator :: ·)⟩
      ⟨separator :: Text.join separator (later.filter fun segment => ¬ Idle segment)⟩ := by
  -- One more separator stands in front while the others are left out.
  have hne : later.flatMap (separator :: ·) ≠ [] := by
    cases later with
    | nil => exact absurd rfl hlater
    | cons segment later => simp
  have hdouble : Shortens ⟨separator :: later.flatMap (separator :: ·)⟩
      ⟨later.flatMap (separator :: ·)⟩ :=
    @Shortens.leaveOut [] _ _ (Or.inl rfl) (whole_flatMap later) hne
  have hfilter := respelled_filter [separator] (by simp) later
  refine .trans _ _ _ (.symm _ _ (.rel _ _ hdouble)) (.trans _ _ _ hfilter ?_)
  cases hkept : later.filter fun segment => ¬ Idle segment with
  | nil => exact .refl _
  | cons segment kept =>
    rw [Text.join_cons]
    exact .rel _ _ (@Shortens.leaveOut [] _ _ (Or.inl rfl) (Or.inr rfl) (by simp))

theorem respelled_ofComponents (p : Path) : Respelled p (ofComponents p.components) := by
  obtain ⟨bytes⟩ := p
  obtain ⟨first, later, hsplit, -, rfl⟩ := Text.exists_split separator bytes
  simp only [components, hsplit, Component.ofSegments]
  by_cases hfirst : first = []
  · subst hfirst
    by_cases hlater : later = []
    · subst hlater
      exact .refl _
    · rw [if_pos rfl, if_neg hlater, ofComponents, Component.map_text_filterMap]
      exact respelled_root hlater
  · rw [if_neg hfirst]
    have hkept := respelled_filter first hfirst later
    rw [← Component.map_text_filterMap] at hkept
    by_cases hdot : first = [0x2E]
    · rw [if_pos hdot, ofComponents, List.map_cons, Text.join_cons]
      · subst hdot
        exact hkept
      · nofun
    · rw [if_neg hdot, ofComponents, List.map_cons, Text.join_cons, Component.text_ofSegment]
      · exact hkept
      · intro rest h
        exact Component.ofSegment_ne_root first (List.cons.inj h).1

theorem components_eq_iff {p q : Path} : p.components = q.components ↔ Respelled p q := by
  constructor
  · intro h
    have hp := respelled_ofComponents p
    rw [h] at hp
    exact .trans _ _ _ hp (.symm _ _ (respelled_ofComponents q))
  · intro h
    induction h with
    | rel p q h => exact h.components_eq
    | refl p => rfl
    | symm p q _ ih => exact ih.symm
    | trans p q r _ _ ihp ihq => exact ihp.trans ihq

theorem same_iff {p q : Path} : p.same q = true ↔ Respelled p q := by
  rw [same, decide_eq_true_eq, components_eq_iff]

end Path

end SymbolIndex
