import SymbolIndex.Proofs.Text.Order
import SymbolIndex.Symbol

/-! # The order of identifiers

An identifier is compared by its parts in turn: the place of its name space, then its texts. Since
the parts determine it, the order is total and exact, and a list of identifiers has one sorted form.
-/
namespace SymbolIndex

section Sorting

variable {α : Type} [Ord α]

theorem sort_perm (xs : List α) : (sort xs).Perm xs := List.mergeSort_perm xs _

theorem isLE_total [Std.OrientedOrd α] (a b : α) :
    ((compare a b).isLE || (compare b a).isLE) = true := by
  rw [Std.OrientedOrd.eq_swap (a := b)]
  cases compare a b <;> rfl

variable [Std.TransOrd α]

theorem pairwise_sort (xs : List α) : (sort xs).Pairwise fun a b => (compare a b).isLE := by
  apply List.pairwise_mergeSort
  · intro a b c hab hbc
    exact Std.TransOrd.isLE_trans hab hbc
  · exact isLE_total

/-- A list has one sorted form if only equal values compare equal. -/
theorem eq_sort [Std.LawfulEqOrd α] {xs ys : List α} (hperm : ys.Perm xs)
    (hsorted : ys.Pairwise fun a b => (compare a b).isLE) : ys = sort xs := by
  refine List.Perm.eq_of_pairwise ?_ hsorted (pairwise_sort xs) (hperm.trans (sort_perm xs).symm)
  intro a b _ _ hab hba
  exact Std.LawfulEqOrd.eq_of_compare (Std.OrientedCmp.isLE_antisymm hab hba)

end Sorting

theorem NameSpace.rank_eq_idxOf (space : NameSpace) : space.rank = all.idxOf space := by
  cases space <;> rfl

theorem NameSpace.eq_of_idxOf {space other : NameSpace}
    (h : all.idxOf space = all.idxOf other) : space = other := by
  revert h
  cases space <;> cases other <;> decide

structure Parts where
  space : Option NameSpace
  /-- From the text that decides first. -/
  texts : List String

namespace Parts

def place (p : Parts) : Option Nat := p.space.map NameSpace.all.idxOf

/-- The name spaces decide by their places, then the texts one by one. -/
def compareBy (compareText : String → String → Ordering) (p q : Parts) : Ordering :=
  (compare p.place q.place).then (List.compareLex compareText p.texts q.texts)

theorem eq_of_place {p q : Parts} (hplace : p.place = q.place) (htexts : p.texts = q.texts) :
    p = q := by
  obtain ⟨space, texts⟩ := p
  obtain ⟨space', texts'⟩ := q
  rw [Parts.mk.injEq]
  exact ⟨Option.map_injective (fun _ _ => NameSpace.eq_of_idxOf) hplace, htexts⟩

@[simp] theorem compareBy_some (compareText : String → String → Ordering) (a b : NameSpace)
    (ss ts : List String) :
    compareBy compareText ⟨some a, ss⟩ ⟨some b, ts⟩ =
      (compare a b).then (List.compareLex compareText ss ts) := by
  have hspace : compare a b = compare (some (NameSpace.all.idxOf a))
      (some (NameSpace.all.idxOf b)) := by
    rw [← NameSpace.rank_eq_idxOf, ← NameSpace.rank_eq_idxOf]
    rfl
  rw [hspace]
  rfl

@[simp] theorem compareBy_none (compareText : String → String → Ordering) (ss ts : List String) :
    compareBy compareText ⟨none, ss⟩ ⟨none, ts⟩ = List.compareLex compareText ss ts := rfl

/-- A comparison of what stands for the values keeps its laws. -/
theorem transCmp_on {α β : Type} (f : α → β) (cmp : β → β → Ordering) [Std.TransCmp cmp] :
    Std.TransCmp fun a b => cmp (f a) (f b) where
  eq_swap := Std.OrientedCmp.eq_swap
  isLE_trans := Std.TransCmp.isLE_trans

variable {compareText : String → String → Ordering}

instance [Std.TransCmp compareText] : Std.TransCmp (compareBy compareText) :=
  have := transCmp_on Parts.texts (List.compareLex compareText)
  inferInstanceAs (Std.TransCmp (compareLex (compareOn place) _))

instance [Std.LawfulEqCmp compareText] : Std.LawfulEqCmp (compareBy compareText) where
  compare_self := by
    intro p
    exact Ordering.then_eq_eq.2 ⟨Std.ReflOrd.compare_self, Std.ReflCmp.compare_self⟩
  eq_of_compare := by
    intro p q h
    obtain ⟨hplace, htexts⟩ := Ordering.then_eq_eq.1 h
    exact eq_of_place (Std.LawfulEqOrd.eq_of_compare hplace)
      (Std.LawfulEqCmp.eq_of_compare htexts)

end Parts

open Text (compareScalars compareBytes)

structure OrderedBy {α : Type} [Ord α] (parts : α → Parts) : Prop where
  byScalars : ∀ a b, compare a b = (parts a).compareBy compareScalars (parts b)
  byBytes : ∀ a b, compare a b = (parts a).compareBy compareBytes (parts b)
  swap : ∀ a b : α, compare b a = (compare a b).swap
  trans : ∀ a b c : α, compare a b = .lt → compare b c = .lt → compare a c = .lt
  eq_iff : ∀ a b : α, compare a b = .eq ↔ a = b
  sorted : ∀ xs : List α, (sort xs).Perm xs ∧ (sort xs).Pairwise fun a b => (compare a b).isLE
  unique : ∀ xs ys : List α,
    ys.Perm xs → (ys.Pairwise fun a b => (compare a b).isLE) → ys = sort xs
  sort_eq : ∀ xs ys : List α, xs.Perm ys → sort xs = sort ys

section

variable {α : Type} [Ord α] {parts : α → Parts}

theorem OrderedBy.of_parts (hinj : ∀ a b, parts a = parts b → a = b)
    (h : ∀ a b, compare a b = (parts a).compareBy compareScalars (parts b)) :
    OrderedBy parts := by
  have hcompare : compare = fun a b => (parts a).compareBy compareScalars (parts b) :=
    funext fun a => funext (h a)
  have htrans : Std.TransOrd α := by
    rw [Std.TransOrd, hcompare]
    exact Parts.transCmp_on parts (Parts.compareBy compareScalars)
  have hlawful : Std.LawfulEqOrd α := by
    refine { compare_self := ?_, eq_of_compare := ?_ }
    · intro a
      rw [h]
      exact Std.ReflCmp.compare_self
    · intro a b hab
      rw [h] at hab
      exact hinj a b (Std.LawfulEqCmp.eq_of_compare hab)
  have hbytes : compareBytes = compareScalars := funext fun s => funext (Text.compareBytes_eq s)
  constructor
  · exact h
  · rw [hbytes]
    exact h
  · intro a b
    exact Std.OrientedOrd.eq_swap
  · intro a b c
    exact Std.TransCmp.lt_trans
  · intro a b
    exact Std.LawfulEqOrd.compare_eq_iff_eq
  · intro xs
    exact ⟨sort_perm xs, pairwise_sort xs⟩
  · intro xs ys
    exact eq_sort
  · intro xs ys hperm
    exact eq_sort ((sort_perm xs).trans hperm) (pairwise_sort xs)

end

def OccName.parts (occ : OccName) : Parts := ⟨some occ.space, [occ.name]⟩

def ModuleName.parts (name : ModuleName) : Parts := ⟨none, [name.text]⟩

def UnitId.parts (unit : UnitId) : Parts := ⟨none, [unit.text]⟩

def Module.parts (m : Module) : Parts := ⟨none, [m.name.text, m.unit.text]⟩

def Symbol.parts (s : Symbol) : Parts :=
  ⟨some s.name.space, [s.name.name, s.module.name.text, s.module.unit.text]⟩

theorem ModuleName.compare_eq (a b : ModuleName) :
    compare a b = compareScalars a.text b.text :=
  Text.compare_chars a.text.toList b.text.toList

theorem UnitId.compare_eq (a b : UnitId) : compare a b = compareScalars a.text b.text :=
  Text.compare_chars a.text.toList b.text.toList

theorem OccName.compare_eq (a b : OccName) :
    compare a b = (compare a.space b.space).then (compareScalars a.name b.name) :=
  congrArg (compare a.space b.space).then (Text.compare_chars a.name.toList b.name.toList)

theorem Module.compare_eq (a b : Module) :
    compare a b =
      (compareScalars a.name.text b.name.text).then (compareScalars a.unit.text b.unit.text) := by
  rw [← ModuleName.compare_eq, ← UnitId.compare_eq]
  rfl

theorem moduleName_ordered : OrderedBy ModuleName.parts := by
  apply OrderedBy.of_parts
  · rintro ⟨text⟩ ⟨text'⟩ h
    cases h
    rfl
  · intro a b
    rw [ModuleName.compare_eq]
    simp [ModuleName.parts, List.compareLex_cons_cons, List.compareLex_nil_nil]

theorem unitId_ordered : OrderedBy UnitId.parts := by
  apply OrderedBy.of_parts
  · rintro ⟨text⟩ ⟨text'⟩ h
    cases h
    rfl
  · intro a b
    rw [UnitId.compare_eq]
    simp [UnitId.parts, List.compareLex_cons_cons, List.compareLex_nil_nil]

theorem module_ordered : OrderedBy Module.parts := by
  apply OrderedBy.of_parts
  · rintro ⟨⟨name⟩, ⟨unit⟩⟩ ⟨⟨name'⟩, ⟨unit'⟩⟩ h
    cases h
    rfl
  · intro a b
    rw [Module.compare_eq]
    simp [Module.parts, List.compareLex_cons_cons, List.compareLex_nil_nil]

theorem occName_ordered : OrderedBy OccName.parts := by
  apply OrderedBy.of_parts
  · rintro ⟨space, name⟩ ⟨space', name'⟩ h
    cases h
    rfl
  · intro a b
    rw [OccName.compare_eq]
    simp [OccName.parts, List.compareLex_cons_cons, List.compareLex_nil_nil]

theorem symbol_ordered : OrderedBy Symbol.parts := by
  apply OrderedBy.of_parts
  · rintro ⟨⟨space, name⟩, ⟨⟨module⟩, ⟨unit⟩⟩⟩ ⟨⟨space', name'⟩, ⟨⟨module'⟩, ⟨unit'⟩⟩⟩ h
    cases h
    rfl
  · intro s t
    change (compare s.name t.name).then (compare s.module t.module) = _
    rw [OccName.compare_eq, Module.compare_eq, Ordering.then_assoc]
    simp [Symbol.parts, List.compareLex_cons_cons, List.compareLex_nil_nil]

/-- Identifiers are ordered by their name spaces and then by their texts, from the name to the unit;
texts by their scalars or, which is the same, by their bytes. -/
theorem identifiers_ordered :
    OrderedBy Symbol.parts ∧ OrderedBy OccName.parts ∧ OrderedBy Module.parts ∧
      OrderedBy ModuleName.parts ∧ OrderedBy UnitId.parts ∧
      ∀ s t : String, (compareScalars s t = .lt ↔ Text.Precedes s.toList t.toList) ∧
        compareBytes s t = compareScalars s t := by
  refine ⟨symbol_ordered, occName_ordered, module_ordered, moduleName_ordered, unitId_ordered, ?_⟩
  intro s t
  exact ⟨Text.compareScalars_eq_lt_iff, Text.compareBytes_eq s t⟩

/-- The place of a name space is not that of its tag, and a scalar above U+FFFF comes last, although
its first unit of sixteen bits is the smaller one. -/
theorem identifiers_ordered_sorted :
    let first : OccName := ⟨.value, "\uFFFD"⟩
    let second : OccName := ⟨.value, "😀"⟩
    let third : OccName := ⟨.constructor, ""⟩
    compare first third = .lt ∧ sort [third, second, first] = [first, second, third] ∧
      sort [second, third, first] = sort [third, second, first] := by
  intro first second third
  have hordered := identifiers_ordered.2.1
  have hfirst : compare first second = .lt := by decide +kernel
  have hsecond : compare second third = .lt := by decide +kernel
  refine ⟨hordered.trans _ _ _ hfirst hsecond, ?_, hordered.sort_eq _ _ (.swap ..)⟩
  refine (hordered.unique _ _ ?_ ?_).symm
  · decide +kernel
  · decide +kernel

end SymbolIndex
