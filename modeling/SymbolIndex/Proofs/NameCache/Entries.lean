import Mathlib.Data.List.Perm.Basic
import SymbolIndex.NameCache.Basic
import SymbolIndex.Proofs.Keyed

/-! # Entries of a name cache

What adding a name does to the entries: one more, under the keys of the name itself. The two levels
of lists stand for maps, so a key occurs once at each level.
-/
namespace SymbolIndex

namespace NameCache

/-- The name `n` stands under the module `m` and the occurrence `o`. -/
def Stored (c : NameCache) (m : Module) (o : OccName) (n : Name) : Prop :=
  ∃ names, (m, names) ∈ c.modules ∧ (o, n) ∈ names

def names (c : NameCache) : List Name := c.modules.flatMap fun entry => entry.2.map (·.2)

def namesIn (entries : List (Module × List (OccName × Name))) (m : Module) :
    List (OccName × Name) :=
  (entries.lookup m).getD []

structure WellKeyed (c : NameCache) : Prop where
  modules_nodup : (c.modules.map (·.1)).Nodup
  occs_nodup : ∀ entry ∈ c.modules, (entry.2.map (·.1)).Nodup
  inhabited : ∀ entry ∈ c.modules, entry.2 ≠ []
  keyed : ∀ m o n, c.Stored m o n → n.module = m ∧ n.occ = o

variable {c : NameCache} {m m' : Module} {o : OccName} {n : Name}

theorem lookup?_eq (c : NameCache) (m : Module) (o : OccName) :
    c.lookup? m o = (namesIn c.modules m).lookup o := by
  rw [lookup?, namesIn]
  cases c.modules.lookup m <;> rfl

/-- A name joins those of its module, or it is the first one there. -/
theorem addTo_cases (m : Module) (n : Name) (entries : List (Module × List (OccName × Name))) :
    (entries.lookup m = none ∧ addTo m n entries = entries ++ [(m, [(n.occ, n)])]) ∨
    ∃ before names after, entries = before ++ (m, names) :: after ∧ before.lookup m = none ∧
      addTo m n entries = before ++ (m, names ++ [(n.occ, n)]) :: after := by
  induction entries with
  | nil => exact Or.inl ⟨rfl, rfl⟩
  | cons entry entries ih =>
    obtain ⟨m', names⟩ := entry
    by_cases h : m' = m
    · subst h
      exact Or.inr ⟨[], names, entries, rfl, rfl, by simp [addTo]⟩
    · have hadd : addTo m n ((m', names) :: entries) = (m', names) :: addTo m n entries := by
        rw [addTo, if_neg h]
      have hbeq : (m == m') = false := by simpa using Ne.symm h
      rw [hadd]
      rcases ih with ⟨hnone, heq⟩ | ⟨before, names', after, rfl, hnone, heq⟩
      · exact Or.inl ⟨by simpa [List.lookup_cons, hbeq] using hnone, by rw [heq]; rfl⟩
      · exact Or.inr ⟨(m', names) :: before, names', after, rfl,
          by simpa [List.lookup_cons, hbeq] using hnone, by rw [heq]; rfl⟩

theorem namesIn_addTo (m' m : Module) (n : Name)
    (entries : List (Module × List (OccName × Name))) :
    namesIn (addTo m n entries) m' =
      if m' = m then namesIn entries m ++ [(n.occ, n)] else namesIn entries m' := by
  rw [namesIn, namesIn, namesIn]
  by_cases h : m' = m
  · subst h
    rcases addTo_cases m' n entries with ⟨hnone, heq⟩ | ⟨before, names, after, rfl, hnone, heq⟩
    · simp [heq, List.lookup_append, hnone]
    · simp [heq, List.lookup_append, hnone]
  · have hbeq : (m' == m) = false := by simpa using h
    rcases addTo_cases m n entries with ⟨hnone, heq⟩ | ⟨before, names, after, rfl, hnone, heq⟩
    · simp [heq, List.lookup_append, List.lookup_cons, hbeq, h]
    · simp [heq, List.lookup_append, List.lookup_cons, hbeq, h]

theorem mem_addTo {entries : List (Module × List (OccName × Name))}
    {entry : Module × List (OccName × Name)} (h : entry ∈ addTo m n entries) :
    entry ∈ entries ∨ entry = (m, namesIn entries m ++ [(n.occ, n)]) := by
  rw [namesIn]
  rcases addTo_cases m n entries with ⟨hnone, heq⟩ | ⟨before, names, after, rfl, hnone, heq⟩
  · rw [heq, List.mem_append, List.mem_singleton] at h
    rw [hnone]
    exact h
  · rw [heq, List.perm_middle.mem_iff, List.mem_cons] at h
    rw [List.perm_middle.mem_iff, List.mem_cons]
    rcases h with rfl | h
    · exact Or.inr (by simp [List.lookup_append, hnone])
    · exact Or.inl (Or.inr h)

theorem lookup?_add (hnew : c.lookup? n.module n.occ = none) (m : Module) (o : OccName) :
    (c.add n).lookup? m o = if (m, o) = (n.module, n.occ) then some n else c.lookup? m o := by
  rw [lookup?_eq, lookup?_eq, add, namesIn_addTo]
  rw [lookup?_eq] at hnew
  by_cases hm : m = n.module
  · subst hm
    rw [if_pos rfl, List.lookup_append]
    by_cases ho : o = n.occ
    · subst ho
      simp [hnew]
    · have hbeq : (o == n.occ) = false := by simpa using ho
      simp [ho, List.lookup_cons, hbeq]
  · rw [if_neg hm, if_neg (by simp [hm])]

theorem names_add (c : NameCache) (n : Name) : (c.add n).names.Perm (n :: c.names) := by
  rw [names, names, add]
  rcases addTo_cases n.module n c.modules with ⟨-, heq⟩ | ⟨before, names, after, hmodules, -, heq⟩
  · rw [heq, List.flatMap_append]
    exact List.perm_append_singleton n _
  · rw [heq, hmodules]
    simp only [List.flatMap_append, List.flatMap_cons, List.map_append, List.map_cons, List.map_nil,
      List.append_assoc, List.singleton_append]
    rw [← List.append_assoc, ← List.append_assoc]
    exact List.perm_middle

theorem size_eq_length_names (c : NameCache) : c.size = c.names.length := by
  rw [size, names]
  induction c.modules with
  | nil => rfl
  | cons entry entries ih => simp [ih]

theorem isEmpty_iff (c : NameCache) : c.isEmpty = true ↔ c.size = 0 := by
  rw [isEmpty, size]
  induction c.modules with
  | nil => simp
  | cons entry entries ih => simp [ih]

namespace WellKeyed

theorem empty : WellKeyed empty := by
  constructor
  · exact List.nodup_nil
  · intro entry h
    cases h
  · intro entry h
    cases h
  · rintro m o n ⟨names, h, -⟩
    cases h

theorem lookup?_eq_some_iff (h : c.WellKeyed) : c.lookup? m o = some n ↔ c.Stored m o n := by
  rw [lookup?, Option.bind_eq_some_iff]
  constructor
  · rintro ⟨names, hm, ho⟩
    have hmem := (lookup_eq_some_iff_mem h.modules_nodup).1 hm
    exact ⟨names, hmem, (lookup_eq_some_iff_mem (h.occs_nodup _ hmem)).1 ho⟩
  · rintro ⟨names, hm, ho⟩
    exact ⟨names, (lookup_eq_some_iff_mem h.modules_nodup).2 hm,
      (lookup_eq_some_iff_mem (h.occs_nodup _ hm)).2 ho⟩

theorem mem_of_namesIn (h : c.WellKeyed) (hne : namesIn c.modules m ≠ []) :
    (m, namesIn c.modules m) ∈ c.modules := by
  rw [← lookup_eq_some_iff_mem h.modules_nodup]
  rw [namesIn] at hne ⊢
  cases hm : c.modules.lookup m with
  | none => simp [hm] at hne
  | some names => rfl

theorem nodup_namesIn (h : c.WellKeyed) (m : Module) :
    ((namesIn c.modules m).map (·.1)).Nodup := by
  by_cases hne : namesIn c.modules m = []
  · rw [hne]
    exact List.nodup_nil
  · exact h.occs_nodup _ (h.mem_of_namesIn hne)

theorem stored_of_namesIn (h : c.WellKeyed) (ho : (o, n) ∈ namesIn c.modules m) :
    c.Stored m o n :=
  ⟨_, h.mem_of_namesIn (List.ne_nil_of_mem ho), ho⟩

theorem add (h : c.WellKeyed) (hnew : c.lookup? n.module n.occ = none) : (c.add n).WellKeyed := by
  have hocc := lookup?_eq c n.module n.occ ▸ hnew
  constructor
  · rcases addTo_cases n.module n c.modules with
      ⟨hnone, heq⟩ | ⟨before, names, after, hmodules, -, heq⟩
    · rw [NameCache.add, heq]
      exact nodup_keys_concat h.modules_nodup hnone _
    · have := h.modules_nodup
      rw [hmodules] at this
      rw [NameCache.add, heq]
      simpa using this
  · intro entry hentry
    rcases mem_addTo hentry with hold | rfl
    · exact h.occs_nodup entry hold
    · exact nodup_keys_concat (h.nodup_namesIn n.module) hocc n
  · intro entry hentry
    rcases mem_addTo hentry with hold | rfl
    · exact h.inhabited entry hold
    · exact List.append_ne_nil_of_right_ne_nil _ (List.cons_ne_nil _ _)
  · rintro m o n' ⟨names, hm, ho⟩
    rcases mem_addTo hm with hold | hgrown
    · exact h.keyed m o n' ⟨names, hold, ho⟩
    · cases hgrown
      rcases List.mem_append.1 ho with ho | ho
      · exact h.keyed _ o n' (h.stored_of_namesIn ho)
      · cases List.mem_singleton.1 ho
        exact ⟨rfl, rfl⟩

end WellKeyed

end NameCache

end SymbolIndex
