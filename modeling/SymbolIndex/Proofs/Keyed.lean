import Mathlib.Data.List.Nodup

/-! # Entries under keys

A list of entries stands for a map. If no key occurs twice, to look a key up is to find its entry.
-/
namespace SymbolIndex

variable {α β : Type} [DecidableEq α] {entries : List (α × β)} {k : α} {v : β}

theorem mem_of_lookup_eq_some (h : entries.lookup k = some v) : (k, v) ∈ entries := by
  obtain ⟨before, after, rfl, -⟩ := List.lookup_eq_some_iff.1 h
  exact List.mem_append_right before List.mem_cons_self

theorem lookup_eq_some_iff_mem (h : (entries.map (·.1)).Nodup) :
    entries.lookup k = some v ↔ (k, v) ∈ entries := by
  induction entries with
  | nil => simp
  | cons e entries ih =>
    obtain ⟨k', v'⟩ := e
    rw [List.map_cons, List.nodup_cons] at h
    by_cases hk : k = k'
    · subst hk
      have hnot : (k, v) ∉ entries := fun hmem => h.1 (List.mem_map.2 ⟨_, hmem, rfl⟩)
      simp [hnot, eq_comm]
    · have hbeq : (k == k') = false := by simpa using hk
      simp [List.lookup_cons, hbeq, ih h.2, hk]

theorem eq_of_mem_of_mem {w : β} (h : (entries.map (·.1)).Nodup) (hv : (k, v) ∈ entries)
    (hw : (k, w) ∈ entries) : v = w := by
  rw [← lookup_eq_some_iff_mem h] at hv hw
  rw [hv] at hw
  exact Option.some.inj hw

theorem lookup_eq_none_iff_not_mem : entries.lookup k = none ↔ k ∉ entries.map (·.1) := by
  rw [List.lookup_eq_none_iff, List.mem_map]
  simp only [bne_iff_ne, ne_eq]
  constructor
  · rintro h ⟨entry, hentry, rfl⟩
    exact h entry hentry rfl
  · rintro h entry hentry rfl
    exact h ⟨entry, hentry, rfl⟩

theorem nodup_keys_concat (h : (entries.map (·.1)).Nodup) (hk : entries.lookup k = none) (v : β) :
    ((entries ++ [(k, v)]).map (·.1)).Nodup := by
  rw [List.map_append, List.nodup_append]
  refine ⟨h, List.nodup_singleton k, ?_⟩
  rintro a ha b hb rfl
  rw [List.map_singleton, List.mem_singleton] at hb
  subst hb
  exact lookup_eq_none_iff_not_mem.1 hk ha

end SymbolIndex
