import SymbolIndex.Proofs.NameCache.Run

/-! # Every state of a cache is consistent

Entries, the names in them and the counter are kept in step: entries stand under the keys of their
names, and the numbers of the names are those the counter has passed, each used once.
-/
namespace SymbolIndex.NameCache

/-- A sound cache for a history: one name for each pair of it, numbered up to the counter. -/
structure Sound (c : NameCache) (past : List Pair) : Prop extends c.Represents past where
  keyed : c.WellKeyed
  numbers : (c.names.map (·.unique)).Perm
    ((List.range (distinct past)).map fun k => ⟨UInt64.ofNat k⟩)

structure Consistent (c : NameCache) : Prop extends c.WellKeyed where
  stored : ∀ m o n, c.lookup? m o = some n ↔ c.Stored m o n
  numbers : (c.names.map (·.unique.toNat)).Perm (List.range c.allocated.toNat)
  numbered : ∀ u, u < c.allocated.toNat ↔
    ∃ m o n, c.lookup? m o = some n ∧ n.unique.toNat = u
  numbered_once : ∀ m m' o o' n n', c.lookup? m o = some n → c.lookup? m' o' = some n' →
    n.unique = n'.unique → (m, o) = (m', o')
  size : c.size = c.allocated.toNat
  isEmpty : c.isEmpty = true ↔ c.size = 0

variable {c : NameCache} {past : List Pair} {m m' : Module} {o o' : OccName}

namespace Sound

theorem of_fresh (h : c.Fresh) : c.Sound [] := by
  have hempty : c = empty := by
    cases h with
    | empty => rfl
    | withCapacity modules => rfl
  subst hempty
  exact ⟨Represents.empty, WellKeyed.empty, List.Perm.nil⟩

theorem step (h : c.Sound past) (op : Op) :
    (c.step op).value.2.Sound (past ++ op.requested?.toList) := by
  have hnext := h.toRepresents.step op
  rcases h.step_cases op with ⟨hsub, heq⟩ | ⟨m, o, rfl, hmem, heq⟩
  · rw [heq] at hnext ⊢
    refine ⟨hnext, h.keyed, ?_⟩
    rw [distinct_append_of_subset hsub]
    exact h.numbers
  · rw [heq] at hnext ⊢
    refine ⟨hnext, h.keyed.add (h.lookup_of_not_mem hmem), ?_⟩
    have hnumbers : (((nameOf past (m, o)) :: c.names).map (·.unique)).Perm
        ((List.range (distinct past) ++ [distinct past]).map fun k => ⟨UInt64.ofNat k⟩) := by
      rw [List.map_cons, List.map_append, List.map_singleton, nameOf, rank_new hmem]
      exact (h.numbers.cons _).trans (List.perm_append_singleton _ _).symm
    rw [Op.requested?, Option.toList_some, distinct_concat_of_not_mem hmem, List.range_succ]
    exact ((names_add c _).map _).trans hnumbers

theorem after (h : c.Sound past) (ops : List Op) :
    (c.after ops).Sound (past ++ requested ops) :=
  after_induction (fun _ _ op h => h.step op) h ops

theorem allocated_eq (h : c.Sound past) (hfew : distinct past < UInt64.size) :
    c.allocated.toNat = distinct past := by
  rw [h.allocated]
  exact UInt64.toNat_ofNat_of_lt' hfew

theorem size_eq (h : c.Sound past) : c.size = distinct past := by
  have hlength := h.numbers.length_eq
  rw [List.length_map, List.length_map, List.length_range] at hlength
  rw [size_eq_length_names, hlength]

theorem numbers_range (h : c.Sound past) (hfew : distinct past < UInt64.size) :
    (c.names.map (·.unique.toNat)).Perm (List.range (distinct past)) := by
  have hvalues : (List.range (distinct past)).map (fun k => Unique.toNat ⟨UInt64.ofNat k⟩) =
      List.range (distinct past) := by
    rw [List.map_congr_left (g := id), List.map_id]
    intro k hk
    exact Unique.toNat_ofNat (Nat.lt_trans (List.mem_range.1 hk) hfew)
  have hmap := h.numbers.map Unique.toNat
  rw [List.map_map, List.map_map] at hmap
  exact hvalues ▸ hmap

theorem consistent (h : c.Sound past) (hfew : distinct past < UInt64.size) : c.Consistent := by
  have hallocated := h.allocated_eq hfew
  refine ⟨h.keyed, ?_, ?_, ?_, ?_, ?_, isEmpty_iff c⟩
  · intro m o n
    exact h.keyed.lookup?_eq_some_iff
  · rw [hallocated]
    exact h.numbers_range hfew
  · intro u
    rw [hallocated]
    constructor
    · intro hu
      obtain ⟨p, hp, hrank⟩ := exists_rank_eq hu
      exact ⟨p.1, p.2, _, h.lookup_of_mem hp, by rw [toNat_unique_nameOf hp hfew, hrank]⟩
    · rintro ⟨m, o, n, hn, rfl⟩
      obtain ⟨hmem, rfl⟩ := h.mem_of_lookup hn
      rw [toNat_unique_nameOf hmem hfew]
      exact rank_lt hmem
  · intro m m' o o' n n' hn hn' hunique
    obtain ⟨hmem, rfl⟩ := h.mem_of_lookup hn
    obtain ⟨hmem', rfl⟩ := h.mem_of_lookup hn'
    exact (unique_nameOf_eq_iff hmem hmem' hfew).1 hunique
  · rw [h.size_eq, hallocated]

end Sound

/-- Only the pair that is requested can get an entry. -/
theorem lookup?_step_of_ne (h : c.Represents past) (hne : (m', o') ≠ (m, o)) :
    (c.step (.lookupOrInsert m o)).value.2.lookup? m' o' = c.lookup? m' o' := by
  rcases h.step_cases (.lookupOrInsert m o) with ⟨-, heq⟩ | ⟨m, o, hop, hmem, heq⟩
  · rw [heq]
  · cases hop
    rw [heq, lookup?_add (h.lookup_of_not_mem hmem)]
    exact if_neg hne

theorem stored_step_of_ne (h : c.Sound past) (hne : (m', o') ≠ (m, o)) (n : Name) :
    (c.step (.lookupOrInsert m o)).value.2.Stored m' o' n ↔ c.Stored m' o' n := by
  rw [← (h.step _).keyed.lookup?_eq_some_iff, ← h.keyed.lookup?_eq_some_iff,
    lookup?_step_of_ne h.toRepresents hne]

/-- Every state that a fresh cache gets to is consistent; questions leave it as it is, and a request
leaves the entries of all other pairs as they are. -/
theorem states_consistent {start : NameCache} (hstart : start.Fresh) (ops : List Op)
    (hfew : distinct (requested ops) < UInt64.size) :
    (start.after ops).Consistent ∧
    (∀ q, (start.after ops).step (.query q) = pure ((start.after ops).answer q, start.after ops)) ∧
    ∀ m o m' o', (m', o') ≠ (m, o) →
      ((start.after ops).step (.lookupOrInsert m o)).value.2.lookup? m' o' =
        (start.after ops).lookup? m' o' ∧
      ∀ n, ((start.after ops).step (.lookupOrInsert m o)).value.2.Stored m' o' n ↔
        (start.after ops).Stored m' o' n := by
  have hsound : (start.after ops).Sound (requested ops) := (Sound.of_fresh hstart).after ops
  refine ⟨hsound.consistent hfew, fun q => rfl, ?_⟩
  intro m o m' o' hne
  exact ⟨lookup?_step_of_ne hsound.toRepresents hne, stored_step_of_ne hsound hne⟩

/-- A repeat takes no number, and a third unit of the module leaves the other two alone. -/
theorem states_consistent_repeat :
    let a : Module := ⟨⟨"Main"⟩, ⟨"main"⟩⟩
    let b : Module := ⟨⟨"Main"⟩, ⟨"other"⟩⟩
    let third : Module := ⟨⟨"Main"⟩, ⟨"third"⟩⟩
    let o : OccName := ⟨.value, "main"⟩
    let ops : List Op := [.lookupOrInsert a o, .lookupOrInsert b o, .lookupOrInsert a o]
    Fresh empty ∧ distinct (requested ops) < UInt64.size ∧ (empty.after ops).Consistent ∧
      (empty.after ops).allocated = 2 ∧ (empty.after ops).size = 2 ∧ (b, o) ≠ (third, o) ∧
      ((empty.after ops).step (.lookupOrInsert third o)).value.2.lookup? b o =
        some ⟨⟨1⟩, o, b⟩ := by
  intro a b third o ops
  have hfew : distinct (requested ops) < UInt64.size := by decide
  have hne : (b, o) ≠ (third, o) := by decide
  obtain ⟨hconsistent, -, hother⟩ := states_consistent .empty ops hfew
  have hallocated : (empty.after ops).allocated = 2 := by decide
  refine ⟨.empty, hfew, hconsistent, hallocated, ?_, hne, ?_⟩
  · rw [hconsistent.size, hallocated]
    rfl
  · rw [(hother third o b o hne).1]
    decide

end SymbolIndex.NameCache
