import Mathlib.Data.Finset.Card
import Mathlib.Data.Finset.Dedup
import SymbolIndex.NameCache.Basic

/-! # Requests and their ranks

The history of a cache is the list of pairs that names were requested for. The rank of a pair is the
number of different pairs before its first request; it is the number that the pair's name is to have.
-/
namespace SymbolIndex

theorem Unique.toNat_ofNat {n : Nat} (h : n < UInt64.size) : Unique.toNat ⟨UInt64.ofNat n⟩ = n :=
  UInt64.toNat_ofNat_of_lt' h

namespace NameCache

abbrev Pair := Module × OccName

def Op.requested? : Op → Option Pair
  | .lookupOrInsert m o => some (m, o)
  | .query _ => none

def Op.asked? : Op → Option Pair
  | .lookupOrInsert m o => some (m, o)
  | .query (.lookup m o) => some (m, o)
  | .query _ => none

def requested (ops : List Op) : List Pair := ops.filterMap Op.requested?

def distinct (past : List Pair) : Nat := past.toFinset.card

def rank (past : List Pair) (p : Pair) : Nat := distinct (past.takeWhile (· ≠ p))

/-- The name of a pair after the requests `past`, or the one it gets next. -/
def nameOf (past : List Pair) (p : Pair) : Name := ⟨⟨UInt64.ofNat (rank past p)⟩, p.2, p.1⟩

variable {past later : List Pair} {p q : Pair}

theorem distinct_append_of_subset (h : later ⊆ past) : distinct (past ++ later) = distinct past := by
  have hset : (past ++ later).toFinset = past.toFinset := by
    ext q
    rw [List.mem_toFinset, List.mem_toFinset, List.mem_append]
    constructor
    · rintro (hq | hq)
      · exact hq
      · exact h hq
    · exact Or.inl
  rw [distinct, hset, distinct]

theorem distinct_concat_of_not_mem (h : p ∉ past) :
    distinct (past ++ [p]) = distinct past + 1 := by
  have hp : p ∉ past.toFinset := by rwa [List.mem_toFinset]
  rw [distinct, distinct, ← Finset.card_insert_of_notMem hp]
  congr 1
  ext q
  simp

theorem distinct_mono (h : past ⊆ later) : distinct past ≤ distinct later := by
  apply Finset.card_le_card
  intro q hq
  rw [List.mem_toFinset] at hq ⊢
  exact h hq

theorem distinct_le_append (past later : List Pair) : distinct past ≤ distinct (past ++ later) :=
  distinct_mono (List.subset_append_left past later)

theorem distinct_perm (h : past.Perm later) : distinct past = distinct later :=
  congrArg Finset.card (List.toFinset_eq_of_perm _ _ h)

theorem rank_of_not_mem (h : p ∉ past) (later : List Pair) :
    rank (past ++ later) p = distinct (past ++ later.takeWhile (· ≠ p)) := by
  rw [rank, List.takeWhile_append_of_pos]
  intro q hq
  have : q ≠ p := by
    rintro rfl
    exact h hq
  simpa using this

theorem rank_new (h : p ∉ past) : rank past p = distinct past := by
  have := rank_of_not_mem h []
  simpa using this

/-- Later requests do not change the rank of a pair. -/
theorem rank_append (h : p ∈ past) (later : List Pair) : rank (past ++ later) p = rank past p := by
  obtain ⟨before, after, rfl, hfirst⟩ := List.eq_append_cons_of_mem h
  have hstop (rest : List Pair) : rank (before ++ p :: rest) p = distinct before := by
    rw [rank_of_not_mem hfirst]
    simp
  rw [List.append_assoc, List.cons_append, hstop, hstop]

theorem rank_lt (h : p ∈ past) : rank past p < distinct past := by
  obtain ⟨before, after, rfl, hfirst⟩ := List.eq_append_cons_of_mem h
  calc rank (before ++ p :: after) p
      = distinct before := by
        rw [rank_of_not_mem hfirst]
        simp
    _ < distinct (before ++ [p]) := by
        rw [distinct_concat_of_not_mem hfirst]
        exact Nat.lt_succ_self _
    _ ≤ distinct (before ++ p :: after) := by
        apply distinct_mono
        intro q
        simp only [List.mem_append, List.mem_cons, List.not_mem_nil, or_false]
        tauto

theorem distinct_le_rank (h : p ∉ past) (later : List Pair) :
    distinct past ≤ rank (past ++ later) p := by
  rw [rank_of_not_mem h]
  exact distinct_le_append _ _

theorem rank_injective (hp : p ∈ past) (hq : q ∈ past) (h : rank past p = rank past q) : p = q := by
  induction past using List.reverseRecOn with
  | nil => cases hp
  | append_singleton past r ih =>
    -- A pair that is new at the end has a larger rank than all before it.
    have hnew {p q : Pair} (hp : p ∈ past) (hq : q ∈ past ++ [r])
        (h : rank (past ++ [r]) p = rank (past ++ [r]) q) : q ∈ past := by
      apply Classical.byContradiction
      intro hq'
      have hle := distinct_le_rank hq' [r]
      have hlt := rank_lt hp
      rw [rank_append hp] at h
      omega
    by_cases hp' : p ∈ past
    · have hq' := hnew hp' hq h
      rw [rank_append hp', rank_append hq'] at h
      exact ih hp' hq' h
    · by_cases hq' : q ∈ past
      · exact absurd (hnew hq' hp h.symm) hp'
      · simp only [List.mem_append, hp', hq', List.mem_singleton, false_or] at hp hq
        rw [hp, hq]

theorem exists_rank_eq {k : Nat} (h : k < distinct past) : ∃ p ∈ past, rank past p = k := by
  induction past using List.reverseRecOn with
  | nil => cases h
  | append_singleton past r ih =>
    by_cases hk : k < distinct past
    · obtain ⟨p, hp, hrank⟩ := ih hk
      exact ⟨p, List.mem_append_left _ hp, by rw [rank_append hp, hrank]⟩
    · have hr : r ∉ past := by
        intro hr
        rw [distinct_append_of_subset (List.cons_subset.2 ⟨hr, List.nil_subset past⟩)] at h
        exact hk h
      refine ⟨r, by simp, ?_⟩
      rw [distinct_concat_of_not_mem hr] at h
      rw [rank_of_not_mem hr]
      simp only [List.takeWhile_cons, ne_eq, not_true_eq_false, decide_false, Bool.false_eq_true,
        if_false, List.append_nil]
      omega

theorem nameOf_append (h : p ∈ past) (later : List Pair) :
    nameOf (past ++ later) p = nameOf past p := by
  rw [nameOf, rank_append h, nameOf]

/-- A pair gets the name that was next for it. -/
theorem nameOf_concat (past : List Pair) (p : Pair) : nameOf (past ++ [p]) p = nameOf past p := by
  by_cases h : p ∈ past
  · exact nameOf_append h [p]
  · rw [nameOf, nameOf, rank_of_not_mem h, rank_new h]
    simp

/-- The number of a name is the rank of its pair as long as the numbers last. -/
theorem toNat_unique_nameOf (h : p ∈ past) (hfew : distinct past < UInt64.size) :
    (nameOf past p).unique.toNat = rank past p :=
  Unique.toNat_ofNat (Nat.lt_trans (rank_lt h) hfew)

theorem unique_nameOf_eq_iff (hp : p ∈ past) (hq : q ∈ past) (hfew : distinct past < UInt64.size) :
    (nameOf past p).unique = (nameOf past q).unique ↔ p = q := by
  constructor
  · intro h
    apply rank_injective hp hq
    rw [← toNat_unique_nameOf hp hfew, ← toNat_unique_nameOf hq hfew, h]
  · rintro rfl
    rfl

end NameCache

end SymbolIndex
