import SymbolIndex.Proofs.NameCache.Entries
import SymbolIndex.Proofs.NameCache.Requests

/-! # Runs of a name cache

A cache stands for the history of requests made to it: it holds the pairs of the history, and each
pair has its rank as number. One operation keeps this up, so a run does, and every answer of a run
can be told from the operations alone.
-/
namespace SymbolIndex.NameCache

inductive Fresh : NameCache → Prop where
  | empty : Fresh empty
  | withCapacity (modules : UInt64) : Fresh (withCapacity modules)

def answers (c : NameCache) (ops : List Op) : List Answer := (c.run ops).value.1

def after (c : NameCache) (ops : List Op) : NameCache := (c.run ops).value.2

structure Represents (c : NameCache) (past : List Pair) : Prop where
  allocated : c.allocated = UInt64.ofNat (distinct past)
  lookup : ∀ m o, c.lookup? m o = if (m, o) ∈ past then some (nameOf past (m, o)) else none

variable {c : NameCache} {past : List Pair} {m : Module} {o : OccName}

theorem answers_cons (c : NameCache) (op : Op) (ops : List Op) :
    c.answers (op :: ops) = (c.step op).value.1 :: (c.step op).value.2.answers ops := rfl

theorem after_cons (c : NameCache) (op : Op) (ops : List Op) :
    c.after (op :: ops) = (c.step op).value.2.after ops := rfl

theorem length_answers (c : NameCache) (ops : List Op) : (c.answers ops).length = ops.length := by
  induction ops generalizing c with
  | nil => rfl
  | cons op ops ih => rw [answers_cons, List.length_cons, List.length_cons, ih]

theorem answers_getElem? (c : NameCache) (ops : List Op) (i : Nat) :
    (c.answers ops)[i]? = ops[i]?.map fun op => ((c.after (ops.take i)).step op).value.1 := by
  induction ops generalizing c i with
  | nil => rfl
  | cons op ops ih =>
    cases i with
    | zero => rfl
    | succ i => exact ih _ i

theorem after_append (c : NameCache) (ops later : List Op) :
    c.after (ops ++ later) = (c.after ops).after later := by
  induction ops generalizing c with
  | nil => rfl
  | cons op ops ih => exact ih _

theorem value_step_request (c : NameCache) (m : Module) (o : OccName) :
    (c.step (.lookupOrInsert m o)).value =
      match c.lookup? m o with
      | some n => (.name n, c)
      | none => (.name ⟨⟨c.allocated⟩, o, m⟩, c.add ⟨⟨c.allocated⟩, o, m⟩) := by
  rw [step, lookupOrInsert]
  cases c.lookup? m o <;> rfl

theorem requested_cons (op : Op) (ops : List Op) :
    requested (op :: ops) = op.requested?.toList ++ requested ops := by
  rw [requested, List.filterMap_cons]
  cases op.requested? <;> rfl

/-- What every step keeps up, as the history of requests grows, a whole run keeps up. -/
theorem after_induction {P : NameCache → List Pair → Prop}
    (hstep : ∀ c past op, P c past → P (c.step op).value.2 (past ++ op.requested?.toList))
    (h : P c past) (ops : List Op) : P (c.after ops) (past ++ requested ops) := by
  induction ops generalizing c past with
  | nil =>
    rw [requested, List.filterMap_nil, List.append_nil]
    exact h
  | cons op ops ih =>
    rw [after_cons, requested_cons, ← List.append_assoc]
    exact ih (hstep c past op h)

theorem mem_requested {ops : List Op} {i : Nat} (h : ops[i]? = some (.lookupOrInsert m o)) :
    (m, o) ∈ requested ops :=
  List.mem_filterMap.2 ⟨_, List.mem_of_getElem? h, rfl⟩

namespace Represents

theorem empty : Represents empty [] := ⟨rfl, fun _ _ => rfl⟩

theorem of_fresh (h : c.Fresh) : c.Represents [] := by
  cases h with
  | empty => exact empty
  | withCapacity modules => exact empty

theorem lookup_of_mem (h : c.Represents past) (hmem : (m, o) ∈ past) :
    c.lookup? m o = some (nameOf past (m, o)) := by
  rw [h.lookup, if_pos hmem]

theorem lookup_of_not_mem (h : c.Represents past) (hmem : (m, o) ∉ past) :
    c.lookup? m o = none := by
  rw [h.lookup, if_neg hmem]

theorem mem_of_lookup (h : c.Represents past) {n : Name} (hn : c.lookup? m o = some n) :
    (m, o) ∈ past ∧ n = nameOf past (m, o) := by
  by_cases hmem : (m, o) ∈ past
  · rw [h.lookup_of_mem hmem] at hn
    exact ⟨hmem, (Option.some.inj hn).symm⟩
  · rw [h.lookup_of_not_mem hmem] at hn
    cases hn

/-- The counter is at the rank of the next new pair. -/
theorem nameOf_new (h : c.Represents past) (hmem : (m, o) ∉ past) :
    nameOf past (m, o) = ⟨⟨c.allocated⟩, o, m⟩ := by
  rw [nameOf, rank_new hmem, h.allocated]

theorem answer_request (h : c.Represents past) (m : Module) (o : OccName) :
    (c.step (.lookupOrInsert m o)).value.1 = .name (nameOf past (m, o)) := by
  rw [value_step_request]
  by_cases hmem : (m, o) ∈ past
  · rw [h.lookup_of_mem hmem]
  · rw [h.lookup_of_not_mem hmem, h.nameOf_new hmem]

theorem answer_lookup (h : c.Represents past) (m : Module) (o : OccName) :
    (c.step (.query (.lookup m o))).value.1 =
      if (m, o) ∈ past then .name (nameOf past (m, o)) else .missing := by
  change c.answer (.lookup m o) = _
  rw [answer]
  by_cases hmem : (m, o) ∈ past
  · rw [h.lookup_of_mem hmem, if_pos hmem]
  · rw [h.lookup_of_not_mem hmem, if_neg hmem]

theorem add (h : c.Represents past) (hmem : (m, o) ∉ past) :
    (c.add (nameOf past (m, o))).Represents (past ++ [(m, o)]) := by
  have hlookup (m' : Module) (o' : OccName) :
      (c.add (nameOf past (m, o))).lookup? m' o' =
        if (m', o') = (m, o) then some (nameOf past (m, o)) else c.lookup? m' o' :=
    lookup?_add (h.lookup_of_not_mem hmem) m' o'
  constructor
  · rw [distinct_concat_of_not_mem hmem, UInt64.ofNat_add, ← h.allocated]
    rfl
  · intro m' o'
    rw [hlookup, h.lookup]
    by_cases heq : (m', o') = (m, o)
    · rw [heq, if_pos rfl, if_pos (by simp), nameOf_concat]
    · have hiff : (m', o') ∈ past ++ [(m, o)] ↔ (m', o') ∈ past := by simp [heq]
      rw [if_neg heq]
      by_cases hold : (m', o') ∈ past
      · rw [if_pos hold, if_pos (hiff.2 hold), nameOf_append hold]
      · rw [if_neg hold, if_neg (mt hiff.1 hold)]

theorem repeated (h : c.Represents past) {later : List Pair} (hsub : later ⊆ past) :
    c.Represents (past ++ later) := by
  constructor
  · rw [distinct_append_of_subset hsub, h.allocated]
  · intro m o
    rw [h.lookup]
    by_cases hold : (m, o) ∈ past
    · rw [if_pos hold, if_pos (List.mem_append_left _ hold), nameOf_append hold]
    · have hnot : (m, o) ∉ past ++ later := by
        rw [List.mem_append]
        rintro (hmem | hmem)
        · exact hold hmem
        · exact hold (hsub hmem)
      rw [if_neg hold, if_neg hnot]

/-- An operation adds the name of a new pair, or it leaves the cache as it is. -/
theorem step_cases (h : c.Represents past) (op : Op) :
    (op.requested?.toList ⊆ past ∧ (c.step op).value.2 = c) ∨
    ∃ m o, op = .lookupOrInsert m o ∧ (m, o) ∉ past ∧
      (c.step op).value.2 = c.add (nameOf past (m, o)) := by
  cases op with
  | query q => exact Or.inl ⟨List.nil_subset past, rfl⟩
  | lookupOrInsert m o =>
    rw [value_step_request]
    by_cases hmem : (m, o) ∈ past
    · refine Or.inl ⟨List.cons_subset.2 ⟨hmem, List.nil_subset past⟩, ?_⟩
      rw [h.lookup_of_mem hmem]
    · refine Or.inr ⟨m, o, rfl, hmem, ?_⟩
      rw [h.lookup_of_not_mem hmem, h.nameOf_new hmem]

theorem step (h : c.Represents past) (op : Op) :
    (c.step op).value.2.Represents (past ++ op.requested?.toList) := by
  rcases h.step_cases op with ⟨hsub, heq⟩ | ⟨m, o, rfl, hmem, heq⟩
  · rw [heq]
    exact h.repeated hsub
  · rw [heq]
    exact h.add hmem

theorem after (h : c.Represents past) (ops : List Op) :
    (c.after ops).Represents (past ++ requested ops) :=
  after_induction (fun _ _ op h => h.step op) h ops

end Represents

end SymbolIndex.NameCache
