import SymbolIndex.Proofs.NameCache.Run

/-! # What a run answers

A request is answered with the name of its pair, numbered by the rank of the pair in the whole run.
A look-up finds that same name once the pair has been requested, and nothing before.
-/
namespace SymbolIndex.NameCache

structure Named (ops : List Op) (p : Pair) (n : Name) : Prop where
  module : n.module = p.1
  occ : n.occ = p.2
  unique : n.unique.toNat = rank (requested ops) p

structure FollowsHistory (c : NameCache) (ops : List Op) : Prop where
  length : (c.answers ops).length = ops.length
  given : ∀ (i : Nat) (m : Module) (o : OccName), ops[i]? = some (.lookupOrInsert m o) →
    ∃ n, (c.answers ops)[i]? = some (.name n) ∧ Named ops (m, o) n
  found : ∀ (i : Nat) (m : Module) (o : OccName), ops[i]? = some (.query (.lookup m o)) →
    (m, o) ∈ requested (ops.take i) →
    ∃ n, (c.answers ops)[i]? = some (.name n) ∧ Named ops (m, o) n
  missing : ∀ (i : Nat) (m : Module) (o : OccName), ops[i]? = some (.query (.lookup m o)) →
    (m, o) ∉ requested (ops.take i) → (c.answers ops)[i]? = some .missing
  stable : ∀ (i j : Nat) (op op' : Op) (p : Pair) (n : Name), i ≤ j →
    ops[i]? = some op → op.asked? = some p → (c.answers ops)[i]? = some (.name n) →
    ops[j]? = some op' → op'.asked? = some p → (c.answers ops)[j]? = some (.name n)
  separate : ∀ (i j : Nat) (op op' : Op) (m m' : Module) (o o' : OccName) (n n' : Name),
    ops[i]? = some op → op.asked? = some (m, o) → (c.answers ops)[i]? = some (.name n) →
    ops[j]? = some op' → op'.asked? = some (m', o') → (c.answers ops)[j]? = some (.name n') →
    (n.unique = n'.unique ↔
      o.space = o'.space ∧ o.name = o'.name ∧ m.name = m'.name ∧ m.unit = m'.unit)

variable {c : NameCache} {past : List Pair} {ops : List Op} {i j : Nat} {m : Module} {o : OccName}
  {n : Name} {p : Pair}

theorem requested_take_append (ops : List Op) (i : Nat) :
    requested (ops.take i) ++ requested (ops.drop i) = requested ops := by
  rw [requested, requested, ← List.filterMap_append, List.take_append_drop, requested]

/-- What comes later in the run does not change the name of a pair. -/
theorem nameOf_take (h : p ∈ past ++ requested (ops.take i)) :
    nameOf (past ++ requested (ops.take i)) p = nameOf (past ++ requested ops) p := by
  rw [← requested_take_append ops i, ← List.append_assoc, nameOf_append h]

theorem named_nameOf (h : p ∈ requested ops) (hfew : distinct (requested ops) < UInt64.size) :
    Named ops p (nameOf (requested ops) p) :=
  ⟨rfl, rfl, toNat_unique_nameOf h hfew⟩

theorem mem_requested_take_of_le (hij : i ≤ j) (h : p ∈ requested (ops.take i)) :
    p ∈ requested (ops.take j) := by
  have htake : (ops.take i).Sublist (ops.take j) := (List.take_prefix_take_left hij).sublist
  exact (htake.filterMap Op.requested?).subset h

theorem mem_requested_of_take (h : p ∈ requested (ops.take i)) : p ∈ requested ops := by
  rw [← requested_take_append ops i]
  exact List.mem_append_left _ h

theorem requested_take_succ {op : Op} (h : ops[i]? = some op) :
    requested (ops.take (i + 1)) = requested (ops.take i) ++ op.requested?.toList := by
  rw [List.take_add_one, h, requested, List.filterMap_append]
  cases op <;> rfl

theorem requested_take_of_query {q : Query} (h : ops[i]? = some (.query q)) :
    requested (ops.take (i + 1)) = requested (ops.take i) := by
  rw [requested_take_succ h, Op.requested?, Option.toList_none, List.append_nil]

theorem mem_requested_take (h : ops[i]? = some (.lookupOrInsert m o)) :
    (m, o) ∈ requested (ops.take (i + 1)) := by
  rw [requested_take_succ h]
  exact List.mem_append_right _ (List.mem_singleton_self _)

/-- Whoever asks for a pair is given its name if the pair has been requested by then. -/
theorem answer_of_asked (hc : c.Represents past) {op : Op} (h : ops[i]? = some op)
    (hp : op.asked? = some p) :
    (c.answers ops)[i]? =
      some (if p ∈ past ++ requested (ops.take (i + 1)) then
        .name (nameOf (past ++ requested ops) p) else .missing) := by
  have hnow := hc.after (ops.take i)
  rw [answers_getElem?, h, Option.map_some]
  cases op with
  | lookupOrInsert m o =>
    cases hp
    have hmem : (m, o) ∈ past ++ requested (ops.take (i + 1)) :=
      List.mem_append_right _ (mem_requested_take h)
    rw [hnow.answer_request, if_pos hmem, ← nameOf_take hmem, requested_take_succ h,
      Op.requested?, Option.toList_some, ← List.append_assoc, nameOf_concat]
  | query q =>
    cases q with
    | lookup m o =>
      cases hp
      rw [hnow.answer_lookup, requested_take_of_query h]
      by_cases hmem : (m, o) ∈ past ++ requested (ops.take i)
      · rw [if_pos hmem, if_pos hmem, nameOf_take hmem]
      · rw [if_neg hmem, if_neg hmem]
    | size => cases hp
    | isEmpty => cases hp
    | allocated => cases hp

theorem answer_of_request (hc : c.Represents past) (h : ops[i]? = some (.lookupOrInsert m o)) :
    (c.answers ops)[i]? = some (.name (nameOf (past ++ requested ops) (m, o))) := by
  rw [answer_of_asked hc h rfl, if_pos (List.mem_append_right _ (mem_requested_take h))]

theorem name_of_answer (hc : c.Represents past) {op : Op} (h : ops[i]? = some op)
    (hp : op.asked? = some p) (hn : (c.answers ops)[i]? = some (.name n)) :
    p ∈ past ++ requested (ops.take (i + 1)) ∧ n = nameOf (past ++ requested ops) p := by
  rw [answer_of_asked hc h hp] at hn
  by_cases hmem : p ∈ past ++ requested (ops.take (i + 1))
  · rw [if_pos hmem] at hn
    cases hn
    exact ⟨hmem, rfl⟩
  · rw [if_neg hmem] at hn
    cases hn

/-- All four parts of a pair count. -/
theorem pair_eq_iff {m m' : Module} {o o' : OccName} :
    (m, o) = (m', o') ↔
      o.space = o'.space ∧ o.name = o'.name ∧ m.name = m'.name ∧ m.unit = m'.unit := by
  obtain ⟨name, unit⟩ := m
  obtain ⟨name', unit'⟩ := m'
  obtain ⟨space, text⟩ := o
  obtain ⟨space', text'⟩ := o'
  constructor
  · intro h
    cases h
    exact ⟨rfl, rfl, rfl, rfl⟩
  · rintro ⟨rfl, rfl, rfl, rfl⟩
    rfl

/-- Every answer of a run of a fresh cache is the one that the operations alone give it. -/
theorem answers_follow_history {start : NameCache} (hstart : start.Fresh) (ops : List Op)
    (hfew : distinct (requested ops) < UInt64.size) : start.FollowsHistory ops := by
  have hc := Represents.of_fresh hstart
  constructor
  · exact length_answers start ops
  · intro i m o h
    exact ⟨_, answer_of_request hc h, named_nameOf (mem_requested h) hfew⟩
  · intro i m o h hmem
    refine ⟨_, ?_, named_nameOf (mem_requested_of_take hmem) hfew⟩
    rw [answer_of_asked hc h rfl, requested_take_of_query h]
    exact congrArg some (if_pos hmem)
  · intro i m o h hmem
    rw [answer_of_asked hc h rfl, requested_take_of_query h]
    exact congrArg some (if_neg hmem)
  · intro i j op op' p n hij h hp hn h' hp'
    obtain ⟨hmem, rfl⟩ := name_of_answer hc h hp hn
    rw [answer_of_asked hc h' hp']
    exact congrArg some (if_pos (mem_requested_take_of_le (Nat.succ_le_succ hij) hmem))
  · intro i j op op' m m' o o' n n' h hp hn h' hp' hn'
    obtain ⟨hmem, rfl⟩ := name_of_answer hc h hp hn
    obtain ⟨hmem', rfl⟩ := name_of_answer hc h' hp' hn'
    rw [List.nil_append] at *
    rw [unique_nameOf_eq_iff (mem_requested_of_take hmem) (mem_requested_of_take hmem') hfew]
    exact pair_eq_iff

/-- A type and a constructor of one name are numbered apart, and a miss takes no number. -/
theorem answers_follow_history_maybe :
    let m : Module := ⟨⟨"Data.Maybe"⟩, ⟨"base"⟩⟩
    let type : OccName := ⟨.typeOrClass, "Maybe"⟩
    let con : OccName := ⟨.constructor, "Maybe"⟩
    let ops : List Op := [.lookupOrInsert m type, .query (.lookup m con), .lookupOrInsert m type,
      .lookupOrInsert m con, .query (.lookup m type)]
    Fresh (withCapacity 4) ∧ distinct (requested ops) < UInt64.size ∧
      (withCapacity 4).FollowsHistory ops ∧
      (withCapacity 4).answers ops =
        [.name ⟨⟨0⟩, type, m⟩, .missing, .name ⟨⟨0⟩, type, m⟩, .name ⟨⟨1⟩, con, m⟩,
          .name ⟨⟨0⟩, type, m⟩] := by
  intro m type con ops
  have hfew : distinct (requested ops) < UInt64.size := by decide
  exact ⟨.withCapacity 4, hfew, answers_follow_history (.withCapacity 4) ops hfew, by decide⟩

end SymbolIndex.NameCache
