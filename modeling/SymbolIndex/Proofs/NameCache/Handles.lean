import Mathlib.Data.List.GetD
import SymbolIndex.Proofs.NameCache.Lineage

/-! # Handles share their cache and keep caches apart

A host follows its past: each handle refers to the cache that its lineage says, and each cache is in
the state that the operations addressed to it lead to. So a cache answers as if it were alone.
-/
namespace SymbolIndex.Host

def answers (h : Host) (steps : List HostStep) : List HostAnswer := (h.run steps).value.1

def after (h : Host) (steps : List HostStep) : Host := (h.run steps).value.2

def past (h : Host) (steps : List HostStep) : List Move :=
  (List.zipWith HostStep.move steps (h.answers steps)).reverse

def refer? (h : Host) : Handle → Option CacheId
  | .shared n => get? h.shared n
  | .scope n => get? h.scopes n
  | .updater n => get? h.updaters n

inductive Moved (h : Host) : Move → Host → Prop where
  | create {x cache next} (new : h.refer? x = none) (caches : next.caches = h.caches ++ [cache])
      (refer : ∀ y, next.refer? y = if y = x then some h.caches.length else h.refer? y) :
      Moved h (.create x cache) next
  | copy {x source id next} (new : h.refer? x = none) (live : h.refer? source = some id)
      (caches : next.caches = h.caches)
      (refer : ∀ y, next.refer? y = if y = x then some id else h.refer? y) :
      Moved h (.copy x source) next
  | drop {x next} (caches : next.caches = h.caches)
      (refer : ∀ y, next.refer? y = if y = x then none else h.refer? y) : Moved h (.drop x) next
  | call {x ops id} (live : h.refer? x = some id) :
      Moved h (.call x ops) (h.setCache id ((h.cache id).after ops))
  | refused {x ops} (dead : h.refer? x = none) : Moved h (.call x ops) h
  | idle : Moved h .idle h

variable {h : Host} {id : CacheId} {n k : Nat}

theorem get?_append (handles : Handles) (id : CacheId) (n : Nat) :
    get? (handles ++ [some id]) n = if n = handles.length then some id else get? handles n := by
  rw [get?, get?, List.getElem?_append]
  by_cases hlt : n < handles.length
  · rw [if_pos hlt, if_neg (Nat.ne_of_lt hlt)]
  · rw [if_neg hlt]
    by_cases heq : n = handles.length
    · simp [heq]
    · have hsub : n - handles.length ≠ 0 := by omega
      rw [if_neg heq, List.getElem?_eq_none (by simp; omega),
        List.getElem?_eq_none (Nat.le_of_not_lt hlt)]

theorem get?_set_none (handles : Handles) (k n : Nat) :
    get? (handles.set k none) n = if n = k then none else get? handles n := by
  rw [get?, get?, List.getElem?_set]
  by_cases heq : k = n
  · subst heq
    by_cases hlt : k < handles.length <;> simp [hlt]
  · rw [if_neg heq, if_neg (Ne.symm heq)]

theorem setCache_cache (h : Host) (id : CacheId) : h.setCache id (h.cache id) = h := by
  have hset : h.caches.set id (h.caches.getD id .empty) = h.caches := by
    by_cases hlt : id < h.caches.length
    · rw [List.getD_eq_getElem _ _ hlt, List.set_getElem_self]
    · exact List.set_eq_of_length_le (Nat.le_of_not_lt hlt)
  rw [setCache, cache, hset]

theorem cache_setCache (hid : id < h.caches.length) (c : NameCache) :
    (h.setCache id c).cache id = c := by
  rw [cache, setCache]
  simp [List.getD_eq_getElem?_getD, List.getElem?_set_self hid]

theorem cache_setCache_of_ne {id' : CacheId} (hne : id' ≠ id) (c : NameCache) :
    (h.setCache id c).cache id' = h.cache id' := by
  rw [cache, setCache, cache, List.getD_eq_getElem?_getD, List.getD_eq_getElem?_getD]
  rw [List.getElem?_set_ne (Ne.symm hne)]

theorem get?_length (handles : Handles) : get? handles handles.length = none := by
  rw [get?, List.getElem?_eq_none (Nat.le_refl _)]
  rfl

theorem refer?_share (h : Host) (caches : List NameCache) (id : CacheId) (y : Handle) :
    refer? { h with caches := caches, shared := h.shared ++ [some id] } y =
      if y = .shared h.shared.length then some id else h.refer? y := by
  cases y <;> simp [refer?, get?_append]

theorem refer?_enter (h : Host) (id : CacheId) (y : Handle) :
    refer? { h with scopes := h.scopes ++ [some id] } y =
      if y = .scope h.scopes.length then some id else h.refer? y := by
  cases y <;> simp [refer?, get?_append]

theorem refer?_obtain (h : Host) (id : CacheId) (y : Handle) :
    refer? { h with updaters := h.updaters ++ [some id] } y =
      if y = .updater h.updaters.length then some id else h.refer? y := by
  cases y <;> simp [refer?, get?_append]

theorem after_queries (c : NameCache) (queries : List NameCache.Query) :
    c.after (queries.map .query) = c := by
  induction queries with
  | nil => rfl
  | cons query queries ih => exact ih

theorem answers_queries (c : NameCache) (queries : List NameCache.Query) :
    c.answers (queries.map .query) = queries.map c.answer := by
  induction queries with
  | nil => rfl
  | cons query queries ih => exact congrArg (c.answer query :: ·) ih

theorem moved_adopt (h : Host) (c : NameCache) :
    Moved h (.create (.shared h.shared.length) c) (h.adopt c).2 :=
  .create (get?_length h.shared) rfl (refer?_share h _ _)

/-- Every step of a host makes the move that its answer tells. -/
theorem moved_step (h : Host) (s : HostStep) :
    Moved h (s.move (h.step s).value.1) (h.step s).value.2 := by
  cases s with
  | create capacity => exact h.moved_adopt _
  | share cache => exact h.moved_adopt cache
  | clone slot =>
    rw [step, withCache]
    cases hlive : get? h.shared slot with
    | none => exact .idle
    | some id => exact .copy (get?_length h.shared) hlive rfl (refer?_share h _ id)
  | drop slot =>
    rw [step, withCache]
    cases get? h.shared slot with
    | none => exact .idle
    | some id => exact .drop rfl fun y => by cases y <;> simp [refer?, get?_set_none]
  | enter slot =>
    rw [step, withCache]
    cases hlive : get? h.shared slot with
    | none => exact .idle
    | some id => exact .copy (get?_length h.scopes) hlive rfl (refer?_enter h id)
  | leave scope =>
    rw [step, withCache]
    cases get? h.scopes scope with
    | none => exact .idle
    | some id => exact .drop rfl fun y => by cases y <;> simp [refer?, get?_set_none]
  | obtainUpdater scope =>
    rw [step, withCache]
    cases hlive : get? h.scopes scope with
    | none => exact .idle
    | some id => exact .copy (get?_length h.updaters) hlive rfl (refer?_obtain h id)
  | cloneUpdater updater =>
    rw [step, withCache]
    cases hlive : get? h.updaters updater with
    | none => exact .idle
    | some id => exact .copy (get?_length h.updaters) hlive rfl (refer?_obtain h id)
  | dropUpdater updater =>
    rw [step, withCache]
    cases get? h.updaters updater with
    | none => exact .idle
    | some id => exact .drop rfl fun y => by cases y <;> simp [refer?, get?_set_none]
  | resolve scope symbol =>
    rw [step, withCache]
    cases hlive : get? h.scopes scope with
    | none => exact .refused hlive
    | some id => exact .call (x := .scope scope) hlive
  | update updater ops =>
    rw [step, withCache]
    cases hlive : get? h.updaters updater with
    | none => exact .refused hlive
    | some id => exact .call (x := .updater updater) hlive
  | read slot queries =>
    rw [step, withCache]
    cases hlive : get? h.shared slot with
    | none => exact .refused hlive
    | some id =>
      have hmoved : Moved h (.call (.shared slot) (queries.map .query))
          (h.setCache id ((h.cache id).after (queries.map .query))) := .call hlive
      rw [after_queries, setCache_cache] at hmoved
      exact hmoved
  | sharesCache scope slot =>
    simp only [step, withCache]
    cases get? h.scopes scope with
    | none => exact .idle
    | some id =>
      cases get? h.shared slot with
      | none => exact .idle
      | some id' => exact .idle
  | references slot =>
    rw [step, withCache]
    cases get? h.shared slot with
    | none => exact .idle
    | some id => exact .idle

/-- A step is refused if a handle it uses is not there, and only then. -/
theorem refused_iff (h : Host) (s : HostStep) :
    (h.step s).value.1 = .noHandle ↔ ∃ x ∈ s.uses, h.refer? x = none := by
  cases s with
  | create capacity => simp [step, adopt, HostStep.uses]
  | share cache => simp [step, adopt, HostStep.uses]
  | sharesCache scope slot =>
    simp only [step, withCache, HostStep.uses, refer?, List.mem_cons, List.not_mem_nil, or_false,
      exists_eq_or_imp, exists_eq_left]
    cases get? h.scopes scope with
    | none => simp
    | some id => cases get? h.shared slot <;> simp
  | clone slot | drop slot | enter slot | read slot queries | references slot =>
    simp only [step, withCache, HostStep.uses, refer?, List.mem_cons, List.not_mem_nil, or_false,
      exists_eq_left]
    cases get? h.shared slot <;> simp
  | leave scope | obtainUpdater scope | resolve scope symbol =>
    simp only [step, withCache, HostStep.uses, refer?, List.mem_cons, List.not_mem_nil, or_false,
      exists_eq_left]
    cases get? h.scopes scope <;> simp
  | cloneUpdater updater | dropUpdater updater | update updater ops =>
    simp only [step, withCache, HostStep.uses, refer?, List.mem_cons, List.not_mem_nil, or_false,
      exists_eq_left]
    cases get? h.updaters updater <;> simp

/-- A step through a live handle is answered by the cache of that handle. -/
theorem answer_call {s : HostStep} {x : Handle} {ops : List NameCache.Op}
    (hcall : s.call? = some (x, ops)) (hlive : h.refer? x = some id) :
    (h.step s).value.1 = s.reply ((h.cache id).answers ops) := by
  cases s with
  | resolve scope symbol =>
    cases hcall
    simp only [refer?] at hlive
    simp only [step, withCache, hlive]
    rfl
  | update updater ops =>
    cases hcall
    simp only [refer?] at hlive
    simp only [step, withCache, hlive]
    rfl
  | read slot queries =>
    cases hcall
    simp only [refer?] at hlive
    simp only [step, withCache, hlive, answers_queries]
    rfl
  | create | share | clone | drop | enter | leave | obtainUpdater | cloneUpdater | dropUpdater
  | sharesCache | references => cases hcall

/-- A step that makes a handle answers with the number of one that was not there. -/
theorem answer_makes {s : HostStep} {kind : Nat → Handle} (hkind : s.makes? = some kind)
    (hlive : ∀ x ∈ s.uses, h.refer? x ≠ none) :
    ∃ n, (h.step s).value.1 = .handle n ∧ h.refer? (kind n) = none := by
  have hanswer : ∃ n, (h.step s).value.1 = .handle n := by
    cases s with
    | create | share => exact ⟨_, rfl⟩
    | clone source | enter source | obtainUpdater source | cloneUpdater source =>
      obtain ⟨id, hid⟩ := Option.ne_none_iff_exists'.1 (hlive _ List.mem_cons_self)
      simp only [refer?] at hid
      simp [step, withCache, hid]
    | drop | leave | dropUpdater | resolve | update | read | sharesCache | references => cases hkind
  obtain ⟨n, hn⟩ := hanswer
  refine ⟨n, hn, ?_⟩
  have hmoved := h.moved_step s
  rw [hn] at hmoved
  rcases HostStep.move_of_makes hkind n with ⟨cache, hmove⟩ | ⟨source, hmove⟩
  · rw [hmove] at hmoved
    cases hmoved with
    | create hnew _ _ => exact hnew
  · rw [hmove] at hmoved
    cases hmoved with
    | copy hnew _ _ _ => exact hnew

theorem answer_drops {s : HostStep} {x : Handle} (hx : s.drops? = some x)
    (hlive : h.refer? x = some id) : (h.step s).value.1 = .done := by
  cases s with
  | drop | leave | dropUpdater =>
    cases hx
    simp only [refer?] at hlive
    simp only [step, withCache, hlive]
    rfl
  | create | share | clone | enter | obtainUpdater | cloneUpdater | resolve | update | read
  | sharesCache | references => cases hx

theorem answer_sharesCache {scope slot : Nat} {a b : CacheId}
    (ha : h.refer? (.scope scope) = some a) (hb : h.refer? (.shared slot) = some b) :
    (h.step (.sharesCache scope slot)).value.1 = .flag (a = b) := by
  simp only [refer?] at ha hb
  simp only [step, withCache, ha, hb]
  rfl

structure Follows (h : Host) (past : List Move) : Prop where
  handles : ∀ x, h.refer? x = Lineage.owner past x
  length : h.caches.length = (Lineage.created past).length
  states : ∀ (id : CacheId) (c : NameCache), (Lineage.created past)[id]? = some c →
    h.cache id = c.after (Lineage.opsTo id past)

namespace Follows

open Lineage

variable {past : List Move} {move : Move} {next : Host}

theorem empty : Follows empty [] := by
  constructor
  · intro x
    cases x <;> rfl
  · rfl
  · intro id c hc
    cases hc

/-- Only the operations of a call change a cache, and only the cache of its handle. -/
theorem moved (hf : h.Follows past) (hm : Moved h move next) : next.Follows (move :: past) := by
  obtain ⟨hhandles, hlength, hstates⟩ := hf
  cases hm with
  | @create x cache _ hnew hcaches hrefer =>
    refine ⟨?_, ?_, ?_⟩
    · intro y
      rw [hrefer, owner, hhandles, hlength]
    · simp [hcaches, created, hlength]
    · intro id c hc
      rw [created] at hc
      rw [opsTo, Host.cache, hcaches]
      by_cases hid : id < h.caches.length
      · rw [List.getElem?_append_left (hlength ▸ hid)] at hc
        rw [List.getD_append _ _ _ _ hid]
        exact hstates id c hc
      -- The new cache is as it was given: nothing has been addressed to it yet.
      · have hle : h.caches.length ≤ id := Nat.le_of_not_lt hid
        rw [List.getElem?_append_right (hlength ▸ hle), List.getElem?_singleton, ← hlength] at hc
        rw [opsTo_of_length_le (hlength ▸ hle), List.getD_append_right _ _ _ _ hle]
        split at hc
        · rename_i hzero
          cases hc
          rw [hzero]
          rfl
        · cases hc
  | @copy x source id _ hnew hlive hcaches hrefer =>
    refine ⟨?_, by rw [hcaches]; exact hlength, ?_⟩
    · intro y
      rw [hrefer, owner, ← hhandles, ← hhandles, hlive]
    · intro id c hc
      rw [Host.cache, hcaches]
      exact hstates id c hc
  | @drop x _ hcaches hrefer =>
    refine ⟨?_, by rw [hcaches]; exact hlength, ?_⟩
    · intro y
      rw [hrefer, owner, hhandles]
    · intro id c hc
      rw [Host.cache, hcaches]
      exact hstates id c hc
  | @call x ops id hlive =>
    have howner : owner past x = some id := by rw [← hhandles, hlive]
    have hid : id < h.caches.length := hlength ▸ owner_lt howner
    refine ⟨?_, ?_, ?_⟩
    · intro y
      rw [owner, ← hhandles]
      cases y <;> rfl
    · rw [created, ← hlength, setCache, List.length_set]
    · intro id' c hc
      rw [opsTo, howner]
      by_cases heq : id' = id
      · subst heq
        rw [if_pos rfl, cache_setCache hid, hstates id' c hc, NameCache.after_append]
      · rw [if_neg (by simpa using Ne.symm heq), cache_setCache_of_ne heq, hstates id' c hc]
  | @refused x ops hdead =>
    refine ⟨hhandles, hlength, ?_⟩
    intro id c hc
    rw [opsTo, ← hhandles, hdead, if_neg (Option.some_ne_none id).symm]
    exact hstates id c hc
  | idle => exact ⟨hhandles, hlength, hstates⟩

theorem after_moves (hf : h.Follows past) (s : HostStep) :
    (h.step s).value.2.Follows (s.move (h.step s).value.1 :: past) :=
  hf.moved (h.moved_step s)

end Follows

theorem answers_cons (h : Host) (s : HostStep) (steps : List HostStep) :
    h.answers (s :: steps) = (h.step s).value.1 :: (h.step s).value.2.answers steps := rfl

theorem after_cons (h : Host) (s : HostStep) (steps : List HostStep) :
    h.after (s :: steps) = (h.step s).value.2.after steps := rfl

theorem length_answers (h : Host) (steps : List HostStep) :
    (h.answers steps).length = steps.length := by
  induction steps generalizing h with
  | nil => rfl
  | cons s steps ih => exact congrArg (· + 1) (ih (h.step s).value.2)

theorem answers_concat (h : Host) (steps : List HostStep) (s : HostStep) :
    h.answers (steps ++ [s]) = h.answers steps ++ [((h.after steps).step s).value.1] := by
  induction steps generalizing h with
  | nil => rfl
  | cons s' steps ih => exact congrArg ((h.step s').value.1 :: ·) (ih (h.step s').value.2)

theorem after_concat (h : Host) (steps : List HostStep) (s : HostStep) :
    h.after (steps ++ [s]) = ((h.after steps).step s).value.2 := by
  induction steps generalizing h with
  | nil => rfl
  | cons s' steps ih => exact ih (h.step s').value.2

theorem answers_getElem? (h : Host) (steps : List HostStep) (i : Nat) :
    (h.answers steps)[i]? = steps[i]?.map fun s => ((h.after (steps.take i)).step s).value.1 := by
  induction steps generalizing h i with
  | nil => rfl
  | cons s steps ih =>
    cases i with
    | zero => rfl
    | succ i => exact ih _ i

theorem past_concat (h : Host) (steps : List HostStep) (s : HostStep) :
    h.past (steps ++ [s]) = s.move ((h.after steps).step s).value.1 :: h.past steps := by
  rw [past, answers_concat, List.zipWith_append (length_answers h steps).symm, List.reverse_append]
  rfl

theorem follows_past (steps : List HostStep) : (empty.after steps).Follows (empty.past steps) := by
  induction steps using List.reverseRecOn with
  | nil => exact Follows.empty
  | append_singleton steps s ih =>
    rw [after_concat, past_concat]
    exact ih.after_moves s

theorem after_take_succ {steps : List HostStep} {i : Nat} {s : HostStep}
    (hs : steps[i]? = some s) (h : Host) :
    h.after (steps.take (i + 1)) = ((h.after (steps.take i)).step s).value.2 := by
  rw [List.take_add_one, hs, Option.toList_some, after_concat]

theorem answer_at {steps : List HostStep} {i : Nat} {s : HostStep} (hs : steps[i]? = some s)
    (h : Host) : (h.answers steps)[i]? = some ((h.after (steps.take i)).step s).value.1 := by
  rw [answers_getElem?, hs, Option.map_some]

open Lineage in
/-- What a run of a host answers and leaves behind, told from the lineage of its handles and from
the operations addressed to each cache. -/
structure Isolated (steps : List HostStep) : Prop where
  length : (empty.answers steps).length = steps.length
  states : ∀ (id : CacheId) (c : NameCache), (created (empty.past steps))[id]? = some c →
    (empty.after steps).cache id = c.after (opsTo id (empty.past steps))
  known : ∀ (x : Handle) (id : CacheId), owner (empty.past steps) x = some id →
    ∃ c, (created (empty.past steps))[id]? = some c
  refused : ∀ (i : Nat) (s : HostStep), steps[i]? = some s →
    ((empty.answers steps)[i]? = some .noHandle ↔
      ∃ x ∈ s.uses, owner (empty.past (steps.take i)) x = none)
  made : ∀ (i : Nat) (s : HostStep) (kind : Nat → Handle), steps[i]? = some s →
    s.makes? = some kind → (∀ x ∈ s.uses, owner (empty.past (steps.take i)) x ≠ none) →
    ∃ n, (empty.answers steps)[i]? = some (.handle n) ∧
      owner (empty.past (steps.take i)) (kind n) = none
  dropped : ∀ (i : Nat) (s : HostStep) (x : Handle) (id : CacheId), steps[i]? = some s →
    s.drops? = some x → owner (empty.past (steps.take i)) x = some id →
    (empty.answers steps)[i]? = some .done
  called : ∀ (i : Nat) (s : HostStep) (x : Handle) (ops : List NameCache.Op) (id : CacheId)
    (c : NameCache), steps[i]? = some s → s.call? = some (x, ops) →
    owner (empty.past (steps.take i)) x = some id →
    (created (empty.past (steps.take i)))[id]? = some c →
    (empty.answers steps)[i]? =
      some (s.reply ((c.after (opsTo id (empty.past (steps.take i)))).answers ops))
  kept : ∀ (i : Nat) (s : HostStep) (id : CacheId) (c : NameCache), steps[i]? = some s →
    (created (empty.past (steps.take i)))[id]? = some c →
    (∀ x ops, s.call? = some (x, ops) → owner (empty.past (steps.take i)) x ≠ some id) →
    (empty.after (steps.take (i + 1))).cache id = (empty.after (steps.take i)).cache id
  shares : ∀ (i scope slot : Nat) (a b : CacheId), steps[i]? = some (.sharesCache scope slot) →
    owner (empty.past (steps.take i)) (.scope scope) = some a →
    owner (empty.past (steps.take i)) (.shared slot) = some b →
    (empty.answers steps)[i]? = some (.flag (a = b))

/-- Every cache of a host behaves as if it were alone, whatever handles it is used through. -/
theorem handles_isolate_caches (steps : List HostStep) : Isolated steps := by
  have hfollows (i : Nat) := follows_past (steps.take i)
  constructor
  · exact length_answers empty steps
  · exact (follows_past steps).states
  · intro x id hx
    exact ⟨_, List.getElem?_eq_getElem (Lineage.owner_lt hx)⟩
  · intro i s hs
    rw [answer_at hs, Option.some.injEq, refused_iff]
    simp only [(hfollows i).handles]
  · intro i s kind hs hkind hlive
    simp only [← (hfollows i).handles] at hlive ⊢
    rw [answer_at hs]
    obtain ⟨n, hn, hnew⟩ := answer_makes hkind hlive
    exact ⟨n, congrArg some hn, hnew⟩
  · intro i s x id hs hx hlive
    rw [← (hfollows i).handles] at hlive
    rw [answer_at hs, answer_drops hx hlive]
  · intro i s x ops id c hs hcall hx hc
    rw [← (hfollows i).handles] at hx
    rw [answer_at hs, answer_call hcall hx, (hfollows i).states id c hc]
  · intro i s id c hs hc hother
    rw [after_take_succ hs, (hfollows i).states id c hc,
      ((hfollows i).after_moves s).states id c (Lineage.created_cons _ hc),
      Lineage.opsTo_cons_of_not_call]
    intro x ops hmove
    exact hother x ops (HostStep.call?_of_move hmove)
  · intro i scope slot a b hs ha hb
    rw [← (hfollows i).handles] at ha hb
    rw [answer_at hs, answer_sharesCache ha hb]

/-- A clone leads to the cache of its original, and the other cache numbers its names on its own. -/
theorem handles_isolate_caches_two :
    let m : Module := ⟨⟨"Data.List"⟩, ⟨"base"⟩⟩
    let map : OccName := ⟨.value, "map"⟩
    let foldr : OccName := ⟨.value, "foldr"⟩
    let steps : List HostStep := [.create 4, .share .empty, .clone 0, .enter 2, .enter 1,
      .resolve 0 ⟨map, m⟩, .obtainUpdater 1, .update 0 [.lookupOrInsert m foldr],
      .sharesCache 0 0, .sharesCache 0 1, .read 2 [.lookup m map, .lookup m foldr]]
    Isolated steps ∧
      Lineage.owner (empty.past (steps.take 10)) (.shared 2) = some 0 ∧
      Lineage.opsTo 0 (empty.past (steps.take 10)) = [.lookupOrInsert m map] ∧
      (empty.answers steps).drop 8 =
        [.flag true, .flag false, .answers [.name ⟨⟨0⟩, map, m⟩, .missing]] := by
  intro m map foldr steps
  refine ⟨handles_isolate_caches steps, ?_, ?_, ?_⟩
  · decide
  · decide
  · decide

end SymbolIndex.Host
