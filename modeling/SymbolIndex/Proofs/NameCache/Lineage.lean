import SymbolIndex.NameCache.Host
import SymbolIndex.Proofs.NameCache.Run

/-! # The lineage of handles

Which cache a handle refers to can be told from how it was made: with the cache, or from another
handle of the same cache. The past of a host is the list of its moves, latest first; nothing here
looks into a cache or into the tables of a host.
-/
namespace SymbolIndex

inductive Handle where
  | shared (number : Nat)
  | scope (number : Nat)
  | updater (number : Nat)
  deriving DecidableEq, Repr

/-- What a step did with handles: it made one with a cache of its own or from another handle, it
dropped one, or it ran operations on a cache through one. -/
inductive Move where
  | create (x : Handle) (cache : NameCache)
  | copy (x source : Handle)
  | drop (x : Handle)
  | call (x : Handle) (ops : List NameCache.Op)
  | idle

namespace HostStep

def uses : HostStep → List Handle
  | .create _ | .share _ => []
  | .clone slot | .drop slot | .enter slot | .read slot _ | .references slot => [.shared slot]
  | .leave scope | .obtainUpdater scope | .resolve scope _ => [.scope scope]
  | .cloneUpdater updater | .dropUpdater updater | .update updater _ => [.updater updater]
  | .sharesCache scope slot => [.scope scope, .shared slot]

def makes? : HostStep → Option (Nat → Handle)
  | .create _ | .share _ | .clone _ => some .shared
  | .enter _ => some .scope
  | .obtainUpdater _ | .cloneUpdater _ => some .updater
  | _ => none

def drops? : HostStep → Option Handle
  | .drop slot => some (.shared slot)
  | .leave scope => some (.scope scope)
  | .dropUpdater updater => some (.updater updater)
  | _ => none

/-- What a step addressed to a cache does there, and through which handle. -/
def call? : HostStep → Option (Handle × List NameCache.Op)
  | .resolve scope symbol => some (.scope scope, [.lookupOrInsert symbol.module symbol.name])
  | .update updater ops => some (.updater updater, ops)
  | .read slot queries => some (.shared slot, queries.map .query)
  | _ => none

def reply : HostStep → List NameCache.Answer → HostAnswer
  | .resolve _ _, [.name n] => .name n
  | _, answers => .answers answers

def move : HostStep → HostAnswer → Move
  | .create capacity, .handle n => .create (.shared n) (.withCapacity capacity)
  | .share cache, .handle n => .create (.shared n) cache
  | .clone slot, .handle n => .copy (.shared n) (.shared slot)
  | .enter slot, .handle n => .copy (.scope n) (.shared slot)
  | .obtainUpdater scope, .handle n => .copy (.updater n) (.scope scope)
  | .cloneUpdater updater, .handle n => .copy (.updater n) (.updater updater)
  | .drop slot, .done => .drop (.shared slot)
  | .leave scope, .done => .drop (.scope scope)
  | .dropUpdater updater, .done => .drop (.updater updater)
  | step, _ =>
    match step.call? with
    | some (x, ops) => .call x ops
    | none => .idle

theorem call?_of_move {s : HostStep} {answer : HostAnswer} {x : Handle} {ops : List NameCache.Op}
    (h : s.move answer = .call x ops) : s.call? = some (x, ops) := by
  have hcall : s.call?.toList = [(x, ops)] := by
    cases s <;> cases answer <;> simp_all [move, call?]
  exact Option.toList_eq_singleton_iff.1 hcall

/-- The handle that is made is the one whose number is answered. -/
theorem move_of_makes {s : HostStep} {kind : Nat → Handle} (h : s.makes? = some kind) (n : Nat) :
    (∃ cache, s.move (.handle n) = .create (kind n) cache) ∨
      ∃ source, s.move (.handle n) = .copy (kind n) source := by
  cases s with
  | create | share =>
    cases h
    exact Or.inl ⟨_, rfl⟩
  | clone | enter | obtainUpdater | cloneUpdater =>
    cases h
    exact Or.inr ⟨_, rfl⟩
  | drop | leave | dropUpdater | resolve | update | read | sharesCache | references => cases h

end HostStep

namespace Lineage

def created : List Move → List NameCache
  | [] => []
  | .create _ cache :: past => created past ++ [cache]
  | .copy _ _ :: past | .drop _ :: past | .call _ _ :: past | .idle :: past => created past

/-- The cache of a live handle: a new one for a created handle, else that of its source. -/
def owner : List Move → Handle → Option CacheId
  | [], _ => none
  | .create x _ :: past, y => if y = x then some (created past).length else owner past y
  | .copy x source :: past, y => if y = x then owner past source else owner past y
  | .drop x :: past, y => if y = x then none else owner past y
  | .call _ _ :: past, y | .idle :: past, y => owner past y

/-- The operations that were addressed to a cache through any handle of it, in their order. -/
def opsTo (id : CacheId) : List Move → List NameCache.Op
  | [] => []
  | .call x ops :: past => if owner past x = some id then opsTo id past ++ ops else opsTo id past
  | .create _ _ :: past | .copy _ _ :: past | .drop _ :: past | .idle :: past => opsTo id past

variable {past : List Move} {x : Handle} {id : CacheId}

theorem owner_lt (h : owner past x = some id) : id < (created past).length := by
  induction past generalizing x with
  | nil => cases h
  | cons move past ih =>
    cases move with
    | create y cache =>
      rw [owner] at h
      rw [created, List.length_append, List.length_singleton]
      split at h
      · cases h
        exact Nat.lt_succ_self _
      · exact Nat.lt_succ_of_lt (ih h)
    | copy y source =>
      rw [owner] at h
      split at h
      · exact ih h
      · exact ih h
    | drop y =>
      rw [owner] at h
      split at h
      · cases h
      · exact ih h
    | call y ops => exact ih h
    | idle => exact ih h

/-- Nothing is addressed to a cache before it is created. -/
theorem opsTo_of_length_le (h : (created past).length ≤ id) : opsTo id past = [] := by
  induction past with
  | nil => rfl
  | cons move past ih =>
    cases move with
    | create y cache =>
      rw [created, List.length_append] at h
      exact ih (Nat.le_trans (Nat.le_add_right _ _) h)
    | copy y source => exact ih h
    | drop y => exact ih h
    | call y ops =>
      have hne : owner past y ≠ some id := by
        intro howner
        exact Nat.not_lt_of_le h (owner_lt howner)
      rw [opsTo, if_neg hne]
      exact ih h
    | idle => exact ih h

/-- A cache stays where it was created. -/
theorem created_cons {c : NameCache} (move : Move) (h : (created past)[id]? = some c) :
    (created (move :: past))[id]? = some c := by
  cases move with
  | create x cache =>
    obtain ⟨hid, -⟩ := List.getElem?_eq_some_iff.1 h
    rw [created, List.getElem?_append_left hid]
    exact h
  | copy | drop | call | idle => exact h

theorem opsTo_cons_of_not_call {move : Move}
    (h : ∀ x ops, move = .call x ops → owner past x ≠ some id) :
    opsTo id (move :: past) = opsTo id past := by
  cases move with
  | call x ops => rw [opsTo, if_neg (h x ops rfl)]
  | create | copy | drop | idle => rfl

end Lineage

end SymbolIndex
