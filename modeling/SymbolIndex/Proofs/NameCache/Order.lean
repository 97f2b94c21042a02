import Mathlib.Data.Set.Function
import Mathlib.Order.Interval.Set.Defs
import SymbolIndex.Proofs.NameCache.Answers
import SymbolIndex.Proofs.NameCache.Consistency
import SymbolIndex.Proofs.NameCache.Handles

/-! # The order of requests

Which number a new pair gets depends on the order of the requests, but nothing else does: not which
pairs have names, nor how many, nor which numbers are used for the new ones.
-/
namespace SymbolIndex

namespace NameCache

def requests (pairs : List Pair) : List Op := pairs.map fun p => .lookupOrInsert p.1 p.2

def newNumbers (c d : NameCache) : Set Nat :=
  {u | ∃ m o n, c.lookup? m o = none ∧ d.lookup? m o = some n ∧ n.unique.toNat = u}

/-- What two caches that come from `c` by the same requests in two orders have in common. -/
structure SameUpToOrder (c d d' : NameCache) : Prop where
  resolved : ∀ m o, (d.lookup? m o).isSome = (d'.lookup? m o).isSome
  size : d.size = d'.size
  allocated : d.allocated = d'.allocated
  kept : ∀ m o n, c.lookup? m o = some n → d.lookup? m o = some n ∧ d'.lookup? m o = some n
  numbers : newNumbers c d = Set.Ico c.allocated.toNat d.allocated.toNat
  numbers' : newNumbers c d' = Set.Ico c.allocated.toNat d.allocated.toNat
  renumbered : ∃ σ : Nat → Nat,
    Set.BijOn σ (Set.Ico c.allocated.toNat d.allocated.toNat)
      (Set.Ico c.allocated.toNat d.allocated.toNat) ∧
    ∀ m o n n', c.lookup? m o = none → d.lookup? m o = some n → d'.lookup? m o = some n' →
      n'.module = n.module ∧ n'.occ = n.occ ∧ n'.unique.toNat = σ n.unique.toNat

/-- All requests for one pair are given one name, the name of that pair. -/
def OneNamePerPair (c : NameCache) (pairs : List Pair) : Prop :=
  ∀ (i j : Nat) (p : Pair), pairs[i]? = some p → pairs[j]? = some p →
    ∃ n, n.module = p.1 ∧ n.occ = p.2 ∧ (c.answers (requests pairs))[i]? = some (.name n) ∧
      (c.answers (requests pairs))[j]? = some (.name n)

variable {c d d' : NameCache} {past later later' pairs : List Pair} {p : Pair} {u : Nat}

theorem requested_requests (pairs : List Pair) : requested (requests pairs) = pairs := by
  rw [requested, requests, List.filterMap_map]
  exact List.filterMap_some

theorem getElem?_requests {i : Nat} (h : pairs[i]? = some p) :
    (requests pairs)[i]? = some (.lookupOrInsert p.1 p.2) := by
  rw [requests, List.getElem?_map, h, Option.map_some]

theorem oneNamePerPair (hc : c.Represents past) (pairs : List Pair) : c.OneNamePerPair pairs := by
  intro i j p hi hj
  exact ⟨nameOf (past ++ requested (requests pairs)) p, rfl, rfl,
    answer_of_request hc (getElem?_requests hi), answer_of_request hc (getElem?_requests hj)⟩

/-- The new pairs have the ranks from the count of the old ones on. -/
theorem mem_Ico_iff_rank :
    u ∈ Set.Ico (distinct past) (distinct (past ++ later)) ↔
      ∃ p ∈ past ++ later, p ∉ past ∧ rank (past ++ later) p = u := by
  rw [Set.mem_Ico]
  constructor
  · rintro ⟨hle, hlt⟩
    obtain ⟨p, hp, rfl⟩ := exists_rank_eq hlt
    refine ⟨p, hp, ?_, rfl⟩
    intro hold
    rw [rank_append hold] at hle
    exact Nat.not_lt_of_le hle (rank_lt hold)
  · rintro ⟨p, hp, hnew, rfl⟩
    exact ⟨distinct_le_rank hnew later, rank_lt hp⟩

theorem newNumbers_eq (hc : c.Represents past) (hd : d.Represents (past ++ later))
    (hfew : distinct (past ++ later) < UInt64.size) :
    newNumbers c d = Set.Ico (distinct past) (distinct (past ++ later)) := by
  ext u
  rw [mem_Ico_iff_rank]
  constructor
  · rintro ⟨m, o, n, hnone, hn, rfl⟩
    obtain ⟨hmem, rfl⟩ := hd.mem_of_lookup hn
    refine ⟨(m, o), hmem, ?_, (toNat_unique_nameOf hmem hfew).symm⟩
    intro hold
    rw [hc.lookup_of_mem hold] at hnone
    cases hnone
  · rintro ⟨p, hmem, hnew, rfl⟩
    exact ⟨p.1, p.2, _, hc.lookup_of_not_mem hnew, hd.lookup_of_mem hmem,
      toNat_unique_nameOf hmem hfew⟩

/-- The rank in the second history of the pair that has rank `u` in the first. -/
def renumber (past past' : List Pair) (u : Nat) : Nat :=
  match past.find? fun p => rank past p = u with
  | some p => rank past' p
  | none => u

theorem renumber_rank (h : p ∈ past) (past' : List Pair) :
    renumber past past' (rank past p) = rank past' p := by
  rw [renumber]
  cases hfind : past.find? fun q => rank past q = rank past p with
  | none =>
    have := List.find?_eq_none.1 hfind p h
    simp at this
  | some q =>
    have hrank : rank past q = rank past p := by simpa using List.find?_some hfind
    rw [rank_injective (List.mem_of_find?_eq_some hfind) h hrank]

theorem renumber_bijOn (h : later.Perm later') :
    Set.BijOn (renumber (past ++ later) (past ++ later'))
      (Set.Ico (distinct past) (distinct (past ++ later)))
      (Set.Ico (distinct past) (distinct (past ++ later))) := by
  have hperm : (past ++ later).Perm (past ++ later') := h.append_left past
  refine ⟨?_, ?_, ?_⟩
  · intro u hu
    obtain ⟨p, hp, hnew, rfl⟩ := mem_Ico_iff_rank.1 hu
    rw [renumber_rank hp, distinct_perm hperm]
    exact mem_Ico_iff_rank.2 ⟨p, hperm.mem_iff.1 hp, hnew, rfl⟩
  · intro u hu v hv heq
    obtain ⟨p, hp, -, rfl⟩ := mem_Ico_iff_rank.1 hu
    obtain ⟨q, hq, -, rfl⟩ := mem_Ico_iff_rank.1 hv
    rw [renumber_rank hp, renumber_rank hq] at heq
    rw [rank_injective (hperm.mem_iff.1 hp) (hperm.mem_iff.1 hq) heq]
  · intro v hv
    rw [distinct_perm hperm] at hv
    obtain ⟨p, hp, hnew, rfl⟩ := mem_Ico_iff_rank.1 hv
    have hp' := hperm.mem_iff.2 hp
    exact ⟨rank (past ++ later) p, mem_Ico_iff_rank.2 ⟨p, hp', hnew, rfl⟩, renumber_rank hp' _⟩

theorem sameUpToOrder (hc : c.Sound past) (hd : d.Sound (past ++ later))
    (hd' : d'.Sound (past ++ later')) (h : later.Perm later')
    (hfew : distinct (past ++ later) < UInt64.size) : SameUpToOrder c d d' := by
  have hperm : (past ++ later).Perm (past ++ later') := h.append_left past
  have hdistinct := distinct_perm hperm
  have hfew' : distinct (past ++ later') < UInt64.size := hdistinct ▸ hfew
  have hc_allocated := hc.allocated_eq (Nat.lt_of_le_of_lt (distinct_le_append past later) hfew)
  have hd_allocated := hd.allocated_eq hfew
  constructor
  · intro m o
    rw [hd.lookup, hd'.lookup]
    by_cases hmem : (m, o) ∈ past ++ later
    · rw [if_pos hmem, if_pos (hperm.mem_iff.1 hmem)]
      rfl
    · rw [if_neg hmem, if_neg (mt hperm.mem_iff.2 hmem)]
  · rw [hd.size_eq, hd'.size_eq, hdistinct]
  · rw [hd.allocated, hd'.allocated, hdistinct]
  · intro m o n hn
    obtain ⟨hmem, rfl⟩ := hc.mem_of_lookup hn
    rw [hd.lookup_of_mem (List.mem_append_left _ hmem),
      hd'.lookup_of_mem (List.mem_append_left _ hmem), nameOf_append hmem, nameOf_append hmem]
    exact ⟨rfl, rfl⟩
  · rw [hc_allocated, hd_allocated]
    exact newNumbers_eq hc.toRepresents hd.toRepresents hfew
  · rw [hc_allocated, hd_allocated, hdistinct]
    exact newNumbers_eq hc.toRepresents hd'.toRepresents hfew'
  · rw [hc_allocated, hd_allocated]
    refine ⟨renumber (past ++ later) (past ++ later'), renumber_bijOn h, ?_⟩
    intro m o n n' _ hn hn'
    obtain ⟨hmem, rfl⟩ := hd.mem_of_lookup hn
    obtain ⟨hmem', rfl⟩ := hd'.mem_of_lookup hn'
    refine ⟨rfl, rfl, ?_⟩
    rw [toNat_unique_nameOf hmem hfew, toNat_unique_nameOf hmem' hfew', renumber_rank hmem]

end NameCache

namespace Host

open NameCache

variable {h : Host} {id : CacheId}

def updates (tagged : List (Nat × Pair)) : List HostStep :=
  tagged.map fun r => .update r.1 (requests [r.2])

theorem value_step_update {u : Nat} (hlive : h.refer? (.updater u) = some id)
    (ops : List Op) :
    (h.step (.update u ops)).value =
      (.answers ((h.cache id).answers ops), h.setCache id ((h.cache id).after ops)) := by
  simp only [refer?] at hlive
  simp only [step, withCache, hlive]
  rfl

theorem refer?_setCache (h : Host) (id : CacheId) (c : NameCache) (x : Handle) :
    (h.setCache id c).refer? x = h.refer? x := by
  cases x <;> rfl

/-- Updaters of one cache do together what their requests in turn do to that cache. -/
theorem run_updates (hid : id < h.caches.length) (tagged : List (Nat × Pair))
    (hlive : ∀ r ∈ tagged, h.refer? (.updater r.1) = some id) :
    h.answers (updates tagged) =
      ((h.cache id).answers (requests (tagged.map (·.2)))).map (fun answer => .answers [answer]) ∧
    (h.after (updates tagged)).cache id =
      (h.cache id).after (requests (tagged.map (·.2))) := by
  induction tagged generalizing h with
  | nil => exact ⟨rfl, rfl⟩
  | cons r tagged ih =>
    have hvalue := value_step_update (hlive r List.mem_cons_self) (requests [r.2])
    have hrest : ∀ r' ∈ tagged, (h.setCache id ((h.cache id).after (requests [r.2]))).refer?
        (.updater r'.1) = some id := by
      intro r' hr'
      rw [refer?_setCache]
      exact hlive r' (List.mem_cons_of_mem r hr')
    obtain ⟨hanswers, hcache⟩ := ih (by rwa [setCache, List.length_set]) hrest
    rw [cache_setCache hid] at hanswers hcache
    constructor
    · rw [updates, List.map_cons, answers_cons, hvalue]
      exact congrArg (_ :: ·) hanswers
    · rw [updates, List.map_cons, after_cons, hvalue]
      exact hcache

/-- Runs in which each updater makes the same requests in the same order differ only in how these
are interleaved. -/
theorem perm_of_interleaved {tagged tagged' : List (Nat × Pair)}
    (hsame : ∀ u, tagged.filter (·.1 = u) = tagged'.filter (·.1 = u)) : tagged.Perm tagged' := by
  rw [List.perm_iff_count]
  intro r
  have hcount (tagged : List (Nat × Pair)) :
      (tagged.filter (·.1 = r.1)).count r = tagged.count r := List.count_filter (by simp)
  rw [← hcount tagged, hsame, hcount]

end Host

open NameCache in
/-- The order of requests decides nothing but the numbers of the new pairs, which it permutes; the
same is true of updaters of one cache, however their requests interleave. -/
theorem resolution_order_independent {start : NameCache} (hstart : start.Fresh) (ops : List Op)
    (pairs : List Pair) (hfew : distinct (requested ops ++ pairs) < UInt64.size) :
    (start.after ops).OneNamePerPair pairs ∧
    (∀ pairs', pairs.Perm pairs' →
      SameUpToOrder (start.after ops) ((start.after ops).after (requests pairs))
        ((start.after ops).after (requests pairs'))) ∧
    ∀ (h : Host) (id : CacheId) (tagged : List (Nat × Pair)), id < h.caches.length →
      h.cache id = start.after ops → tagged.map (·.2) = pairs →
      (∀ r ∈ tagged, h.refer? (.updater r.1) = some id) →
      (∀ (i j u u' : Nat) (p : Pair), tagged[i]? = some (u, p) → tagged[j]? = some (u', p) →
        ∃ n, n.module = p.1 ∧ n.occ = p.2 ∧
          (h.answers (Host.updates tagged))[i]? = some (.answers [.name n]) ∧
          (h.answers (Host.updates tagged))[j]? = some (.answers [.name n])) ∧
      ∀ tagged' : List (Nat × Pair),
        (∀ u, tagged.filter (·.1 = u) = tagged'.filter (·.1 = u)) →
        SameUpToOrder (h.cache id) ((h.after (Host.updates tagged)).cache id)
          ((h.after (Host.updates tagged')).cache id) := by
  have hc : (start.after ops).Sound (requested ops) := (Sound.of_fresh hstart).after ops
  have hone := oneNamePerPair hc.toRepresents pairs
  have hperm (pairs' : List Pair) (h : pairs.Perm pairs') :
      SameUpToOrder (start.after ops) ((start.after ops).after (requests pairs))
        ((start.after ops).after (requests pairs')) := by
    have hd := hc.after (requests pairs)
    have hd' := hc.after (requests pairs')
    rw [requested_requests] at hd hd'
    exact sameUpToOrder hc hd hd' h hfew
  refine ⟨hone, hperm, ?_⟩
  rintro h id tagged hid hcache rfl hlive
  obtain ⟨hanswers, hafter⟩ := Host.run_updates hid tagged hlive
  rw [hcache] at hanswers hafter
  constructor
  · intro i j u u' p hi hj
    obtain ⟨n, hm, ho, hni, hnj⟩ := hone i j p (by simp [hi]) (by simp [hj])
    rw [hanswers]
    exact ⟨n, hm, ho, by simp [hni], by simp [hnj]⟩
  · intro tagged' hsame
    have htagged := Host.perm_of_interleaved hsame
    have hlive' : ∀ r ∈ tagged', h.refer? (.updater r.1) = some id := by
      intro r hr
      exact hlive r (htagged.mem_iff.2 hr)
    rw [hcache, hafter, (Host.run_updates hid tagged' hlive').2, hcache]
    exact hperm _ (htagged.map _)

open NameCache in
/-- Two updaters that take turns in two ways: the new pairs change numbers, the old one does not. -/
theorem resolution_order_independent_two :
    let m : Module := ⟨⟨"Data.List"⟩, ⟨"base"⟩⟩
    let map : OccName := ⟨.value, "map"⟩
    let foldr : OccName := ⟨.value, "foldr"⟩
    let zip : OccName := ⟨.value, "zip"⟩
    let host := Host.empty.after
      [.create 4, .enter 0, .obtainUpdater 0, .cloneUpdater 0, .update 0 [.lookupOrInsert m map]]
    let tagged : List (Nat × Pair) := [(0, (m, foldr)), (1, (m, zip)), (0, (m, zip))]
    let tagged' : List (Nat × Pair) := [(1, (m, zip)), (0, (m, foldr)), (0, (m, zip))]
    let last := (host.after (Host.updates tagged)).cache 0
    let last' := (host.after (Host.updates tagged')).cache 0
    SameUpToOrder (host.cache 0) last last' ∧
      last.lookup? m foldr = some ⟨⟨1⟩, foldr, m⟩ ∧ last'.lookup? m foldr = some ⟨⟨2⟩, foldr, m⟩ ∧
      last.lookup? m map = some ⟨⟨0⟩, map, m⟩ ∧ last'.lookup? m map = some ⟨⟨0⟩, map, m⟩ := by
  intro m map foldr zip host tagged tagged' last last'
  have hfew : distinct (requested [.lookupOrInsert m map] ++ tagged.map (·.2)) < UInt64.size := by
    decide
  have hlive : ∀ r ∈ tagged, host.refer? (.updater r.1) = some 0 := by decide
  have hsame (u : Nat) : tagged.filter (·.1 = u) = tagged'.filter (·.1 = u) := by
    match u with
    | 0 => rfl
    | 1 => rfl
    | u + 2 => simp [tagged, tagged']
  have horder := (resolution_order_independent .empty [.lookupOrInsert m map] _ hfew).2.2
    host 0 tagged (by decide) (by decide) rfl hlive
  exact ⟨horder.2 tagged' hsame, by decide, by decide, by decide, by decide⟩

end SymbolIndex
