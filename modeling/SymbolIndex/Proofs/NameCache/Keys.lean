import SymbolIndex.Proofs.NameCache.Handles
import SymbolIndex.Proofs.Symbol.RoundTrip

/-! # Keys and numbers stand for the same symbols

Wherever two symbols are resolved in one cache, they get one number exactly if they are one symbol,
and so do two keys exactly if they are one text. The name that a symbol is resolved to gives the
symbol back, and with it the key that it was read from.
-/
namespace SymbolIndex

def Symbol.pair (s : Symbol) : NameCache.Pair := (s.module, s.name)

theorem Symbol.pair_injective {s t : Symbol} : s.pair = t.pair ↔ s = t := by
  obtain ⟨name, module⟩ := s
  obtain ⟨name', module'⟩ := t
  simp [pair, and_comm]

theorem Symbol.toSymbol_nameOf (past : List NameCache.Pair) (s : Symbol) :
    (NameCache.nameOf past s.pair).toSymbol = s := rfl

/-- Keys that are read stand for one symbol only if they are one text. -/
theorem Symbol.eq_iff_of_parse {s t : Symbol} {key key' : String}
    (hs : (parse key).outcome = .ok s) (ht : (parse key').outcome = .ok t) :
    s = t ↔ key = key' := by
  constructor
  · intro h
    rw [← key_of_ofKey (outcome_parse_eq_ok_iff.1 hs),
      ← key_of_ofKey (outcome_parse_eq_ok_iff.1 ht), h]
  · rintro rfl
    rw [hs] at ht
    exact Except.ok.inj ht

namespace Lineage

variable {past : List Move} {id : CacheId}

theorem opsTo_prefix_cons (move : Move) (past : List Move) (id : CacheId) :
    opsTo id past <+: opsTo id (move :: past) := by
  cases move with
  | call x ops =>
    rw [opsTo]
    by_cases howner : owner past x = some id
    · rw [if_pos howner]
      exact List.prefix_append _ _
    · rw [if_neg howner]
  | create | copy | drop | idle => exact List.prefix_rfl

/-- What was addressed to a cache stays at the front of what is addressed to it later on. -/
theorem opsTo_prefix (later past : List Move) (id : CacheId) :
    opsTo id past <+: opsTo id (later ++ past) := by
  induction later with
  | nil => exact List.prefix_rfl
  | cons move later ih => exact ih.trans (opsTo_prefix_cons move _ id)

theorem created_append {c : NameCache} (later : List Move) (h : (created past)[id]? = some c) :
    (created (later ++ past))[id]? = some c := by
  induction later with
  | nil => exact h
  | cons move later ih => exact created_cons move ih

end Lineage

namespace Host

open Lineage NameCache

variable {steps : List HostStep} {id : CacheId} {i j scope scope' : Nat} {s t : Symbol}
  {c : NameCache} {history : List Pair}

theorem past_append (h : Host) (steps later : List HostStep) :
    ∃ moves, h.past (steps ++ later) = moves ++ h.past steps := by
  induction later using List.reverseRecOn with
  | nil => exact ⟨[], by rw [List.append_nil, List.nil_append]⟩
  | append_singleton later s ih =>
    obtain ⟨moves, hmoves⟩ := ih
    rw [← List.append_assoc, past_concat, hmoves]
    exact ⟨_ :: moves, rfl⟩

theorem past_take (h : Host) (steps : List HostStep) (i : Nat) :
    ∃ moves, h.past steps = moves ++ h.past (steps.take i) := by
  have happend := h.past_append (steps.take i) (steps.drop i)
  rwa [List.take_append_drop] at happend

/-- A cache that a handle referred to during the run was created by then. -/
theorem created_take {x : Handle} (hc : (created (empty.past steps))[id]? = some c)
    (howner : owner (empty.past (steps.take i)) x = some id) :
    (created (empty.past (steps.take i)))[id]? = some c := by
  obtain ⟨moves, hmoves⟩ := empty.past_take steps i
  have hthen := List.getElem?_eq_getElem (owner_lt howner)
  have hnow := created_append moves hthen
  rw [← hmoves, hc] at hnow
  rw [hthen, hnow]

/-- A resolution is one more operation for the cache of its scope. -/
theorem opsTo_resolve (hi : steps[i]? = some (.resolve scope s))
    (howner : owner (empty.past (steps.take i)) (.scope scope) = some id) :
    opsTo id (empty.past (steps.take (i + 1))) =
      opsTo id (empty.past (steps.take i)) ++ [.lookupOrInsert s.module s.name] := by
  have hmove (answer : HostAnswer) : (HostStep.resolve scope s).move answer =
      .call (.scope scope) [.lookupOrInsert s.module s.name] := by
    cases answer <;> rfl
  rw [List.take_add_one, hi, Option.toList_some, past_concat, hmove, opsTo, if_pos howner]

/-- A symbol is given the name that its pair has in the whole history of the cache. -/
theorem answer_resolve (hc : c.Represents history)
    (hcreated : (created (empty.past steps))[id]? = some c)
    (hi : steps[i]? = some (.resolve scope s))
    (howner : owner (empty.past (steps.take i)) (.scope scope) = some id) :
    s.pair ∈ history ++ requested (opsTo id (empty.past steps)) ∧
    (empty.answers steps)[i]? =
      some (.name (nameOf (history ++ requested (opsTo id (empty.past steps))) s.pair)) := by
  have hfollows := follows_past (steps.take i)
  have hlive : (empty.after (steps.take i)).refer? (.scope scope) = some id := by
    rw [hfollows.handles, howner]
  have hstate := hfollows.states id c (created_take hcreated howner)
  have hanswer : (empty.answers steps)[i]? = some (.name
      (nameOf (history ++ requested (opsTo id (empty.past (steps.take i)))) s.pair)) := by
    rw [answer_at hi, answer_call rfl hlive, hstate, NameCache.answers_cons,
      (hc.after _).answer_request]
    rfl
  -- What is requested after the resolution leaves the name as it is.
  obtain ⟨moves, hmoves⟩ := empty.past_take steps (i + 1)
  obtain ⟨later, hlater⟩ := opsTo_prefix moves (empty.past (steps.take (i + 1))) id
  have hhistory : history ++ requested (opsTo id (empty.past steps)) =
      history ++ requested (opsTo id (empty.past (steps.take i))) ++ [s.pair]
        ++ requested later := by
    rw [hmoves, ← hlater, opsTo_resolve hi howner, requested, List.filterMap_append,
      List.filterMap_append]
    simp [requested, Op.requested?, Symbol.pair]
  have hmem : s.pair ∈
      history ++ requested (opsTo id (empty.past (steps.take i))) ++ [s.pair] := by simp
  constructor
  · rw [hhistory]
    exact List.mem_append_left _ hmem
  · rw [hanswer, hhistory, nameOf_append hmem, nameOf_concat]

/-- In one cache, numbers are equal exactly if the symbols are, and exactly if the keys are that the
symbols were read from; the names lead back to both. -/
theorem keys_identify_names {start : NameCache} (hstart : start.Fresh) (ops : List Op)
    (steps : List HostStep) (id : CacheId)
    (hcreated : (created (empty.past steps))[id]? = some (start.after ops))
    (hfew : distinct (requested (ops ++ opsTo id (empty.past steps))) < UInt64.size)
    (i j scope scope' : Nat) (s t : Symbol)
    (hi : steps[i]? = some (.resolve scope s)) (hj : steps[j]? = some (.resolve scope' t))
    (howner : owner (empty.past (steps.take i)) (.scope scope) = some id)
    (howner' : owner (empty.past (steps.take j)) (.scope scope') = some id) :
    ∃ a b : Name,
      (empty.answers steps)[i]? = some (.name a) ∧ (empty.answers steps)[j]? = some (.name b) ∧
      a.toSymbol = s ∧ b.toSymbol = t ∧ (a.unique = b.unique ↔ s = t) ∧
      ∀ key key' : String, (Symbol.parse key).outcome = .ok s →
        (Symbol.parse key').outcome = .ok t →
        (a.unique = b.unique ↔ key = key') ∧ a.toSymbol.key = key ∧ b.toSymbol.key = key' := by
  have hc : (start.after ops).Represents (requested ops) := (Represents.of_fresh hstart).after ops
  obtain ⟨hs, ha⟩ := answer_resolve hc hcreated hi howner
  obtain ⟨ht, hb⟩ := answer_resolve hc hcreated hj howner'
  rw [requested, List.filterMap_append] at hfew
  have hunique := (unique_nameOf_eq_iff hs ht hfew).trans Symbol.pair_injective
  refine ⟨_, _, ha, hb, Symbol.toSymbol_nameOf _ s, Symbol.toSymbol_nameOf _ t, hunique, ?_⟩
  intro key key' hkey hkey'
  refine ⟨hunique.trans (Symbol.eq_iff_of_parse hkey hkey'), ?_, ?_⟩
  · rw [Symbol.toSymbol_nameOf]
    exact Symbol.key_of_ofKey (Symbol.outcome_parse_eq_ok_iff.1 hkey)
  · rw [Symbol.toSymbol_nameOf]
    exact Symbol.key_of_ofKey (Symbol.outcome_parse_eq_ok_iff.1 hkey')

/-- Two symbols with one key are numbered apart, and a key that is read twice keeps its number. -/
theorem keys_identify_names_collision :
    let s := Symbol.ofParts .value "a:b" "c" "d"
    let t := Symbol.ofParts .value "a" "b:c" "d"
    let u := Symbol.ofParts .value "map" "Data.List" "base"
    let steps : List HostStep := [.share (NameCache.empty.after [.lookupOrInsert s.module s.name]),
      .enter 0, .enter 0, .resolve 0 t, .resolve 1 s, .resolve 0 u, .resolve 1 u]
    s.key = t.key ∧ s ≠ t ∧ (Symbol.parse "v:map:Data.List:base").outcome = .ok u ∧
      (∃ a b : Name, (empty.answers steps)[3]? = some (.name a) ∧
        (empty.answers steps)[4]? = some (.name b) ∧ a.toSymbol = t ∧ b.toSymbol = s ∧
        a.unique ≠ b.unique) ∧
      ∃ a b : Name, (empty.answers steps)[5]? = some (.name a) ∧
        (empty.answers steps)[6]? = some (.name b) ∧ a.unique = b.unique ∧
        a.toSymbol.key = "v:map:Data.List:base" := by
  intro s t u steps
  have hkey : s.key = t.key := by decide +kernel
  have hne : s ≠ t := by decide
  have hparse : (Symbol.parse "v:map:Data.List:base").outcome = .ok u := rfl
  have hcreated : (created (empty.past steps))[0]? =
      some (NameCache.empty.after [.lookupOrInsert s.module s.name]) := by decide
  have hfew : distinct (requested
      ([.lookupOrInsert s.module s.name] ++ opsTo 0 (empty.past steps))) < UInt64.size := by decide
  have hnames := keys_identify_names .empty [.lookupOrInsert s.module s.name] steps 0 hcreated hfew
  refine ⟨hkey, hne, hparse, ?_, ?_⟩
  · obtain ⟨a, b, ha, hb, hat, hbs, hunique, -⟩ :=
      hnames 3 4 0 1 t s rfl rfl (by decide) (by decide)
    exact ⟨a, b, ha, hb, hat, hbs, fun h => hne (hunique.1 h).symm⟩
  · obtain ⟨a, b, ha, hb, -, -, hunique, hkeys⟩ :=
      hnames 5 6 0 1 u u rfl rfl (by decide) (by decide)
    exact ⟨a, b, ha, hb, hunique.2 rfl, (hkeys _ _ hparse hparse).2.1⟩

end Host

end SymbolIndex
