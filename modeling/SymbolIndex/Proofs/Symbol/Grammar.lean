import SymbolIndex.Proofs.Identifier
import SymbolIndex.Proofs.Text.Split
import SymbolIndex.Symbol

/-! # The grammar of symbol keys

A text is read as a key exactly if it is `T:N:M:U` with a tag `T` and three texts that are neither
empty nor hold a colon. Each reason to refuse a text is a condition on the text alone, and the
reader gives the first one that holds.
-/
namespace SymbolIndex

def IsKeyText (text : String) : Prop := text ≠ "" ∧ ':' ∉ text.toList

/-- Four fields without colons, between the three colons of a text. -/
structure HasKeyFields (cs tag name module unit : List Char) : Prop where
  eq : cs = tag ++ ':' :: (name ++ ':' :: (module ++ ':' :: unit))
  tag : ':' ∉ tag
  name : ':' ∉ name
  module : ':' ∉ module
  unit : ':' ∉ unit

namespace KeyFault

def rank : KeyFault → Nat
  | fewFields => 0
  | manyFields => 1
  | longTag => 2
  | unknownTag => 3
  | emptyName => 4
  | emptyModule => 5
  | emptyUnit => 6

def Occurs (cs : List Char) : KeyFault → Prop
  | fewFields => cs.count ':' < 3
  | manyFields => 3 < cs.count ':'
  | longTag => ∃ tag name module unit, HasKeyFields cs tag name module unit ∧ tag.length ≠ 1
  | unknownTag =>
    ∃ c name module unit, HasKeyFields cs [c] name module unit ∧ c ∉ ['v', 'c', 't', 'z']
  | emptyName => ∃ tag module unit, HasKeyFields cs tag [] module unit
  | emptyModule => ∃ tag name unit, HasKeyFields cs tag name [] unit
  | emptyUnit => ∃ tag name module, HasKeyFields cs tag name module []

/-- The fault that is reported: no other comes before it. -/
def First (cs : List Char) (fault : KeyFault) : Prop :=
  fault.Occurs cs ∧ ∀ earlier : KeyFault, earlier.rank < fault.rank → ¬ earlier.Occurs cs

theorem rank_injective {f g : KeyFault} (h : f.rank = g.rank) : f = g := by
  cases f <;> cases g <;> first | rfl | cases h

theorem First.unique {cs : List Char} {f g : KeyFault} (hf : f.First cs) (hg : g.First cs) :
    f = g := by
  rcases Nat.lt_trichotomy f.rank g.rank with h | h | h
  · exact absurd hf.1 (hg.2 f h)
  · exact rank_injective h
  · exact absurd hg.1 (hf.2 g h)

end KeyFault

theorem NameSpace.mem_tags_iff {tag : Char} {space : NameSpace} :
    (tag, space) ∈ [('v', value), ('c', constructor), ('t', typeOrClass), ('z', typeVariable)] ↔
      tag = space.tag := by
  cases space <;> simp [NameSpace.tag]

theorem KeyFault.mem_reasons_iff {fault : KeyFault} {text : String} :
    (fault, text) ∈ [(fewFields, "expected four colon separated fields"),
      (manyFields, "trailing input after the unit field"),
      (longTag, "namespace must be a single character"), (unknownTag, "unknown namespace"),
      (emptyName, "empty name"), (emptyModule, "empty module"), (emptyUnit, "empty unit")] ↔
      text = fault.reason := by
  cases fault <;> simp [reason]

theorem hasKeyFields_iff {cs tag name module unit : List Char} :
    HasKeyFields cs tag name module unit ↔ Text.split ':' cs = [tag, name, module, unit] := by
  rw [Text.split_eq_iff]
  constructor
  · rintro ⟨rfl, ht, hn, hm, hu⟩
    refine ⟨rfl, by simp, ?_⟩
    simp [ht, hn, hm, hu]
  · rintro ⟨rfl, -, h⟩
    simp only [List.forall_mem_cons] at h
    exact ⟨rfl, h.1, h.2.1, h.2.2.1, h.2.2.2.1⟩

namespace HasKeyFields

variable {cs tag name module unit : List Char}

theorem count_eq (h : HasKeyFields cs tag name module unit) : cs.count ':' = 3 := by
  have hl := Text.length_split ':' cs
  rw [hasKeyFields_iff.1 h] at hl
  simpa using hl.symm

theorem of_count (h : cs.count ':' = 3) :
    ∃ tag name module unit, HasKeyFields cs tag name module unit := by
  have hl := Text.length_split ':' cs
  rw [h] at hl
  match hs : Text.split ':' cs, hl with
  | [tag, name, module, unit], _ => exact ⟨tag, name, module, unit, hasKeyFields_iff.2 hs⟩

theorem ofKeyChars_eq (h : HasKeyFields cs tag name module unit) :
    Symbol.ofKeyChars cs = Symbol.ofFields tag name module unit := by
  simp only [Symbol.ofKeyChars, hasKeyFields_iff.1 h]

/-- The fields of a text are determined, so a fault is a condition on them. -/
theorem occurs_iff (h : HasKeyFields cs tag name module unit) (fault : KeyFault) :
    fault.Occurs cs ↔ match fault with
      | .fewFields => False
      | .manyFields => False
      | .longTag => tag.length ≠ 1
      | .unknownTag => ∃ c, tag = [c] ∧ NameSpace.ofTag? c = none
      | .emptyName => name = []
      | .emptyModule => module = []
      | .emptyUnit => unit = [] := by
  have hs := hasKeyFields_iff.1 h
  cases fault <;>
    simp only [KeyFault.Occurs, hasKeyFields_iff, hs, h.count_eq, ← NameSpace.ofTag?_eq_none_iff]
  all_goals simp

end HasKeyFields

namespace Symbol

theorem ofFields_eq_ok_iff {tag name module unit : List Char} {s : Symbol} :
    ofFields tag name module unit = .ok s ↔
      ∃ space, tag = [NameSpace.tag space] ∧ name ≠ [] ∧ module ≠ [] ∧ unit ≠ [] ∧
        s = ofParts space (String.ofList name) (String.ofList module) (String.ofList unit) := by
  constructor
  · intro h
    unfold ofFields at h
    split at h
    · rename_i c
      split at h
      · cases h
      rename_i space hc
      split at h
      · cases h
      split at h
      · cases h
      split at h
      · cases h
      cases h
      rw [NameSpace.ofTag?_eq_some_iff] at hc
      exact ⟨space, by rw [hc], ‹_›, ‹_›, ‹_›, rfl⟩
    · cases h
  · rintro ⟨space, rfl, hn, hm, hu, rfl⟩
    simp [ofFields, hn, hm, hu]

theorem first_of_ofFields {cs tag name module unit : List Char} {fault : KeyFault}
    (h : HasKeyFields cs tag name module unit)
    (hf : ofFields tag name module unit = .error fault) : fault.First cs := by
  simp only [KeyFault.First, h.occurs_iff]
  unfold ofFields at hf
  split at hf
  · rename_i c
    split at hf
    · rename_i hc
      cases hf
      refine ⟨⟨c, rfl, hc⟩, ?_⟩
      intro earlier he
      cases earlier <;> simp_all [KeyFault.rank]
    rename_i space hc
    split at hf
    · cases hf
      refine ⟨‹_›, ?_⟩
      intro earlier he
      cases earlier <;> simp_all [KeyFault.rank]
    split at hf
    · cases hf
      refine ⟨‹_›, ?_⟩
      intro earlier he
      cases earlier <;> simp_all [KeyFault.rank]
    split at hf
    · cases hf
      refine ⟨‹_›, ?_⟩
      intro earlier he
      cases earlier <;> simp_all [KeyFault.rank]
    · cases hf
  · rename_i ht
    cases hf
    refine ⟨?_, ?_⟩
    · intro hl
      obtain ⟨c, rfl⟩ := List.length_eq_one_iff.1 hl
      exact ht c rfl
    · intro earlier he
      cases earlier <;> simp_all [KeyFault.rank]

theorem first_of_ofKeyChars {cs : List Char} {fault : KeyFault}
    (h : ofKeyChars cs = .error fault) : fault.First cs := by
  have hl := Text.length_split ':' cs
  by_cases hcount : cs.count ':' = 3
  · obtain ⟨tag, name, module, unit, hk⟩ := HasKeyFields.of_count hcount
    rw [hk.ofKeyChars_eq] at h
    exact first_of_ofFields hk h
  unfold ofKeyChars at h
  split at h
  · rename_i hs
    rw [hs] at hl
    exact absurd hl.symm (by simpa using hcount)
  split at h
  · cases h
    refine ⟨?_, ?_⟩
    · simp only [KeyFault.Occurs]
      omega
    · intro earlier he
      exact absurd he (Nat.not_lt_zero _)
  · cases h
    refine ⟨?_, ?_⟩
    · simp only [KeyFault.Occurs]
      omega
    · intro earlier he
      cases earlier <;> simp_all [KeyFault.rank, KeyFault.Occurs]

theorem exists_fields_of_ofKeyChars {cs : List Char} {s : Symbol} (h : ofKeyChars cs = .ok s) :
    ∃ tag name module unit, HasKeyFields cs tag name module unit ∧
      ofFields tag name module unit = .ok s := by
  unfold ofKeyChars at h
  split at h
  · rename_i tag name module unit hs
    exact ⟨tag, name, module, unit, hasKeyFields_iff.2 hs, h⟩
  · split at h <;> cases h

theorem not_occurs_of_ofKeyChars {cs : List Char} {s : Symbol} (h : ofKeyChars cs = .ok s)
    (fault : KeyFault) : ¬ fault.Occurs cs := by
  obtain ⟨tag, name, module, unit, hk, h⟩ := exists_fields_of_ofKeyChars h
  obtain ⟨space, rfl, hn, hm, hu, rfl⟩ := ofFields_eq_ok_iff.1 h
  rw [hk.occurs_iff]
  cases fault <;> simp_all

theorem ofKeyChars_eq_error_iff {cs : List Char} {fault : KeyFault} :
    ofKeyChars cs = .error fault ↔ fault.First cs := by
  constructor
  · exact first_of_ofKeyChars
  · intro hf
    cases h : ofKeyChars cs with
    | ok s => exact absurd hf.1 (not_occurs_of_ofKeyChars h fault)
    | error other => rw [(first_of_ofKeyChars h).unique hf]

/-- The key of a symbol, read as it is written in the grammar. -/
theorem ofKey_eq_ok_iff {key : String} {s : Symbol} :
    ofKey key = .ok s ↔
      ∃ space name module unit,
        key = String.singleton (NameSpace.tag space)
          ++ ":" ++ name ++ ":" ++ module ++ ":" ++ unit ∧
        IsKeyText name ∧ IsKeyText module ∧ IsKeyText unit ∧
        s = ofParts space name module unit := by
  constructor
  · intro h
    obtain ⟨tag, name, module, unit, hk, h⟩ := exists_fields_of_ofKeyChars h
    obtain ⟨space, rfl, hn, hm, hu, rfl⟩ := ofFields_eq_ok_iff.1 h
    refine ⟨space, String.ofList name, String.ofList module, String.ofList unit, ?_, ?_, ?_, ?_,
      rfl⟩
    · rw [← String.toList_inj, hk.eq]
      simp
    · exact ⟨by simpa using hn, by simpa using hk.name⟩
    · exact ⟨by simpa using hm, by simpa using hk.module⟩
    · exact ⟨by simpa using hu, by simpa using hk.unit⟩
  · rintro ⟨space, name, module, unit, rfl, hn, hm, hu, rfl⟩
    have hk : HasKeyFields
        (String.singleton (NameSpace.tag space)
          ++ ":" ++ name ++ ":" ++ module ++ ":" ++ unit).toList
        [NameSpace.tag space] name.toList module.toList unit.toList := by
      refine ⟨by simp, ?_, hn.2, hm.2, hu.2⟩
      cases space <;> decide
    rw [ofKey, hk.ofKeyChars_eq, ofFields_eq_ok_iff]
    refine ⟨space, rfl, ?_, ?_, ?_, by simp⟩
    · simpa using hn.1
    · simpa using hm.1
    · simpa using hu.1

theorem key_of_ofKey {key : String} {s : Symbol} (h : ofKey key = .ok s) : s.key = key := by
  obtain ⟨space, name, module, unit, rfl, -, -, -, rfl⟩ := ofKey_eq_ok_iff.1 h
  rw [← String.toList_inj]
  simp [Symbol.key, keyChars, ofParts]

theorem outcome_parse (key : String) :
    (parse key).outcome = (ofKey key).mapError fun fault => .invalidSymbol key fault.reason := by
  unfold parse
  cases ofKey key with
  | ok s => rfl
  | error fault => rfl

theorem outcome_parse_eq_ok_iff {key : String} {s : Symbol} :
    (parse key).outcome = .ok s ↔ ofKey key = .ok s := by
  unfold parse
  cases ofKey key with
  | ok t => simp
  | error fault => exact iff_of_false nofun nofun

theorem outcome_parse_eq_error_iff {key : String} {e : DecodeError} :
    (parse key).outcome = .error e ↔
      ∃ fault, e = .invalidSymbol key (KeyFault.reason fault) ∧ ofKey key = .error fault := by
  rw [outcome_parse]
  cases ofKey key with
  | ok s => exact iff_of_false nofun nofun
  | error fault =>
    constructor
    · intro h
      cases h
      exact ⟨fault, rfl, rfl⟩
    · rintro ⟨fault, rfl, h⟩
      cases h
      rfl

/-- The texts that are keys, the symbols they stand for, and what each other text is refused for. -/
theorem parse_exact (key : String) :
    (∀ s, (parse key).outcome = .ok s ↔
      ∃ tag space name module unit,
        (tag, space) ∈ [('v', NameSpace.value), ('c', .constructor), ('t', .typeOrClass),
          ('z', .typeVariable)] ∧
        key = String.singleton tag ++ ":" ++ name ++ ":" ++ module ++ ":" ++ unit ∧
        IsKeyText name ∧ IsKeyText module ∧ IsKeyText unit ∧
        s.name.space = space ∧ s.name.name = name ∧
        s.module.name.text = module ∧ s.module.unit.text = unit) ∧
    (∀ s, (parse key).outcome = .ok s → s.key = key) ∧
    ∀ e, (parse key).outcome = .error e ↔
      ∃ fault text,
        (fault, text) ∈ [(KeyFault.fewFields, "expected four colon separated fields"),
          (.manyFields, "trailing input after the unit field"),
          (.longTag, "namespace must be a single character"), (.unknownTag, "unknown namespace"),
          (.emptyName, "empty name"), (.emptyModule, "empty module"), (.emptyUnit, "empty unit")] ∧
        e = .invalidSymbol key text ∧ fault.First key.toList := by
  refine ⟨?_, ?_, ?_⟩
  · intro s
    rw [outcome_parse_eq_ok_iff, ofKey_eq_ok_iff]
    constructor
    · rintro ⟨space, name, module, unit, hkey, hn, hm, hu, rfl⟩
      exact ⟨_, space, name, module, unit, NameSpace.mem_tags_iff.2 rfl, hkey, hn, hm, hu,
        rfl, rfl, rfl, rfl⟩
    · rintro ⟨tag, space, name, module, unit, htag, hkey, hn, hm, hu, rfl, rfl, rfl, rfl⟩
      rw [NameSpace.mem_tags_iff.1 htag] at hkey
      exact ⟨_, _, _, _, hkey, hn, hm, hu, rfl⟩
  · intro s h
    exact key_of_ofKey (outcome_parse_eq_ok_iff.1 h)
  · intro e
    simp only [outcome_parse_eq_error_iff, ofKey, ofKeyChars_eq_error_iff, KeyFault.mem_reasons_iff]
    constructor
    · rintro ⟨fault, rfl, hfirst⟩
      exact ⟨fault, _, rfl, rfl, hfirst⟩
    · rintro ⟨fault, text, rfl, rfl, hfirst⟩
      exact ⟨fault, rfl, hfirst⟩

/-- One key that is read, and keys with more than one fault: the fields are counted before the tag is
looked at, and the tag before the texts, which are looked at in their order. -/
theorem parse_exact_cons :
    ((parse "c:Cons:Data.List:base").outcome
        = .ok (ofParts .constructor "Cons" "Data.List" "base") ∧
      (ofParts .constructor "Cons" "Data.List" "base").key = "c:Cons:Data.List:base") ∧
    (parse "x:f").outcome =
      .error (.invalidSymbol "x:f" "expected four colon separated fields") ∧
    (parse "::::").outcome = .error (.invalidSymbol "::::" "trailing input after the unit field") ∧
    (parse ":::").outcome = .error (.invalidSymbol ":::" "namespace must be a single character") ∧
    (parse "x:::u").outcome = .error (.invalidSymbol "x:::u" "unknown namespace") ∧
    (parse "v:::").outcome = .error (.invalidSymbol "v:::" "empty name") ∧
    (parse "v:f::").outcome = .error (.invalidSymbol "v:f::" "empty module") ∧
    (parse "v:f:M:").outcome = .error (.invalidSymbol "v:f:M:" "empty unit") := by
  have hcons : (parse "c:Cons:Data.List:base").outcome
      = .ok (ofParts .constructor "Cons" "Data.List" "base") := rfl
  have hfault (key : String) := (parse_exact key).2.2
  refine ⟨⟨hcons, (parse_exact _).2.1 _ hcons⟩, (hfault _ _).2 ⟨.fewFields, _, ?_, rfl, ?_⟩,
    (hfault _ _).2 ⟨.manyFields, _, ?_, rfl, ?_⟩, (hfault _ _).2 ⟨.longTag, _, ?_, rfl, ?_⟩,
    (hfault _ _).2 ⟨.unknownTag, _, ?_, rfl, ?_⟩, (hfault _ _).2 ⟨.emptyName, _, ?_, rfl, ?_⟩,
    (hfault _ _).2 ⟨.emptyModule, _, ?_, rfl, ?_⟩, (hfault _ _).2 ⟨.emptyUnit, _, ?_, rfl, ?_⟩⟩
  all_goals first | decide | exact ofKeyChars_eq_error_iff.1 rfl

end Symbol

end SymbolIndex
