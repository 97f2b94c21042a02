import SymbolIndex.Json.Record
import SymbolIndex.Proofs.Symbol.Grammar

/-! # Reading formatted keys

Nothing is escaped in a key, so different symbols can have the same one. Such a key has more than
three colons and is refused: what a formatted key reads back as is the symbol itself or nothing.
-/
namespace SymbolIndex.Symbol

def texts (s : Symbol) : List String := [s.name.name, s.module.name.text, s.module.unit.text]

/-- The three colons of the format are met by those of the texts. -/
theorem count_keyChars (s : Symbol) :
    s.keyChars.count ':' =
      3 + s.name.name.toList.count ':' + s.module.name.text.toList.count ':'
        + s.module.unit.text.toList.count ':' := by
  have ht : s.name.space.tag ≠ ':' := by cases s.name.space <;> decide
  simp only [keyChars, List.cons_append, List.count_append, List.count_cons_self,
    List.count_cons_of_ne ht]
  omega

theorem hasKeyFields_keyChars {s : Symbol} (h : ∀ text ∈ s.texts, ':' ∉ text.toList) :
    HasKeyFields s.keyChars [s.name.space.tag] s.name.name.toList s.module.name.text.toList
      s.module.unit.text.toList := by
  simp only [texts, List.forall_mem_cons] at h
  refine ⟨by simp [keyChars], ?_, h.1, h.2.1, h.2.2.1⟩
  cases s.name.space <;> decide

theorem manyFields_keyChars {s : Symbol} (h : ∃ text ∈ s.texts, ':' ∈ text.toList) :
    ofKey s.key = .error .manyFields := by
  have hc : 3 < s.keyChars.count ':' := by
    rw [count_keyChars]
    obtain ⟨text, hm, hcolon⟩ := h
    have := List.count_pos_iff.2 hcolon
    simp only [texts, List.mem_cons, List.not_mem_nil, or_false] at hm
    rcases hm with rfl | rfl | rfl <;> omega
  rw [ofKey, key, String.toList_ofList, ofKeyChars_eq_error_iff]
  refine ⟨hc, ?_⟩
  intro earlier he
  cases earlier <;> simp_all [KeyFault.rank, KeyFault.Occurs]
  omega

theorem ofKey_key (s : Symbol) :
    ofKey s.key =
      if ∃ text ∈ s.texts, ':' ∈ text.toList then .error .manyFields
      else if s.name.name = "" then .error .emptyName
      else if s.module.name.text = "" then .error .emptyModule
      else if s.module.unit.text = "" then .error .emptyUnit
      else .ok s := by
  by_cases h : ∃ text ∈ s.texts, ':' ∈ text.toList
  · rw [if_pos h, manyFields_keyChars h]
  · have hk : HasKeyFields s.keyChars [s.name.space.tag] s.name.name.toList
        s.module.name.text.toList s.module.unit.text.toList :=
      hasKeyFields_keyChars fun text hm hc => h ⟨text, hm, hc⟩
    rw [if_neg h, ofKey, key, String.toList_ofList, hk.ofKeyChars_eq]
    simp [ofFields, ofParts]

/-- Symbols with one key differ only where a text holds a colon. -/
theorem eq_of_key_eq {s t : Symbol} (hkey : s.key = t.key)
    (h : ∀ text ∈ s.texts, ':' ∉ text.toList) : s = t := by
  have hchars : s.keyChars = t.keyChars := by
    have := congrArg String.toList hkey
    simpa [key] using this
  have ht : ∀ text ∈ t.texts, ':' ∉ text.toList := by
    have hs := (hasKeyFields_keyChars h).count_eq
    rw [hchars, count_keyChars] at hs
    simp only [texts, List.forall_mem_cons, ← List.count_eq_zero]
    refine ⟨by omega, by omega, by omega, by simp⟩
  have hs := hasKeyFields_iff.1 (hasKeyFields_keyChars h)
  rw [hchars, hasKeyFields_iff.1 (hasKeyFields_keyChars ht)] at hs
  obtain ⟨⟨space, name⟩, ⟨⟨module⟩, ⟨unit⟩⟩⟩ := s
  obtain ⟨⟨space', name'⟩, ⟨⟨module'⟩, ⟨unit'⟩⟩⟩ := t
  simp only [List.cons.injEq, String.toList_inj, and_true] at hs
  obtain ⟨htag, rfl, rfl, rfl⟩ := hs
  have hspace := NameSpace.ofTag?_tag space
  rw [← htag, NameSpace.ofTag?_tag] at hspace
  cases hspace
  rfl

theorem manyFields_of_key_eq {s t : Symbol} (hkey : s.key = t.key) (hne : s ≠ t) :
    ofKey s.key = .error .manyFields := by
  apply manyFields_keyChars
  apply Classical.byContradiction
  intro h
  exact hne (eq_of_key_eq hkey fun text hm hc => h ⟨text, hm, hc⟩)

theorem read_write_json (s : Symbol) :
    JsonCodec.symbol.read (JsonCodec.symbol.write s) =
      (parse s.key).outcome.mapError .undecodable := by
  rw [outcome_parse]
  rfl

theorem outcome_parse_key (s : Symbol) :
    (parse s.key).outcome =
      if ∃ text ∈ s.texts, ':' ∈ text.toList then
        .error (.invalidSymbol s.key "trailing input after the unit field")
      else if s.name.name = "" then .error (.invalidSymbol s.key "empty name")
      else if s.module.name.text = "" then .error (.invalidSymbol s.key "empty module")
      else if s.module.unit.text = "" then .error (.invalidSymbol s.key "empty unit")
      else .ok s := by
  rw [outcome_parse, ofKey_key]
  repeat' split
  all_goals rfl

theorem parse_key_eq_ok_iff (s : Symbol) :
    (parse s.key).outcome = .ok s ↔ ∀ text ∈ s.texts, text ≠ "" ∧ ':' ∉ text.toList := by
  rw [outcome_parse_key]
  constructor
  · intro h
    split at h
    · cases h
    rename_i hcolon
    repeat (split at h; · cases h)
    intro text hm
    refine ⟨?_, fun hc => hcolon ⟨text, hm, hc⟩⟩
    simp only [texts, List.mem_cons, List.not_mem_nil, or_false] at hm
    rcases hm with rfl | rfl | rfl <;> assumption
  · intro h
    have hcolon : ¬ ∃ text ∈ s.texts, ':' ∈ text.toList := by
      rintro ⟨text, hm, hc⟩
      exact (h text hm).2 hc
    simp only [texts, List.forall_mem_cons] at h
    rw [if_neg hcolon, if_neg h.1.1, if_neg h.2.1.1, if_neg h.2.2.1.1]

theorem eq_of_parse_key {s t : Symbol} (h : (parse s.key).outcome = .ok t) : t = s := by
  rw [outcome_parse_key] at h
  repeat (split at h; · cases h)
  cases h
  rfl

theorem parse_key_of_key_eq {s t : Symbol} (hkey : s.key = t.key) (hne : s ≠ t) :
    (parse s.key).outcome =
      .error (.invalidSymbol s.key "trailing input after the unit field") := by
  rw [outcome_parse, manyFields_of_key_eq hkey hne]
  rfl

/-- A formatted key reads back as its symbol or not at all. -/
theorem parse_key (s : Symbol) :
    ((parse s.key).outcome =
      if ∃ text ∈ s.texts, ':' ∈ text.toList then
        .error (.invalidSymbol s.key "trailing input after the unit field")
      else if s.name.name = "" then .error (.invalidSymbol s.key "empty name")
      else if s.module.name.text = "" then .error (.invalidSymbol s.key "empty module")
      else if s.module.unit.text = "" then .error (.invalidSymbol s.key "empty unit")
      else .ok s) ∧
    ((parse s.key).outcome = .ok s ↔ ∀ text ∈ s.texts, text ≠ "" ∧ ':' ∉ text.toList) ∧
    (∀ t, (parse s.key).outcome = .ok t → t = s) ∧
    (∀ t : Symbol, s.key = t.key → s ≠ t →
      (parse s.key).outcome =
        .error (.invalidSymbol s.key "trailing input after the unit field") ∧
      (parse t.key).outcome =
        .error (.invalidSymbol t.key "trailing input after the unit field")) ∧
    JsonCodec.symbol.write s = .string s.key ∧
    (JsonCodec.symbol.read (JsonCodec.symbol.write s) = .ok s ∨
      ∃ error, JsonCodec.symbol.read (JsonCodec.symbol.write s) = .error error) := by
  refine ⟨outcome_parse_key s, parse_key_eq_ok_iff s, ?_, ?_, rfl, ?_⟩
  · intro t
    exact eq_of_parse_key
  · intro t hkey hne
    exact ⟨parse_key_of_key_eq hkey hne, parse_key_of_key_eq hkey.symm (Ne.symm hne)⟩
  · rw [read_write_json]
    cases h : (parse s.key).outcome with
    | ok t =>
      rw [eq_of_parse_key h]
      exact .inl rfl
    | error error => exact .inr ⟨_, rfl⟩

/-- Two symbols with one key, of which neither is read. -/
theorem parse_key_collision :
    let s := ofParts .value "a:b" "c" "d"
    let t := ofParts .value "a" "b:c" "d"
    s.key = t.key ∧ s ≠ t ∧
      (parse s.key).outcome =
        .error (.invalidSymbol s.key "trailing input after the unit field") ∧
      (parse t.key).outcome =
        .error (.invalidSymbol t.key "trailing input after the unit field") := by
  intro s t
  have hkey : s.key = t.key := by decide +kernel
  have hne : s ≠ t := by decide
  exact ⟨hkey, hne, (parse_key s).2.2.2.1 t hkey hne⟩

end SymbolIndex.Symbol
