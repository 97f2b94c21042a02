import SymbolIndex.Identifier

/-! # The stored form of an occurrence

A text is read as the occurrence it is the stored form of, if it starts with a tag; nothing is
trimmed, and what comes after the tag may be anything.
-/
namespace SymbolIndex

theorem NameSpace.ofTag?_eq_none_iff {c : Char} :
    NameSpace.ofTag? c = none ↔ c ∉ ['v', 'c', 't', 'z'] := by
  simp only [NameSpace.ofTag?]
  repeat' split
  all_goals simp_all

namespace OccName

/-- One of the four tags stands first. -/
def IsStored (text : String) : Prop :=
  ∃ tag rest, text.toList = tag :: rest ∧ tag ∈ ['v', 'c', 't', 'z']

theorem decode_encode (occ : OccName) : decode occ.encode = .ok occ := by
  simp [decode, encode]

theorem encode_of_decode {encoded : String} {occ : OccName} (h : decode encoded = .ok occ) :
    occ.encode = encoded := by
  rw [decode] at h
  split at h
  · cases h
  · rename_i c cs hchars
    split at h
    · cases h
    · rename_i space hspace
      cases h
      rw [encode, String.toList_ofList, ← NameSpace.ofTag?_eq_some_iff.1 hspace, ← hchars,
        String.ofList_toList]

theorem decode_eq_ok_iff {text : String} {occ : OccName} :
    decode text = .ok occ ↔ text = occ.encode := by
  constructor
  · intro h
    exact (encode_of_decode h).symm
  · rintro rfl
    exact decode_encode occ

theorem decode_of_not_isStored {text : String} (h : ¬ IsStored text) :
    decode text = .error (.invalidOccName text) := by
  rw [decode]
  split
  · rfl
  · rename_i c cs hchars
    have hc : c ∉ ['v', 'c', 't', 'z'] := fun hc => h ⟨c, cs, hchars, hc⟩
    rw [NameSpace.ofTag?_eq_none_iff.2 hc]

theorem exists_decode_of_isStored {text : String} (h : IsStored text) :
    ∃ occ, decode text = .ok occ := by
  obtain ⟨tag, rest, hchars, htag⟩ := h
  cases hspace : NameSpace.ofTag? tag with
  | none => exact absurd htag (NameSpace.ofTag?_eq_none_iff.1 hspace)
  | some space =>
    refine ⟨⟨space, String.ofList rest⟩, ?_⟩
    simp only [decode, hchars, hspace]

end OccName

end SymbolIndex
