import SymbolIndex.Proofs.Json.Form

/-! # Structured values and their trees

A structured codec is faithful if its members are. What that comes to is told here for one value:
which objects and which arrays are read as it. A codec with defaults also reads a part of the
members, or of the first values, and what it reads has the default elsewhere.
-/
namespace SymbolIndex

variable {α : Type} {αs : List Type} {defaults : Json} {a : α} {ms : Members αs}
  {toValues : α → Values αs} {ofValues : Values αs → α} {rule : ArrayRule}

namespace JsonCodec

@[simp] theorem members_write_structured (a : α) :
    ((structured ms toValues ofValues rule).write a).members = ms.write (toValues a) := rfl

theorem structured_faithful (hms : ms.Faithful defaults (toValues a)) (hkeys : ms.keys.Nodup)
    (hof : ofValues (toValues a) = a) (hrule : defaults.members ≠ [] → rule.shorter = true) :
    (structured ms toValues ofValues rule).Faithful defaults a := by
  refine ⟨nofun, ?_⟩
  intro j h
  change Form defaults (.object (ms.write (toValues a))) j at h
  cases h with
  | same =>
    -- Each key finds its own member, as no two members have one key.
    have hnodup : ((ms.write (toValues a)).map (·.1)).Nodup := by rwa [ms.map_fst_write]
    have hread : ms.readObject (ms.write (toValues a)) = .ok (toValues a) := by
      apply hms.readObject
      · intro key w hw hnone
        rw [(lookup_eq_some_iff_mem hnodup).2 hw] at hnone
        cases hnone
      · intro key w j hw hj
        obtain rfl := eq_of_mem_of_mem hnodup hw (mem_of_lookup_eq_some hj)
        exact Form.same _ _
    simp only [structured, hread, Except.mapError, Except.map, hof]
  | object habsent hpresent =>
    simp only [structured, hms.readObject habsent hpresent, Except.mapError, Except.map, hof]
  | array hfits habsent hpresent =>
    simp only [structured, hms.readArray hrule hfits habsent hpresent, Except.map, hof]

/-- The trees that are read as `a`, which is written with the members `written`, and the arrays that
are read as nothing. Only a null may be left out of an object; `forms` has this and the rest at
every depth, and what the defaults add. -/
structure Agrees (c : JsonCodec α) (defaults : Json) (a : α) (written : List (String × Json)) :
    Prop where
  writes : c.write a = .object written
  distinct : (written.map (·.1)).Nodup
  keyed : ∀ given kept extra : List (String × Json), given.Perm (kept ++ extra) →
    kept.Sublist written → (∀ m ∈ written, m ∈ kept ∨ m.2 = .null) →
    (∀ m ∈ extra, m.1 ∉ written.map (·.1)) → c.read (.object given) = .ok a
  positional : c.read (.array (written.map (·.2))) = .ok a
  forms : ∀ j, Form defaults (.object written) j → c.read j = .ok a
  refused : ∀ items : List Json,
    written.length < items.length ∨ items.length < written.length ∧ defaults = .null →
    ∃ e, c.read (.array items) = .error e

theorem structured_agrees (hms : ms.Faithful defaults (toValues a)) (hkeys : ms.keys.Nodup)
    (hof : ofValues (toValues a) = a) (hshorter : rule.shorter = true ↔ defaults ≠ .null)
    (hlonger : rule.longer = false) :
    (structured ms toValues ofValues rule).Agrees defaults a (ms.write (toValues a)) := by
  have hrule : defaults.members ≠ [] → rule.shorter = true := by
    intro h
    rw [hshorter]
    rintro rfl
    exact h rfl
  have hfaithful := structured_faithful hms hkeys hof hrule
  have hdistinct : ((ms.write (toValues a)).map (·.1)).Nodup := by rwa [ms.map_fst_write]
  refine ⟨rfl, hdistinct, ?_, ?_, hfaithful.read, ?_⟩
  · intro given kept extra hperm hkept habsent hextra
    apply hfaithful.read
    refine Form.keyed hdistinct hperm hkept.subset ?_ hextra
    intro m hm
    exact (habsent m hm).imp_right Or.inl
  · have hform : Form defaults (.object (ms.write (toValues a) ++ []))
        (.array ((ms.write (toValues a)).map (·.2))) := Form.positional nofun
    rw [List.append_nil] at hform
    exact hfaithful.read _ hform
  · intro items h
    have hlength : (ms.write (toValues a)).length = ms.keys.length := by
      rw [← ms.map_fst_write, List.length_map]
    rw [hlength] at h
    have hcount : rule.longer = false ∧ ms.keys.length < items.length ∨
        rule.shorter = false ∧ items.length < ms.keys.length := by
      rcases h with hlong | ⟨hshort, hnull⟩
      · exact Or.inl ⟨hlonger, hlong⟩
      · refine Or.inr ⟨?_, hshort⟩
        rw [← Bool.not_eq_true, hshorter]
        exact not_not_intro hnull
    obtain ⟨e, he⟩ := Members.readArray_refused ms hcount
    exact ⟨e, by simp only [structured, he, Except.map]⟩

end JsonCodec

/-! ## Parts -/

namespace Members

/-- The values under the keys that are kept, and those of `bs` under the others. -/
def pick (keep : String → Bool) : {αs : List Type} → Members αs → Values αs → Values αs → Values αs
  | _, nil, _, _ => ()
  | _, cons m ms, (a, as), (b, bs) => (if keep m.key then a else b, ms.pick keep as bs)

def splice : {αs : List Type} → Members αs → (n : Nat) → Values αs → Values αs → Values αs
  | _, nil, _, _, _ => ()
  | _, cons _ _, 0, _, bs => bs
  | _, cons _ ms, n + 1, (a, as), (_, bs) => (a, ms.splice n as bs)

theorem write_pick (keep : String → Bool) (ms : Members αs) (as bs : Values αs) :
    ms.write (ms.pick keep as bs) =
      (ms.write as).zipWith (fun m m' => if keep m.1 then m else m') (ms.write bs) := by
  induction ms with
  | nil => rfl
  | cons m ms ih =>
    obtain ⟨a, as⟩ := as
    obtain ⟨b, bs⟩ := bs
    rw [pick, write, write, write, List.zipWith_cons_cons, ih]
    by_cases h : keep m.key = true
    · simp [h]
    · simp [h]

theorem mem_write_pick_iff {keep : String → Bool} {as bs : Values αs} {m : String × Json} :
    m ∈ ms.write (ms.pick keep as bs) ↔
      keep m.1 = true ∧ m ∈ ms.write as ∨ keep m.1 = false ∧ m ∈ ms.write bs := by
  induction ms with
  | nil => simp [write]
  | cons m' ms ih =>
    obtain ⟨a, as⟩ := as
    obtain ⟨b, bs⟩ := bs
    rw [pick, write, write, write, List.mem_cons, List.mem_cons, List.mem_cons, ih]
    by_cases hkeep : keep m'.key = true <;> grind

theorem write_splice (ms : Members αs) (n : Nat) (as bs : Values αs) :
    ms.write (ms.splice n as bs) = (ms.write as).take n ++ (ms.write bs).drop n := by
  induction ms generalizing n with
  | nil => simp [write]
  | cons m ms ih =>
    cases n with
    | zero => rfl
    | succ n =>
      rw [splice, write, ih]
      rfl

end Members

/-- A part of the tree of `a` is read as the value whose tree has the members of `value` where `a`
has no part in it. -/
structure JsonCodec.Completes (c : JsonCodec α) (value a : α) : Prop where
  keyed : ∀ (written defaults : List (String × Json)) (keep : String → Bool),
    c.write a = .object written → c.write value = .object defaults →
    ∃ b, c.write b =
        .object (written.zipWith (fun m m' => if keep m.1 then m else m') defaults) ∧
      ∀ given extra : List (String × Json),
        given.Perm (written.filter (fun m => keep m.1) ++ extra) →
        (∀ m ∈ extra, m.1 ∉ written.map (·.1)) → c.read (.object given) = .ok b
  positional : ∀ (written defaults : List (String × Json)) (n : Nat),
    c.write a = .object written → c.write value = .object defaults →
    ∃ b, c.write b = .object (written.take n ++ defaults.drop n) ∧
      c.read (.array ((written.take n).map (·.2))) = .ok b

theorem JsonCodec.structured_completes {c : JsonCodec α} {value : α}
    (hc : c = structured ms toValues ofValues rule) (hkeys : ms.keys.Nodup)
    (hto : ∀ vs, toValues (ofValues vs) = vs) (hfaithful : ∀ b, c.Faithful (c.write value) b) :
    c.Completes value a := by
  have hwrite : ∀ b, c.write b = .object (ms.write (toValues b)) := by
    intro b
    rw [hc]
    rfl
  have hof : ∀ vs, c.write (ofValues vs) = .object (ms.write vs) := by
    intro vs
    rw [hwrite, hto]
  constructor
  · intro written defaults keep ha hvalue
    rw [hwrite] at ha hvalue
    cases ha
    cases hvalue
    refine ⟨ofValues (ms.pick keep (toValues a) (toValues value)), ?_, ?_⟩
    · rw [hof, ms.write_pick]
    · intro given extra hperm hextra
      apply (hfaithful _).read
      rw [hof, hwrite]
      refine Form.keyed ?_ hperm ?_ ?_ ?_
      · rwa [ms.map_fst_write]
      · intro m hm
        obtain ⟨hmem, hkeep⟩ := List.mem_filter.1 hm
        exact Members.mem_write_pick_iff.2 (Or.inl ⟨hkeep, hmem⟩)
      · intro m hm
        rcases Members.mem_write_pick_iff.1 hm with ⟨hkeep, hmem⟩ | ⟨-, hmem⟩
        · exact Or.inl (List.mem_filter.2 ⟨hmem, hkeep⟩)
        · exact Or.inr (Or.inr hmem)
      · rwa [ms.map_fst_write, ← ms.map_fst_write (toValues a)]
  · intro written defaults n ha hvalue
    rw [hwrite] at ha hvalue
    cases ha
    cases hvalue
    have hsplice := ms.write_splice n (toValues a) (toValues value)
    refine ⟨ofValues (ms.splice n (toValues a) (toValues value)), ?_, ?_⟩
    · rw [hof, hsplice]
    · apply (hfaithful _).read
      rw [hof, hsplice, hwrite]
      apply Form.positional
      intro m hm
      exact List.mem_of_mem_drop hm

end SymbolIndex
