import SymbolIndex.Json.Members
import SymbolIndex.Proofs.Keyed

/-! # Forms of a tree

A structured value is written as one tree and read from many. `Form` tells which those are without
the reader: the keys in any order with others among them, the values alone in their order, and less
where what is not there is a null or a default. A codec is faithful to a value if it reads every
form of the value's tree as the value.
-/
namespace SymbolIndex

namespace Json

def members : Json → List (String × Json)
  | object members => members
  | _ => []

def member (j : Json) (key : String) : Json := (j.members.lookup key).getD .null

end Json

/-- `Form defaults written given`: the given tree says what the written one says, if the members of
`defaults` stand in for those that it lacks. -/
inductive Form : Json → Json → Json → Prop where
  | same (defaults written : Json) : Form defaults written written
  | object {defaults : Json} {written given : List (String × Json)}
    (absent : ∀ key w, (key, w) ∈ written → given.lookup key = none →
      w = .null ∨ (key, w) ∈ defaults.members)
    (present : ∀ key w j, (key, w) ∈ written → given.lookup key = some j →
      Form (defaults.member key) w j) :
    Form defaults (.object written) (.object given)
  | array {defaults : Json} {written : List (String × Json)} {items : List Json}
    (fits : items.length ≤ written.length)
    (absent : ∀ m ∈ written.drop items.length, m ∈ defaults.members)
    (present : ∀ m j, (m, j) ∈ written.zip items → Form (defaults.member m.1) m.2 j) :
    Form defaults (.object written) (.array items)

variable {α : Type} {αs : List Type} {defaults : Json} {a : α} {as : Values αs}

theorem Form.eq_of_ne_object {written given : Json} (h : Form defaults written given)
    (hwritten : ∀ members, written ≠ .object members) : given = written := by
  cases h with
  | same => rfl
  | object => exact absurd rfl (hwritten _)
  | array => exact absurd rfl (hwritten _)

theorem Form.ne_null {defaults written given : Json} (h : Form defaults written given)
    (hwritten : written ≠ .null) : given ≠ .null := by
  cases h with
  | same => exact hwritten
  | object => exact nofun
  | array => exact nofun

/-- An object is a form of the whole if it has members of the whole, in any order and with others
among them, and the members that it lacks may be left out. -/
theorem Form.keyed {written given kept extra : List (String × Json)}
    (hdistinct : (written.map (·.1)).Nodup) (hperm : given.Perm (kept ++ extra))
    (hkept : kept ⊆ written)
    (habsent : ∀ m ∈ written, m ∈ kept ∨ m.2 = .null ∨ m ∈ defaults.members)
    (hextra : ∀ m ∈ extra, m.1 ∉ written.map (·.1)) :
    Form defaults (.object written) (.object given) := by
  apply Form.object
  · intro key w hw hnone
    rcases habsent (key, w) hw with hmem | hout
    · have hgiven : (key, w) ∈ given := hperm.mem_iff.2 (List.mem_append_left extra hmem)
      exact absurd (List.mem_map.2 ⟨_, hgiven, rfl⟩) (lookup_eq_none_iff_not_mem.1 hnone)
    · exact hout
  · intro key w j hw hj
    have hgiven : (key, j) ∈ kept ++ extra := hperm.mem_iff.1 (mem_of_lookup_eq_some hj)
    rcases List.mem_append.1 hgiven with hmem | hmem
    · obtain rfl := eq_of_mem_of_mem hdistinct hw (hkept hmem)
      exact Form.same _ _
    · have hkey : key ∈ written.map (·.1) := List.mem_map.2 ⟨_, hw, rfl⟩
      exact absurd hkey (hextra _ hmem)

/-- The first values alone are a form of the whole, if the rest is as the defaults have it. -/
theorem Form.positional {first rest : List (String × Json)} (h : ∀ m ∈ rest, m ∈ defaults.members) :
    Form defaults (.object (first ++ rest)) (.array (first.map (·.2))) := by
  have hlength : (first.map (·.2)).length = first.length := List.length_map _
  apply Form.array
  · rw [hlength, List.length_append]
    exact Nat.le_add_right _ _
  · rwa [hlength, List.drop_left]
  · intro m j hmem
    have hzip : (first ++ rest).zip (first.map (·.2) ++ []) =
        first.zip (first.map (·.2)) ++ rest.zip [] := List.zip_append hlength.symm
    rw [List.append_nil, List.zip_nil_right, List.append_nil, ← List.map_prod_left_eq_zip] at hzip
    rw [hzip] at hmem
    obtain ⟨m', -, hm⟩ := List.mem_map.1 hmem
    cases hm
    exact Form.same _ _

/-! ## Codecs that read every form -/

structure JsonCodec.Faithful (c : JsonCodec α) (defaults : Json) (a : α) : Prop where
  ne_null : c.write a ≠ .null
  read : ∀ j, Form defaults (c.write a) j → c.read j = .ok a

structure Member.Faithful (m : Member α) (defaults : Json) (a : α) : Prop where
  absent : m.codec.write a = .null ∨ (m.key, m.codec.write a) ∈ defaults.members →
    m.absent = some a
  read : ∀ j, Form (defaults.member m.key) (m.codec.write a) j → m.codec.read j = .ok a

inductive Members.Faithful (defaults : Json) : {αs : List Type} → Members αs → Values αs → Prop
  | nil : Faithful defaults nil ()
  | cons {α : Type} {αs : List Type} {m : Member α} {ms : Members αs} {a : α} {as : Values αs}
    (head : m.Faithful defaults a) (tail : ms.Faithful defaults as) :
    Faithful defaults (cons m ms) (a, as)

namespace JsonCodec

theorem Faithful.read_write {c : JsonCodec α} (h : c.Faithful defaults a) :
    c.read (c.write a) = .ok a := h.read _ (Form.same _ _)

/-- A tree without members has no form but itself. -/
theorem faithful_of_leaf {c : JsonCodec α} (hobject : ∀ members, c.write a ≠ .object members)
    (hnull : c.write a ≠ .null) (hread : c.read (c.write a) = .ok a) : c.Faithful defaults a := by
  refine ⟨hnull, ?_⟩
  intro j h
  rw [h.eq_of_ne_object hobject, hread]

theorem text_faithful (s : String) : text.Faithful defaults s :=
  faithful_of_leaf nofun nofun rfl

theorem flag_faithful (b : Bool) : flag.Faithful defaults b :=
  faithful_of_leaf nofun nofun rfl

theorem integer_faithful {low high : Int} {toInt : α → Int} {ofInt : Int → α}
    (hrange : low ≤ toInt a ∧ toInt a ≤ high) (hof : ofInt (toInt a) = a) :
    (integer low high toInt ofInt).Faithful defaults a := by
  refine faithful_of_leaf nofun nofun ?_
  simp only [integer, if_pos hrange, hof]

theorem int32_faithful (n : Int32) : int32.Faithful defaults n := by
  have hlow := n.le_toInt
  have hhigh := n.toInt_lt
  exact integer_faithful (by omega) (Int32.ofInt_toInt n)

theorem int64_faithful (n : Int64) : int64.Faithful defaults n := by
  have hlow := n.le_toInt
  have hhigh := n.toInt_lt
  exact integer_faithful (by omega) (Int64.ofInt_toInt n)

theorem uint64_faithful (n : UInt64) : uint64.Faithful defaults n := by
  have hhigh := n.toNat_lt
  refine integer_faithful (by omega) ?_
  simp

theorem decoded_faithful {toText : α → String} {ofText : String → Except DecodeError α}
    (h : ofText (toText a) = .ok a) : (decoded toText ofText).Faithful defaults a := by
  refine faithful_of_leaf nofun nofun ?_
  simp only [decoded, h]
  rfl

theorem wrapped_faithful {toText : α → String} {ofText : String → α} (h : ofText (toText a) = a) :
    (wrapped toText ofText).Faithful defaults a := by
  refine faithful_of_leaf nofun nofun ?_
  simp only [wrapped, text, Except.map, h]

theorem choice_faithful {toText : α → String} {ofText? : String → Option α}
    (h : ofText? (toText a) = some a) : (choice toText ofText?).Faithful defaults a := by
  refine faithful_of_leaf nofun nofun ?_
  simp only [choice, choice.ofName, h]

end JsonCodec

theorem Member.Faithful.find {m : Member α} {given : List (String × Json)}
    (h : m.Faithful defaults a)
    (habsent : given.lookup m.key = none →
      m.codec.write a = .null ∨ (m.key, m.codec.write a) ∈ defaults.members)
    (hpresent : ∀ j, given.lookup m.key = some j →
      Form (defaults.member m.key) (m.codec.write a) j) : m.find given = .ok a := by
  rw [Member.find]
  cases hlookup : given.lookup m.key with
  | none => simp only [h.absent (habsent hlookup)]
  | some j =>
    simp only [h.read j (hpresent j hlookup)]
    rfl

namespace Members

def keys : {αs : List Type} → Members αs → List String
  | _, nil => []
  | _, cons m ms => m.key :: ms.keys

theorem map_fst_write (ms : Members αs) (as : Values αs) : (ms.write as).map (·.1) = ms.keys := by
  induction ms with
  | nil => rfl
  | cons m ms ih => exact congrArg (m.key :: ·) (ih as.2)

variable {ms : Members αs}

theorem Faithful.readObject {given : List (String × Json)} (h : ms.Faithful defaults as)
    (habsent : ∀ key w, (key, w) ∈ ms.write as → given.lookup key = none →
      w = .null ∨ (key, w) ∈ defaults.members)
    (hpresent : ∀ key w j, (key, w) ∈ ms.write as → given.lookup key = some j →
      Form (defaults.member key) w j) : ms.readObject given = .ok as := by
  induction h with
  | nil => rfl
  | @cons α αs m ms a as head tail ih =>
    have hfirst : (m.key, m.codec.write a) ∈ (Members.cons m ms).write (a, as) := List.mem_cons_self
    have hfind : m.find given = .ok a :=
      head.find (habsent _ _ hfirst) fun j => hpresent _ _ j hfirst
    have hrest : ms.readObject given = .ok as :=
      ih (fun key w hw => habsent key w (List.mem_cons_of_mem _ hw))
        (fun key w j hw => hpresent key w j (List.mem_cons_of_mem _ hw))
    rw [Members.readObject, hfind, hrest]

theorem Faithful.readArray {rule : ArrayRule} {items : List Json} (h : ms.Faithful defaults as)
    (hrule : defaults.members ≠ [] → rule.shorter = true)
    (hfits : items.length ≤ (ms.write as).length)
    (habsent : ∀ m ∈ (ms.write as).drop items.length, m ∈ defaults.members)
    (hpresent : ∀ m j, (m, j) ∈ (ms.write as).zip items → Form (defaults.member m.1) m.2 j) :
    ms.readArray rule items = .ok as := by
  induction h generalizing items with
  | nil =>
    cases items with
    | nil => rfl
    | cons j items => cases hfits
  | @cons α αs m ms a as head tail ih =>
    cases items with
    | nil =>
      -- The array has ended, so this member and all after it are left out.
      have hmem : (m.key, m.codec.write a) ∈ defaults.members := habsent _ List.mem_cons_self
      have hrest : ms.readArray rule [] = .ok as :=
        ih (Nat.zero_le _) (fun m hm => habsent m (List.mem_cons_of_mem _ hm))
          (fun m j hm => by simp at hm)
      rw [Members.readArray, hrule (List.ne_nil_of_mem hmem), head.absent (Or.inr hmem)]
      simp only [hrest]
      rfl
    | cons j items =>
      have hfirst : m.codec.read j = .ok a := head.read j (hpresent _ j List.mem_cons_self)
      have hrest : ms.readArray rule items = .ok as :=
        ih (Nat.le_of_succ_le_succ hfits) habsent
          (fun m j hm => hpresent m j (List.mem_cons_of_mem _ hm))
      rw [Members.readArray, hfirst, hrest]
      rfl

/-- An array has to have as many items as there are members, apart from what the rule allows. -/
theorem readArray_refused {rule : ArrayRule} {items : List Json} (ms : Members αs)
    (h : rule.longer = false ∧ ms.keys.length < items.length ∨
      rule.shorter = false ∧ items.length < ms.keys.length) :
    ∃ e, ms.readArray rule items = .error e := by
  induction ms generalizing items with
  | nil =>
    rcases h with ⟨hlonger, hlength⟩ | ⟨-, hlength⟩
    · have hne : items ≠ [] := List.ne_nil_of_length_pos hlength
      exact ⟨.mismatch, by rw [readArray, if_neg (by simp [hne, hlonger])]⟩
    · cases hlength
  | cons m ms ih =>
    cases items with
    | nil =>
      rcases h with ⟨-, hlength⟩ | ⟨hshorter, -⟩
      · cases hlength
      · exact ⟨.mismatch, by rw [readArray, hshorter]⟩
    | cons j items =>
      rw [readArray]
      cases m.codec.read j with
      | error e => exact ⟨e, rfl⟩
      | ok a =>
        have hrest : ∃ e, ms.readArray rule items = .error e := by
          apply ih
          simpa [keys] using h
        obtain ⟨e, he⟩ := hrest
        exact ⟨e, by rw [he]; rfl⟩

end Members

end SymbolIndex
