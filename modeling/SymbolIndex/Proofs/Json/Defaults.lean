import SymbolIndex.Config.Load

/-! # What settings with defaults are read from

A structured codec whose members all have defaults, and whose arrays may end early or go on, reads
every table: a member that the table gives is read by itself, and any other has its default.
-/
namespace SymbolIndex

theorem mapError_eq_ok_iff {ε ε' α : Type} {x : Except ε α} {f : ε → ε'} {a : α} :
    x.mapError f = .ok a ↔ x = .ok a := by
  cases x with
  | error e => exact iff_of_false nofun nofun
  | ok b =>
    change (Except.ok b : Except ε' α) = .ok a ↔ _
    rw [Except.ok.injEq, Except.ok.injEq]

namespace Json

def IsTable : Json → Prop
  | object _ => True
  | array _ => True
  | _ => False

/-- What a table gives for a member, by its key or by its place. -/
def given? (tree : Json) (place : Nat) (key : String) : Option Json :=
  match tree with
  | object members => members.lookup key
  | array items => items[place]?
  | _ => none

end Json

/-- What is given is what the value comes from; if nothing is, the value is the default. -/
def Settles {α : Type} (given : Option Json) (Means : Json → α → Prop) (default value : α) : Prop :=
  match given with
  | some j => Means j value
  | none => value = default

def JsonCodec.Reads {α : Type} (codec : JsonCodec α) (Means : Json → α → Prop) : Prop :=
  ∀ j a, codec.read j = .ok a ↔ Means j a

namespace Members

/-- Each value is settled by what is given for its member; `place` is the place of the first. -/
def Settled (given : Nat → String → Option Json) (place : Nat) :
    {αs : List Type} → Members αs → Values αs → Prop
  | _, nil, () => True
  | _, cons m ms, (a, as) =>
    (match given place m.key with
      | some j => m.codec.read j = .ok a
      | none => m.absent = some a) ∧ ms.Settled given (place + 1) as

variable {αs : List Type}

theorem find_eq_ok_iff {α : Type} {m : Member α} {members : List (String × Json)} {a : α} :
    m.find members = .ok a ↔
      match members.lookup m.key with
      | some j => m.codec.read j = .ok a
      | none => m.absent = some a := by
  rw [Member.find]
  cases members.lookup m.key with
  | some j => exact mapError_eq_ok_iff
  | none => cases m.absent <;> simp

theorem readObject_eq_ok_iff (ms : Members αs) (members : List (String × Json)) (as : Values αs)
    (place : Nat) :
    ms.readObject members = .ok as ↔ ms.Settled (fun _ key => members.lookup key) place as := by
  induction ms generalizing place with
  | nil => exact iff_of_true rfl trivial
  | cons m ms ih =>
    obtain ⟨a, as⟩ := as
    rw [Settled, ← find_eq_ok_iff, ← ih, readObject]
    cases m.find members <;> cases ms.readObject members <;> simp

theorem readArray_eq_ok_iff (ms : Members αs) (items : List Json) (as : Values αs) (place : Nat) :
    ms.readArray ⟨true, true⟩ (items.drop place) = .ok as ↔
      ms.Settled (fun place _ => items[place]?) place as := by
  induction ms generalizing place with
  | nil => exact iff_of_true (if_pos (Or.inr rfl)) trivial
  | cons m ms ih =>
    obtain ⟨a, as⟩ := as
    rw [Settled, ← ih]
    by_cases hplace : place < items.length
    · rw [List.getElem?_eq_getElem hplace, List.drop_eq_getElem_cons hplace, readArray]
      change _ ↔ m.codec.read items[place] = .ok a ∧ _
      cases m.codec.read items[place] with
      | error e => exact iff_of_false nofun fun h => nomatch h.1
      | ok b =>
        cases ms.readArray ⟨true, true⟩ (items.drop (place + 1)) with
        | error e => exact iff_of_false nofun fun h => nomatch h.2
        | ok bs => simp [bind, Except.bind, pure, Except.pure]
    · -- The array has ended, and so it has for all later members.
      have hend : items.length ≤ place := Nat.le_of_not_lt hplace
      rw [List.getElem?_eq_none hend, List.drop_eq_nil_of_le hend,
        List.drop_eq_nil_of_le (Nat.le_succ_of_le hend), readArray]
      cases m.absent with
      | none => exact iff_of_false nofun fun h => nomatch h.1
      | some b => cases ms.readArray ⟨true, true⟩ [] <;> simp [Except.map]

/-- One member after another: the first is settled, and so are the rest. -/
theorem settled_cons_iff {α : Type} {codec : JsonCodec α} {Means : Json → α → Prop}
    (hreads : codec.Reads Means) {given : Nat → String → Option Json} {place : Nat} {key : String}
    {default a : α} {ms : Members αs} {as : Values αs} :
    (cons (.withDefault key codec default) ms).Settled given place (a, as) ↔
      Settles (given place key) Means default a ∧ ms.Settled given (place + 1) as := by
  rw [Settled]
  apply and_congr_left'
  change (match given place key with
    | some j => codec.read j = .ok a
    | none => some default = some a) ↔ Settles (given place key) Means default a
  cases given place key with
  | some j => exact hreads j a
  | none => exact Option.some_inj.trans eq_comm

end Members

/-- What is read from a table, given that nothing else is read at all. -/
theorem JsonCodec.structured_read_eq_ok_iff {α : Type} {αs : List Type} {ms : Members αs}
    {toValues : α → Values αs} {ofValues : Values αs → α} (hto : ∀ vs, toValues (ofValues vs) = vs)
    (hof : ∀ a, ofValues (toValues a) = a) {tree : Json} {a : α} :
    (structured ms toValues ofValues ⟨true, true⟩).read tree = .ok a ↔
      tree.IsTable ∧ ms.Settled tree.given? 0 (toValues a) := by
  have hmap : ∀ {ε : Type} (x : Except ε (Values αs)),
      x.map ofValues = .ok a ↔ x = .ok (toValues a) := by
    intro ε x
    cases x with
    | error e => exact iff_of_false nofun nofun
    | ok vs =>
      rw [Except.map, Except.ok.injEq, Except.ok.injEq]
      constructor
      · rintro rfl
        exact (hto vs).symm
      · rintro rfl
        exact hof a
  cases tree with
  | object members =>
    have hobject := ms.readObject_eq_ok_iff members (toValues a) 0
    simp only [structured, hmap]
    rw [mapError_eq_ok_iff, hobject]
    exact (and_iff_right trivial).symm
  | array items =>
    have harray := ms.readArray_eq_ok_iff items (toValues a) 0
    simp only [structured, hmap]
    exact harray.trans (and_iff_right trivial).symm
  | _ => exact iff_of_false nofun fun h => h.1.elim

end SymbolIndex
