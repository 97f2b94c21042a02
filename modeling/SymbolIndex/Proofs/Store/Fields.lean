import SymbolIndex.Proofs.Log.Logged
import SymbolIndex.Proofs.Store.Column
import SymbolIndex.Store.Row

/-! # Columns written and read in a row

What holds of a list of columns at any position of a row: it reads back what it wrote, whatever
stands before and after, and it divides into the columns of a first part and those of a second.
-/
namespace SymbolIndex.Fields

def append : (cs : List Column) → {ds : List Column} → Fields cs → Fields ds → Fields (cs ++ ds)
  | [], _, _, g => g
  | _ :: cs, _, (a, f), g => (a, append cs f g)

def first : (cs : List Column) → {ds : List Column} → Fields (cs ++ ds) → Fields cs
  | [], _, _ => ()
  | _ :: cs, _, (a, h) => (a, first cs h)

def second : (cs : List Column) → {ds : List Column} → Fields (cs ++ ds) → Fields ds
  | [], _, h => h
  | _ :: cs, _, (_, h) => second cs h

def paths : (cs : List Column) → Fields cs → List Path
  | [], _ => []
  | c :: cs, (a, f) => c.kind.paths a ++ paths cs f

variable {cs ds : List Column}

@[simp] theorem first_append (f : Fields cs) (g : Fields ds) : first cs (append cs f g) = f := by
  induction cs with
  | nil => rfl
  | cons c cs ih => exact congrArg (Prod.mk f.1) (ih f.2)

@[simp] theorem second_append (f : Fields cs) (g : Fields ds) : second cs (append cs f g) = g := by
  induction cs with
  | nil => rfl
  | cons c cs ih => exact ih f.2

@[simp] theorem append_first_second (h : Fields (cs ++ ds)) :
    append cs (first cs h) (second cs h) = h := by
  induction cs with
  | nil => rfl
  | cons c cs ih => exact congrArg (Prod.mk h.1) (ih h.2)

theorem paths_append (f : Fields cs) (g : Fields ds) :
    paths (cs ++ ds) (append cs f g) = paths cs f ++ paths ds g := by
  induction cs with
  | nil => rfl
  | cons c cs ih =>
    simp only [List.cons_append, paths, append, List.append_assoc]
    rw [ih]

theorem read_append (row : Row) (cs ds : List Column) (offset : Nat) :
    read row (cs ++ ds) offset = (do
      let f ← read row cs offset
      let g ← read row ds (offset + cs.length)
      return append cs f g) := by
  induction cs generalizing offset with
  | nil => simp [read, append]
  | cons c cs ih =>
    simp only [List.cons_append, read, ih, bind_assoc, pure_bind, List.length_cons, append]
    simp only [Nat.add_assoc, Nat.add_comm 1]

theorem map_read_append {α : Type} (row : Row) (cs ds : List Column) (offset : Nat)
    (g : Fields (cs ++ ds) → α) :
    g <$> read row (cs ++ ds) offset = (do
      let f ← read row cs offset
      let h ← read row ds (offset + cs.length)
      return g (append cs f h)) := by
  simp only [read_append, map_bind, map_pure]

theorem write_append (cs : List Column) {ds : List Column} (f : Fields cs) (g : Fields ds) :
    write (cs ++ ds) (append cs f g) = (do
      let cells ← write cs f
      let others ← write ds g
      return cells ++ others) := by
  induction cs with
  | nil =>
    change write ds g = (write ds g >>= fun others => pure others)
    rw [bind_pure]
  | cons c cs ih => simp only [List.cons_append, write, append, ih, bind_assoc, pure_bind]

theorem write_cons_eq_ok_iff {c : Column} {a : c.kind.Value} {f : Fields cs} {cells : List Cell} :
    write (c :: cs) (a, f) = .ok cells ↔
      ∃ cell others, c.kind.write a = .ok cell ∧ write cs f = .ok others ∧
        cells = cell :: others := by
  rw [write]
  constructor
  · intro h
    cases hw : c.kind.write a with
    | error e =>
      rw [hw] at h
      cases h
    | ok cell =>
      cases hf : write cs f with
      | error e =>
        rw [hw, hf] at h
        cases h
      | ok others =>
        rw [hw, hf] at h
        cases h
        exact ⟨cell, others, rfl, rfl, rfl⟩
  · rintro ⟨cell, others, hw, hf, rfl⟩
    rw [hw, hf]
    rfl

theorem length_of_write {f : Fields cs} {cells : List Cell} (h : write cs f = .ok cells) :
    cells.length = cs.length := by
  induction cs generalizing cells with
  | nil =>
    cases h
    rfl
  | cons c cs ih =>
    obtain ⟨cell, others, -, hf, rfl⟩ := write_cons_eq_ok_iff.1 h
    rw [List.length_cons, List.length_cons, ih hf]

/-- Nothing is written if some path is no text, and the first such path is to blame. -/
theorem write_eq_error_iff (f : Fields cs) (e : EncodeError) :
    write cs f = .error e ↔
      ∃ p, Path.firstMalformed? (paths cs f) = some p ∧ e = .nonUtf8Path p := by
  induction cs with
  | nil => simp [write, paths, Path.firstMalformed?]
  | cons c cs ih =>
    obtain ⟨a, f⟩ := f
    have hk := c.kind.write_eq_error_iff a
    simp only [write, paths, Path.firstMalformed?_append]
    cases hw : c.kind.write a with
    | error e' =>
      obtain ⟨p, hp, rfl⟩ := (hk e').1 hw
      rw [hp]
      constructor
      · intro h
        cases h
        exact ⟨p, rfl, rfl⟩
      · rintro ⟨q, hq, rfl⟩
        cases hq
        rfl
    | ok cell =>
      have hnone : Path.firstMalformed? (c.kind.paths a) = none := by
        apply Option.eq_none_iff_forall_ne_some.2
        intro p hp
        have := (hk _).2 ⟨p, hp, rfl⟩
        rw [hw] at this
        cases this
      rw [hnone, Option.none_or, ← ih f]
      cases write cs f with
      | error e' => exact Iff.rfl
      | ok others =>
        constructor
        · intro h
          cases h
        · intro h
          cases h

theorem write_eq_ok_iff (f : Fields cs) :
    (∃ cells, write cs f = .ok cells) ↔ ∀ p ∈ paths cs f, p.IsText := by
  rw [← Path.firstMalformed?_eq_none_iff]
  cases hw : write cs f with
  | error e =>
    obtain ⟨p, hp, -⟩ := (write_eq_error_iff f e).1 hw
    simp [hp]
  | ok cells =>
    refine iff_of_true ⟨cells, rfl⟩ (Option.eq_none_iff_forall_ne_some.2 ?_)
    intro p hp
    have := (write_eq_error_iff f _).2 ⟨p, hp, rfl⟩
    rw [hw] at this
    cases this

/-- The induction moves the first cell over to what stands before. -/
theorem read_of_write {f : Fields cs} {cells : List Cell} (h : write cs f = .ok cells)
    (before named after : Row) (hn : named.map (·.2) = cells) :
    read (before ++ named ++ after) cs before.length = pure f := by
  induction cs generalizing cells before named with
  | nil => rfl
  | cons c cs ih =>
    obtain ⟨a, f⟩ := f
    obtain ⟨cell, others, hw, hf, rfl⟩ := write_cons_eq_ok_iff.1 h
    obtain ⟨⟨name, cell'⟩, named, rfl, hcell, hothers⟩ := List.map_eq_cons_iff.1 hn
    cases hcell
    have hhead :
        (before ++ (name, cell') :: named ++ after)[before.length]? = some (name, cell') := by
      simp
    have hcolumn : readColumn (before ++ (name, cell') :: named ++ after) before.length c.kind
        = pure a := by
      rw [readColumn, hhead]
      simp only [Kind.read_of_write hw]
      rfl
    have htail := ih hf (before ++ [(name, cell')]) named hothers
    rw [List.length_append, List.append_assoc before] at htail
    rw [read, hcolumn, pure_bind]
    exact htail ▸ rfl

end SymbolIndex.Fields
