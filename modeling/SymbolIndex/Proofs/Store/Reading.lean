import SymbolIndex.Proofs.Store.Refusal
import SymbolIndex.Proofs.Store.Shape

/-! # Which rows are read

A row is read exactly if every column of the shape takes its cell, and what is read is what the
columns make of the cells. Otherwise the first column that does not is to blame, and no other cell
has a part in the result.
-/
namespace SymbolIndex

def RowError.index : RowError → Nat
  | noColumn index => index
  | conversion index _ _ => index
  | wrongClass index _ _ => index
  | outOfRange index _ => index

/-- There is a cell in this place, and it stands for `v`. -/
def Accepts (row : Row) (index : Nat) (k : Kind) (v : k.Value) : Prop :=
  ∃ name cell, row[index]? = some (name, cell) ∧ k.Holds cell v

theorem Accepts.of_write {row : Row} {index : Nat} {name : String} {cell : Cell} {k : Kind}
    {v : k.Value} (hrow : row[index]? = some (name, cell)) (hwrite : k.write v = .ok cell) :
    Accepts row index k v :=
  ⟨name, cell, hrow, Kind.outcome_read_eq_ok_iff.1
    (congrArg Traced.outcome (Kind.read_of_write hwrite))⟩

/-- There is no cell in this place, or the column does not take it. -/
def Rejects (row : Row) (index : Nat) (k : Kind) (e : RowError) : Prop :=
  (row[index]? = none ∧ e = .noColumn index) ∨
    ∃ name cell, row[index]? = some (name, cell) ∧ k.Refuses index name cell e

theorem Scalar.Refuses.index_eq {index : Nat} {name : String} {s : Scalar} {cell : Cell}
    {e : RowError} (h : s.Refuses index name cell e) : e.index = index := by
  cases h <;> rfl

theorem Rejects.index_eq {row : Row} {index : Nat} {k : Kind} {e : RowError}
    (h : Rejects row index k e) : e.index = index := by
  rcases h with ⟨-, rfl⟩ | ⟨name, cell, -, h⟩
  · rfl
  · cases h with
    | required h => exact h.index_eq
    | optional _ h => exact h.index_eq

theorem outcome_readColumn_eq_ok_iff {row : Row} {index : Nat} {k : Kind} {v : k.Value} :
    (readColumn row index k).outcome = .ok v ↔ Accepts row index k v := by
  rw [readColumn, Accepts]
  cases row[index]? with
  | none => simp
  | some entry =>
    obtain ⟨name, cell⟩ := entry
    refine Traced.outcome_adapt_eq_ok_iff.trans ?_
    simp [Kind.outcome_read_eq_ok_iff]

theorem outcome_readColumn_eq_error_iff {row : Row} {index : Nat} {k : Kind} {e : RowError} :
    (readColumn row index k).outcome = .error e ↔ Rejects row index k e := by
  rw [readColumn, Rejects]
  cases row[index]? with
  | none => simp [eq_comm]
  | some entry =>
    obtain ⟨name, cell⟩ := entry
    refine Traced.outcome_adapt_eq_error_iff.trans ?_
    rw [← Kind.refuses_iff]
    simp

namespace Fields

def values : (cs : List Column) → Fields cs → List ((k : Kind) × k.Value)
  | [], _ => []
  | c :: cs, (a, f) => ⟨c.kind, a⟩ :: values cs f

theorem values_append {cs ds : List Column} (f : Fields cs) (g : Fields ds) :
    values (cs ++ ds) (append cs f g) = values cs f ++ values ds g := by
  induction cs with
  | nil => rfl
  | cons c cs ih => exact congrArg (_ :: ·) (ih f.2)

theorem outcome_read_cons_eq_ok_iff {row : Row} {c : Column} {cs : List Column} {offset : Nat}
    {a : c.kind.Value} {f : Fields cs} :
    (read row (c :: cs) offset).outcome = .ok (a, f) ↔
      Accepts row offset c.kind a ∧ (read row cs (offset + 1)).outcome = .ok f := by
  rw [read, Traced.outcome_bind, ← outcome_readColumn_eq_ok_iff]
  cases (readColumn row offset c.kind).outcome with
  | error e => simp [Except.bind]
  | ok a' =>
    simp only [Except.bind, bind_pure_comp, Traced.outcome_map]
    cases (read row cs (offset + 1)).outcome <;> simp [Except.map]

theorem outcome_read_cons_eq_error_iff {row : Row} {c : Column} {cs : List Column} {offset : Nat}
    {e : RowError} :
    (read row (c :: cs) offset).outcome = .error e ↔
      Rejects row offset c.kind e ∨
        (∃ a, Accepts row offset c.kind a) ∧ (read row cs (offset + 1)).outcome = .error e := by
  rw [read, Traced.outcome_bind, ← outcome_readColumn_eq_error_iff]
  simp only [← outcome_readColumn_eq_ok_iff]
  cases (readColumn row offset c.kind).outcome with
  | error e => simp [Except.bind]
  | ok a' =>
    simp only [Except.bind, bind_pure_comp, Traced.outcome_map]
    cases (read row cs (offset + 1)).outcome <;> simp [Except.map]

variable {row row' : Row} {cs : List Column} {offset : Nat}

theorem outcome_read_eq_ok_iff {f : Fields cs} :
    (read row cs offset).outcome = .ok f ↔
      ∀ i c, cs[i]? = some c →
        ∃ v, Accepts row (offset + i) c.kind v ∧ (values cs f)[i]? = some ⟨c.kind, v⟩ := by
  induction cs generalizing offset with
  | nil =>
    refine iff_of_true rfl ?_
    intro i c hc
    cases hc
  | cons c cs ih =>
    obtain ⟨a, f⟩ := f
    rw [outcome_read_cons_eq_ok_iff, ih]
    constructor
    · rintro ⟨ha, hf⟩ i d hd
      cases i with
      | zero =>
        cases hd
        exact ⟨a, ha, rfl⟩
      | succ i =>
        obtain ⟨v, hv, hi⟩ := hf i d hd
        exact ⟨v, by rwa [Nat.add_right_comm] at hv, hi⟩
    · intro h
      constructor
      · obtain ⟨v, hv, hzero⟩ := h 0 c rfl
        cases hzero
        exact hv
      · intro i d hd
        obtain ⟨v, hv, hi⟩ := h (i + 1) d hd
        exact ⟨v, by rwa [Nat.add_right_comm], hi⟩

theorem exists_outcome_read_eq_ok_iff :
    (∃ f, (read row cs offset).outcome = .ok f) ↔
      ∀ i c, cs[i]? = some c → ∃ v, Accepts row (offset + i) c.kind v := by
  constructor
  · rintro ⟨f, hf⟩ i c hc
    obtain ⟨v, hv, -⟩ := outcome_read_eq_ok_iff.1 hf i c hc
    exact ⟨v, hv⟩
  · intro h
    induction cs generalizing offset with
    | nil => exact ⟨(), rfl⟩
    | cons c cs ih =>
      obtain ⟨a, ha⟩ := h 0 c rfl
      have htail : ∃ f, (read row cs (offset + 1)).outcome = .ok f := by
        apply ih
        intro i d hd
        obtain ⟨v, hv⟩ := h (i + 1) d hd
        exact ⟨v, by rwa [Nat.add_right_comm]⟩
      obtain ⟨f, hf⟩ := htail
      exact ⟨(a, f), outcome_read_cons_eq_ok_iff.2 ⟨ha, hf⟩⟩

/-- The first column that does not take its cell is to blame. -/
theorem outcome_read_eq_error_iff {e : RowError} :
    (read row cs offset).outcome = .error e ↔
      ∃ i c, cs[i]? = some c ∧ Rejects row (offset + i) c.kind e ∧
        ∀ j d, j < i → cs[j]? = some d → ∃ v, Accepts row (offset + j) d.kind v := by
  induction cs generalizing offset with
  | nil => exact ⟨nofun, nofun⟩
  | cons c cs ih =>
    rw [outcome_read_cons_eq_error_iff, ih]
    constructor
    · rintro (hc | ⟨ha, i, d, hd, hr, hearlier⟩)
      · refine ⟨0, c, rfl, hc, ?_⟩
        intro j d hj
        omega
      · refine ⟨i + 1, d, hd, by rwa [Nat.add_right_comm] at hr, ?_⟩
        intro j d' hj hd'
        cases j with
        | zero =>
          cases hd'
          exact ha
        | succ j =>
          obtain ⟨v, hv⟩ := hearlier j d' (by omega) hd'
          exact ⟨v, by rwa [Nat.add_right_comm] at hv⟩
    · rintro ⟨i, d, hd, hr, hearlier⟩
      cases i with
      | zero =>
        cases hd
        exact Or.inl hr
      | succ i =>
        refine Or.inr ⟨hearlier 0 c (by omega) rfl, i, d, hd, by rwa [Nat.add_right_comm], ?_⟩
        intro j d' hj hd'
        obtain ⟨v, hv⟩ := hearlier (j + 1) d' (by omega) hd'
        exact ⟨v, by rwa [Nat.add_right_comm]⟩

theorem index_of_read {e : RowError} (h : (read row cs offset).outcome = .error e) :
    offset ≤ e.index ∧ e.index < offset + cs.length := by
  obtain ⟨i, c, hc, hr, -⟩ := outcome_read_eq_error_iff.1 h
  have hi : i < cs.length := (List.getElem?_eq_some_iff.1 hc).1
  rw [hr.index_eq]
  omega

theorem read_congr (h : ∀ i, i < cs.length → row'[offset + i]? = row[offset + i]?) :
    read row' cs offset = read row cs offset := by
  induction cs generalizing offset with
  | nil => rfl
  | cons c cs ih =>
    have hhead : row'[offset]? = row[offset]? := h 0 (Nat.succ_pos _)
    have htail : read row' cs (offset + 1) = read row cs (offset + 1) := by
      apply ih
      intro i hi
      have := h (i + 1) (Nat.succ_lt_succ hi)
      rwa [Nat.add_right_comm]
    rw [read, read, readColumn, hhead, htail]
    rfl

/-- Nothing after the cell at fault is looked at. -/
theorem read_congr_of_error {e : RowError} (he : (read row cs offset).outcome = .error e)
    (h : ∀ i, offset ≤ i → i ≤ e.index → row'[i]? = row[i]?) :
    read row' cs offset = read row cs offset := by
  induction cs generalizing offset with
  | nil => rfl
  | cons c cs ih =>
    have hhead : row'[offset]? = row[offset]? := h offset (Nat.le_refl _) (index_of_read he).1
    have hcolumn : readColumn row' offset c.kind = readColumn row offset c.kind := by
      rw [readColumn, hhead]
      rfl
    rw [read, read, hcolumn]
    apply Traced.bind_congr_outcome
    intro a ha
    have hrest : (read row cs (offset + 1)).outcome = .error e := by
      rcases outcome_read_cons_eq_error_iff.1 he with hr | ⟨-, hrest⟩
      · cases ha.symm.trans (outcome_readColumn_eq_error_iff.2 hr)
      · exact hrest
    rw [ih hrest]
    intro i hi
    exact h i (by omega)

end Fields

def Shape.values (s : Shape) (r : s.Record) : List ((k : Kind) × k.Value) :=
  Fields.values s.columns (s.fields r)

namespace ResultShape

def values : (t : ResultShape) → t.Record → List ((k : Kind) × k.Value)
  | plain s, r => s.values r
  | withInfo e, r => e.values r.entity ++ Shape.moduleInfo.values r.info

theorem values_fields (t : ResultShape) (r : t.Record) :
    Fields.values t.columns (t.fields r) = t.values r := by
  induction t with
  | plain s => rfl
  | withInfo e ih =>
    rw [values, ← ih r.entity]
    exact Fields.values_append _ _

theorem outcome_read_eq_ok_iff (t : ResultShape) {row : Row} {offset : Nat} {r : t.Record} :
    (t.read row offset).outcome = .ok r ↔
      (Fields.read row t.columns offset).outcome = .ok (t.fields r) := by
  rw [t.read_eq, Traced.outcome_map]
  cases (Fields.read row t.columns offset).outcome with
  | error e => exact iff_of_false nofun nofun
  | ok f =>
    constructor
    · intro h
      cases h
      rw [t.fields_ofFields]
    · intro h
      cases h
      exact congrArg Except.ok (t.ofFields_fields r)

theorem outcome_read_eq_error_iff (t : ResultShape) {row : Row} {offset : Nat} {e : RowError} :
    (t.read row offset).outcome = .error e ↔
      (Fields.read row t.columns offset).outcome = .error e := by
  rw [t.read_eq, Traced.outcome_map]
  cases (Fields.read row t.columns offset).outcome with
  | error e' => exact ⟨fun h => by cases h; rfl, fun h => by cases h; rfl⟩
  | ok f => exact iff_of_false nofun nofun

/-- What decides the reading of a record from `offset` on, and what has no part in it. -/
structure ReadsExactly (t : ResultShape) (row : Row) (offset : Nat) : Prop where
  accepted : ∀ r, (t.read row offset).outcome = .ok r ↔
    ∀ i c, t.columns[i]? = some c →
      ∃ v, Accepts row (offset + i) c.kind v ∧ (t.values r)[i]? = some ⟨c.kind, v⟩
  complete : (∃ r, (t.read row offset).outcome = .ok r) ↔
    ∀ i c, t.columns[i]? = some c → ∃ v, Accepts row (offset + i) c.kind v
  rejected : ∀ e, (t.read row offset).outcome = .error e ↔
    ∃ i c, t.columns[i]? = some c ∧ Rejects row (offset + i) c.kind e ∧
      ∀ j d, j < i → t.columns[j]? = some d → ∃ v, Accepts row (offset + j) d.kind v
  located : ∀ e, (t.read row offset).outcome = .error e →
    offset ≤ e.index ∧ e.index < offset + t.width
  window : ∀ row' : Row, (∀ i, i < t.width → row'[offset + i]? = row[offset + i]?) →
    t.read row' offset = t.read row offset
  stops : ∀ e, (t.read row offset).outcome = .error e → ∀ row' : Row,
    (∀ i, offset ≤ i → i ≤ e.index → row'[i]? = row[i]?) → t.read row' offset = t.read row offset

theorem readsExactly (t : ResultShape) (row : Row) (offset : Nat) : t.ReadsExactly row offset := by
  constructor
  · intro r
    rw [t.outcome_read_eq_ok_iff, Fields.outcome_read_eq_ok_iff, t.values_fields]
  · rw [← Fields.exists_outcome_read_eq_ok_iff]
    simp only [t.outcome_read_eq_ok_iff]
    constructor
    · rintro ⟨r, hr⟩
      exact ⟨t.fields r, hr⟩
    · rintro ⟨f, hf⟩
      exact ⟨t.ofFields f, by rwa [t.fields_ofFields]⟩
  · intro e
    rw [t.outcome_read_eq_error_iff, Fields.outcome_read_eq_error_iff]
  · intro e he
    exact Fields.index_of_read (t.outcome_read_eq_error_iff.1 he)
  · intro row' h
    rw [t.read_eq, t.read_eq, Fields.read_congr h]
  · intro e he row' h
    rw [t.read_eq, t.read_eq, Fields.read_congr_of_error (t.outcome_read_eq_error_iff.1 he) h]

end ResultShape

/-- Every shape reads exactly the rows whose cells its columns take; numbers are never cut short. -/
theorem rows_read_exactly :
    (∀ (t : ResultShape) (row : Row) (offset : Nat), t.ReadsExactly row offset) ∧
    (∀ row index k e, Rejects row index k e → e.index = index) ∧
    (∀ (k : Kind) (cell : Cell) (v : k.Value),
      (k.read cell).outcome = .ok v ↔ k.Holds cell v) ∧
    (∀ (row : Row) (index : Nat) (name : String) (n : Int64), row[index]? = some (name, .integer n) →
      ¬ (-2147483648 ≤ n.toInt ∧ n.toInt < 2147483648) →
      (readColumn row index (.required .int32)).outcome = .error (.outOfRange index n)) ∧
    ∀ (s : Scalar) (cell : Cell) (a : s.Value), s.Holds cell a → cell ≠ .null := by
  refine ⟨ResultShape.readsExactly, ?_, ?_, ?_, ?_⟩
  · intro row index k e
    exact Rejects.index_eq
  · intro k cell v
    exact Kind.outcome_read_eq_ok_iff
  · intro row index name n hrow hn
    exact outcome_readColumn_eq_error_iff.2
      (Or.inr ⟨name, .integer n, hrow, .required (.outOfRange hn)⟩)
  · rintro s cell a h rfl
    exact Scalar.not_holds_null h

/-- The column that is missing at the end is not reported while a cell before it is refused: one of
another class, a number that is too large, or a flag that is a text. -/
theorem rows_read_exactly_short :
    let row (line : Cell) (root : List (String × Cell)) : Row :=
      [("id", .null), ("hieFile", .text [0x66]), ("occ", .text [0x76, 0x66]), ("sl", line),
        ("sc", .integer 1), ("el", .integer 2), ("ec", .integer 3)] ++ root
    (Shape.typeName.read [("id", .null), ("name", .text [0x76, 0x66]), ("mod", .integer 7)] 1).outcome =
        .error (.conversion 2 .integer (.undecodable (.expectedText "a ModuleName"))) ∧
      (Shape.declRow.read (row (.integer 2147483648) []) 1).outcome =
        .error (.outOfRange 3 2147483648) ∧
      (Shape.declRow.read (row (.integer 2147483647) [("is_root", .text [])]) 1).outcome =
        .error (.wrongClass 7 .text "is_root") ∧
      (Shape.declRow.read (row (.integer 2147483647) []) 1).outcome = .error (.noColumn 7) := by
  intro row
  have hread := rows_read_exactly.1
  have hpath (line : Cell) (root : List (String × Cell)) :
      Accepts (row line root) 1 (.required .path) (.ofText "f") :=
    ⟨"hieFile", .text [0x66], rfl, by decide, "f", rfl⟩
  have hname (line : Cell) (root : List (String × Cell)) :
      Accepts (row line root) 2 (.required .occName) ⟨.value, "f"⟩ := .of_write rfl (by decide)
  have hearlier (root : List (String × Cell)) (j : Nat) (d : Column) (hj : j < 6)
      (hd : Shape.declRow.columns[j]? = some d) :
      ∃ v, Accepts (row (.integer 2147483647) root) (1 + j) d.kind v := by
    rcases j with _ | _ | _ | _ | _ | _ | j
    case succ => omega
    all_goals cases hd
    · exact ⟨_, hpath _ _⟩
    · exact ⟨_, hname _ _⟩
    · exact ⟨(2147483647 : Int32), .of_write rfl rfl⟩
    · exact ⟨(1 : Int32), .of_write rfl rfl⟩
    · exact ⟨(2 : Int32), .of_write rfl rfl⟩
    · exact ⟨(3 : Int32), .of_write rfl rfl⟩
  refine ⟨((hread (.plain .typeName) _ 1).rejected _).2 ?_,
    ((hread (.plain .declRow) _ 1).rejected _).2 ?_,
    ((hread (.plain .declRow) _ 1).rejected _).2 ?_,
    ((hread (.plain .declRow) _ 1).rejected _).2 ?_⟩
  · refine ⟨1, ⟨"mod", .required .moduleName⟩, rfl,
      Or.inr ⟨"mod", .integer 7, rfl, .required (.noIdentifier rfl (.integer 7) (by decide))⟩, ?_⟩
    intro j d hj hd
    obtain rfl : j = 0 := by omega
    cases hd
    exact ⟨⟨.value, "f"⟩, .of_write rfl (by decide)⟩
  · refine ⟨2, ⟨"sl", .required .int32⟩, rfl,
      Or.inr ⟨"sl", .integer 2147483648, rfl, .required (.outOfRange (by decide))⟩, ?_⟩
    intro j d hj hd
    rcases j with _ | _ | j
    case succ => omega
    all_goals cases hd
    · exact ⟨_, hpath _ _⟩
    · exact ⟨_, hname _ _⟩
  · exact ⟨6, ⟨"is_root", .required .flag⟩, rfl, Or.inr ⟨"is_root", .text [], rfl,
      .required (.noInteger (by decide) (.text []) (by decide))⟩, hearlier _⟩
  · exact ⟨6, ⟨"is_root", .required .flag⟩, rfl, Or.inl ⟨rfl, rfl⟩, hearlier _⟩

end SymbolIndex
