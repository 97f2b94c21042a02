import SymbolIndex.Proofs.Store.Reading

/-! # What is reported of a row

Reading a row reports at most one event. There is one exactly if the first column at fault is an
identifier's and its cell holds no text; the event names the class of the cell and the identifier.
Every other failure is told by the error alone.
-/
namespace SymbolIndex

def RowError.report : RowError → List Event
  | .conversion _ found (.undecodable (.expectedText what)) => [.columnRejected found what]
  | _ => []

theorem RowError.report_cases (e : RowError) :
    e.report = [] ∨ ∃ index found what,
      e = .conversion index found (.undecodable (.expectedText what)) := by
  unfold report
  split
  · exact Or.inr ⟨_, _, _, rfl⟩
  · exact Or.inl rfl

theorem RowError.report_eq_iff {e : RowError} {found : StorageClass} {what : String} :
    e.report = [.columnRejected found what] ↔
      ∃ index, e = .conversion index found (.undecodable (.expectedText what)) := by
  constructor
  · intro h
    rcases e.report_cases with hnone | ⟨index, found', what', rfl⟩
    · cases hnone.symm.trans h
    · cases h
      exact ⟨index, rfl⟩
  · rintro ⟨index, rfl⟩
    rfl

/-- The words for the storage classes in messages. -/
inductive StorageClass.IsCalled : StorageClass → String → Prop where
  | null : IsCalled .null "Null"
  | integer : IsCalled .integer "Integer"
  | real : IsCalled .real "Real"
  | text : IsCalled .text "Text"
  | blob : IsCalled .blob "Blob"

theorem StorageClass.isCalled_iff {found : StorageClass} {label : String} :
    found.IsCalled label ↔ label = found.name := by
  constructor
  · intro h
    cases h <;> rfl
  · rintro rfl
    cases found <;> constructor

/-! ## Cells -/

theorem Fingerprint.refusal_ne_expectedText {text what : String} :
    refusal text ≠ .expectedText what := by
  rw [refusal]
  intro h
  cases h

namespace Scalar

variable {index : Nat} {name : String} {s : Scalar} {cell : Cell} {e : RowError}

theorem events_read_of_class {what : String} (hs : s.identifier? = some what)
    (h : cell.storageClass ≠ .text) :
    (s.read cell).events = [.columnRejected cell.storageClass what] := by
  cases s with
  | occName | moduleName | unitId | fingerprint =>
    cases hs
    cases cell with
    | text bytes => exact absurd rfl h
    | _ => rfl
  | _ => cases hs

theorem events_read_of_not_identifier (hs : s.identifier? = none) : (s.read cell).events = [] := by
  cases s with
  | path | flag | int32 | int64 => rfl
  | _ => cases hs

theorem events_read_text (bytes : List UInt8) : (s.read (.text bytes)).events = [] := by
  cases s with
  | path | flag | int32 | int64 => rfl
  | _ =>
    rw [read, readIdentifier]
    split
    · rfl
    · split <;> rfl

theorem events_of_ok {a : s.Value} (h : (s.read cell).outcome = .ok a) :
    (s.read cell).events = [] := by
  cases hs : s.identifier? with
  | none => exact events_read_of_not_identifier hs
  | some what =>
    by_cases hclass : cell.storageClass = .text
    · cases Cell.isOf_iff.2 hclass with
      | text bytes => exact events_read_text bytes
    · cases h.symm.trans (outcome_read_of_class hs hclass)

theorem Refuses.report_eq (h : s.Refuses index name cell e) : e.report = (s.read cell).events := by
  cases h with
  | noIdentifier hs hcell hfound =>
    obtain rfl := Cell.isOf_iff.1 hcell
    exact (events_read_of_class hs hfound).symm
  | malformed hs hbytes => exact (events_read_text _).symm
  | occName htext => exact (events_read_text _).symm
  | @fingerprint text htext =>
    rw [textCell, events_read_text]
    rfl
  | noPath hcell hfound => exact (events_read_of_not_identifier rfl).symm
  | noInteger hs hcell hfound =>
    simp only [List.mem_cons, List.not_mem_nil, or_false] at hs
    rcases hs with rfl | rfl | rfl <;> exact (events_read_of_not_identifier rfl).symm
  | outOfRange hn => exact (events_read_of_not_identifier rfl).symm

theorem read_reportsBy (s : Scalar) (index : Nat) (name : String) (cell : Cell) :
    Traced.ReportsBy (fun fault => (RowError.ofFault index name cell.storageClass fault).report)
      (s.read cell) := by
  rw [Traced.ReportsBy]
  cases h : (s.read cell).outcome with
  | ok a => exact events_of_ok h
  | error fault => exact (refuses_of_outcome_read h).report_eq.symm

theorem refuses_expected_iff {found : StorageClass} {what : String} :
    s.Refuses index name cell (.conversion index found (.undecodable (.expectedText what))) ↔
      s.identifier? = some what ∧ cell.IsOf found ∧ found ≠ .text := by
  constructor
  · intro h
    generalize he : RowError.conversion index found (.undecodable (.expectedText what)) = e at h
    cases h with
    | noIdentifier hs hcell hfound =>
      cases he
      exact ⟨hs, hcell, hfound⟩
    | fingerprint htext =>
      injection he with _ _ hcause
      injection hcause with herror
      exact absurd herror.symm Fingerprint.refusal_ne_expectedText
    | _ => cases he
  · rintro ⟨hs, hcell, hfound⟩
    exact .noIdentifier hs hcell hfound

end Scalar

namespace Kind

variable {index : Nat} {name : String} {k : Kind} {cell : Cell}

theorem read_reportsBy (k : Kind) (index : Nat) (name : String) (cell : Cell) :
    Traced.ReportsBy (fun fault => (RowError.ofFault index name cell.storageClass fault).report)
      (k.read cell) := by
  cases k with
  | required s => exact s.read_reportsBy index name cell
  | optional s =>
    by_cases hnull : cell = .null
    · subst hnull
      exact .pure none
    · rw [read_optional hnull]
      exact (s.read_reportsBy index name cell).map some

theorem Refuses.not_holds {e : RowError} (h : k.Refuses index name cell e) :
    ¬ ∃ v, k.Holds cell v := by
  rintro ⟨v, hv⟩
  obtain ⟨fault, hfault, -⟩ := refuses_iff.1 h
  cases hfault.symm.trans (outcome_read_eq_ok_iff.2 hv)

/-- A null where the identifier may be absent is the one cell without text that is taken. -/
theorem refuses_expected_iff {found : StorageClass} {what : String} :
    k.Refuses index name cell (.conversion index found (.undecodable (.expectedText what))) ↔
      k.scalar.identifier? = some what ∧ cell.IsOf found ∧ found ≠ .text ∧
        ¬ ∃ v, k.Holds cell v := by
  constructor
  · intro h
    have hnot := h.not_holds
    cases h with
    | required h =>
      obtain ⟨hs, hcell, hfound⟩ := Scalar.refuses_expected_iff.1 h
      exact ⟨hs, hcell, hfound, hnot⟩
    | optional hnull h =>
      obtain ⟨hs, hcell, hfound⟩ := Scalar.refuses_expected_iff.1 h
      exact ⟨hs, hcell, hfound, hnot⟩
  · rintro ⟨hs, hcell, hfound, hnot⟩
    have h : k.scalar.Refuses index name cell
        (.conversion index found (.undecodable (.expectedText what))) :=
      Scalar.refuses_expected_iff.2 ⟨hs, hcell, hfound⟩
    cases k with
    | required s => exact .required h
    | optional s =>
      refine .optional ?_ h
      rintro rfl
      exact hnot ⟨none, rfl⟩

end Kind

/-! ## Rows -/

theorem readColumn_reportsBy (row : Row) (index : Nat) (k : Kind) :
    Traced.ReportsBy RowError.report (readColumn row index k) := by
  rw [readColumn]
  cases row[index]? with
  | none => exact .throw rfl
  | some entry => exact (k.read_reportsBy index entry.1 entry.2).adapt fun _ => rfl

theorem Fields.read_reportsBy (row : Row) (cs : List Column) (offset : Nat) :
    Traced.ReportsBy RowError.report (read row cs offset) := by
  induction cs generalizing offset with
  | nil => exact .pure ()
  | cons c cs ih =>
    apply Traced.ReportsBy.bind (readColumn_reportsBy row offset c.kind)
    intro a _
    apply Traced.ReportsBy.bind (ih (offset + 1))
    intro f _
    exact .pure (a, f)

theorem rejects_expected_iff {row : Row} {index : Nat} {k : Kind} {found : StorageClass}
    {what : String} :
    Rejects row index k (.conversion index found (.undecodable (.expectedText what))) ↔
      ∃ name cell, row[index]? = some (name, cell) ∧ k.scalar.identifier? = some what ∧
        cell.IsOf found ∧ found ≠ .text ∧ ¬ ∃ v, k.Holds cell v := by
  constructor
  · rintro (⟨-, h⟩ | ⟨name, cell, hrow, h⟩)
    · cases h
    · exact ⟨name, cell, hrow, Kind.refuses_expected_iff.1 h⟩
  · rintro ⟨name, cell, hrow, h⟩
    exact Or.inr ⟨name, cell, hrow, Kind.refuses_expected_iff.2 h⟩

namespace ResultShape

/-- The first column that does not take its cell, or has none. -/
structure AtFault (t : ResultShape) (row : Row) (offset i : Nat) (c : Column) : Prop where
  column : t.columns[i]? = some c
  earlier : ∀ j d, j < i → t.columns[j]? = some d → ∃ v, Accepts row (offset + j) d.kind v
  refuses : ¬ ∃ v, Accepts row (offset + i) c.kind v

variable {t : ResultShape} {row : Row} {offset : Nat}

theorem AtFault.exists_error {i : Nat} {c : Column} (h : t.AtFault row offset i c) :
    ∃ e, (t.read row offset).outcome = .error e ∧ Rejects row (offset + i) c.kind e := by
  cases hcolumn : (readColumn row (offset + i) c.kind).outcome with
  | ok v => exact absurd ⟨v, outcome_readColumn_eq_ok_iff.1 hcolumn⟩ h.refuses
  | error e =>
    have hrejects := outcome_readColumn_eq_error_iff.1 hcolumn
    exact ⟨e, ((t.readsExactly row offset).rejected e).2 ⟨i, c, h.column, hrejects, h.earlier⟩,
      hrejects⟩

theorem read_reportsBy (t : ResultShape) (row : Row) (offset : Nat) :
    Traced.ReportsBy RowError.report (t.read row offset) := by
  rw [t.read_eq]
  exact (Fields.read_reportsBy row t.columns offset).map _

theorem events_of_error {e : RowError} (h : (t.read row offset).outcome = .error e) :
    (t.read row offset).events = e.report := by
  have hevents := t.read_reportsBy row offset
  rw [Traced.ReportsBy, h] at hevents
  exact hevents

theorem events_of_ok {r : t.Record} (h : (t.read row offset).outcome = .ok r) :
    (t.read row offset).events = [] := by
  have hevents := t.read_reportsBy row offset
  rw [Traced.ReportsBy, h] at hevents
  exact hevents

theorem events_cases (t : ResultShape) (row : Row) (offset : Nat) :
    (t.read row offset).events = [] ∨
      ∃ found what, (t.read row offset).events = [.columnRejected found what] := by
  cases hread : (t.read row offset).outcome with
  | ok r => exact Or.inl (events_of_ok hread)
  | error e =>
    rw [events_of_error hread]
    rcases e.report_cases with hnone | ⟨index, found, what, rfl⟩
    · exact Or.inl hnone
    · exact Or.inr ⟨found, what, rfl⟩

theorem events_eq_iff {found : StorageClass} {what : String} :
    (t.read row offset).events = [.columnRejected found what] ↔
      ∃ index, (t.read row offset).outcome =
        .error (.conversion index found (.undecodable (.expectedText what))) := by
  cases hread : (t.read row offset).outcome with
  | ok r => simp [events_of_ok hread]
  | error e => simp [events_of_error hread, RowError.report_eq_iff]

theorem raised_iff {found : StorageClass} {what : String} :
    (t.read row offset).events = [.columnRejected found what] ↔
      ∃ i c name cell, t.AtFault row offset i c ∧ row[offset + i]? = some (name, cell) ∧
        c.kind.scalar.identifier? = some what ∧ cell.IsOf found ∧ found ≠ .text := by
  constructor
  · intro h
    obtain ⟨index, he⟩ := events_eq_iff.1 h
    obtain ⟨i, c, hc, hrejects, hearlier⟩ := ((t.readsExactly row offset).rejected _).1 he
    obtain rfl : index = offset + i := hrejects.index_eq
    obtain ⟨name, cell, hrow, hwhat, hclass, htext, hnot⟩ := rejects_expected_iff.1 hrejects
    refine ⟨i, c, name, cell, ⟨hc, hearlier, ?_⟩, hrow, hwhat, hclass, htext⟩
    rintro ⟨v, name', cell', hrow', hv⟩
    cases hrow.symm.trans hrow'
    exact hnot ⟨v, hv⟩
  · rintro ⟨i, c, name, cell, hfault, hrow, hwhat, hclass, htext⟩
    have hnot : ¬ ∃ v, c.kind.Holds cell v := by
      rintro ⟨v, hv⟩
      exact hfault.refuses ⟨v, name, cell, hrow, hv⟩
    have hrejects := rejects_expected_iff.2 ⟨name, cell, hrow, hwhat, hclass, htext, hnot⟩
    exact events_eq_iff.2 ⟨offset + i, ((t.readsExactly row offset).rejected _).2
      ⟨i, c, hfault.column, hrejects, hfault.earlier⟩⟩

structure ReportsRejection (t : ResultShape) (row : Row) (offset : Nat) : Prop where
  few : (t.read row offset).events = [] ∨
    ∃ found what, (t.read row offset).events = [.columnRejected found what]
  raised : ∀ found what, (t.read row offset).events = [.columnRejected found what] ↔
    ∃ i c name cell, t.AtFault row offset i c ∧ row[offset + i]? = some (name, cell) ∧
      c.kind.scalar.identifier? = some what ∧ cell.IsOf found ∧ found ≠ .text
  told : ∀ text, (t.read row offset).events.map Event.message = [text] ↔
    ∃ i c name cell found label what, t.AtFault row offset i c ∧
      row[offset + i]? = some (name, cell) ∧ c.kind.scalar.identifier? = some what ∧
      cell.IsOf found ∧ found ≠ .text ∧ found.IsCalled label ∧
      text = "Rejecting " ++ label ++ " column where " ++ what ++ " was expected"
  level : ∀ event ∈ (t.read row offset).events, event.level = .trace
  fails : ∀ found what, (t.read row offset).events = [.columnRejected found what] ↔
    ∃ index, (t.read row offset).outcome =
      .error (.conversion index found (.undecodable (.expectedText what)))
  accepted : ∀ r, (t.read row offset).outcome = .ok r → (t.read row offset).events = []
  silent : ∀ i c, t.AtFault row offset i c →
    row[offset + i]? = none ∨ c.kind.scalar.identifier? = none ∨
      (∃ name bytes, row[offset + i]? = some (name, .text bytes)) →
    (t.read row offset).events = []

theorem told_iff {text : String} :
    (t.read row offset).events.map Event.message = [text] ↔
      ∃ i c name cell found label what, t.AtFault row offset i c ∧
        row[offset + i]? = some (name, cell) ∧ c.kind.scalar.identifier? = some what ∧
        cell.IsOf found ∧ found ≠ .text ∧ found.IsCalled label ∧
        text = "Rejecting " ++ label ++ " column where " ++ what ++ " was expected" := by
  constructor
  · intro h
    rcases t.events_cases row offset with hnone | ⟨found, what, hone⟩
    · rw [hnone] at h
      cases h
    · obtain ⟨i, c, name, cell, hfault, hrow, hwhat, hclass, htext⟩ := raised_iff.1 hone
      rw [hone] at h
      exact ⟨i, c, name, cell, found, found.name, what, hfault, hrow, hwhat, hclass, htext,
        StorageClass.isCalled_iff.2 rfl, (List.singleton_inj.1 h).symm⟩
  · rintro ⟨i, c, name, cell, found, label, what, hfault, hrow, hwhat, hclass, htext, hlabel, rfl⟩
    obtain rfl := StorageClass.isCalled_iff.1 hlabel
    rw [raised_iff.2 ⟨i, c, name, cell, hfault, hrow, hwhat, hclass, htext⟩]
    rfl

theorem silent_of_atFault {i : Nat} {c : Column} (hfault : t.AtFault row offset i c)
    (hcell : row[offset + i]? = none ∨ c.kind.scalar.identifier? = none ∨
      ∃ name bytes, row[offset + i]? = some (name, .text bytes)) :
    (t.read row offset).events = [] := by
  obtain ⟨e, he, hrejects⟩ := hfault.exists_error
  rw [events_of_error he]
  rcases e.report_cases with hnone | ⟨index, found, what, rfl⟩
  · exact hnone
  · -- Then the cell at fault would be an identifier's and hold no text.
    obtain rfl : index = offset + i := hrejects.index_eq
    obtain ⟨name, cell, hrow, hwhat, hclass, htext, -⟩ := rejects_expected_iff.1 hrejects
    rcases hcell with hmissing | hother | ⟨name', bytes, hbytes⟩
    · cases hrow.symm.trans hmissing
    · cases hwhat.symm.trans hother
    · cases hrow.symm.trans hbytes
      cases hclass
      exact absurd rfl htext

theorem reportsRejection (t : ResultShape) (row : Row) (offset : Nat) :
    t.ReportsRejection row offset where
  few := t.events_cases row offset
  raised _ _ := raised_iff
  told _ := told_iff
  level := by
    intro event hevent
    rcases t.events_cases row offset with hnone | ⟨found, what, hone⟩
    · simp [hnone] at hevent
    · rw [hone, List.mem_singleton] at hevent
      rw [hevent]
      rfl
  fails _ _ := events_eq_iff
  accepted _ := events_of_ok
  silent _ _ := silent_of_atFault

end ResultShape

/-- Every shape reports the first cell that should hold an identifier and holds no text, if it is
this cell that fails the record, and nothing else; a null for an absent identifier is no failure. -/
theorem rejections_reported :
    (∀ (t : ResultShape) (row : Row) (offset : Nat), t.ReportsRejection row offset) ∧
    ∀ (row : Row) (index : Nat) (name : String) (s : Scalar),
      row[index]? = some (name, .null) →
        Accepts row index (.optional s) none ∧ (readColumn row index (.optional s)).events = [] := by
  refine ⟨ResultShape.reportsRejection, ?_⟩
  intro row index name s hrow
  have haccepts : Accepts row index (.optional s) none := ⟨name, .null, hrow, rfl⟩
  have hevents := readColumn_reportsBy row index (.optional s)
  rw [Traced.ReportsBy, outcome_readColumn_eq_ok_iff.2 haccepts] at hevents
  exact ⟨haccepts, hevents⟩

/-- The unit of the owning module is at fault, before a flag that would be refused as well. -/
theorem rejections_reported_owner :
    let row : Row := [("name", .text [0x76, 0x66]), ("mod", .text [0x4D]), ("unit", .text []),
      ("mod", .text [0x4D]), ("unit", .blob [0x75]), ("is_boot", .null)]
    let read := (ResultShape.plain .typeName).withInfo.read row 0
    read.events = [.columnRejected .blob "a UnitId"] ∧
      read.events.map Event.message = ["Rejecting Blob column where a UnitId was expected"] := by
  intro row read
  have hread : read.outcome =
      .error (.conversion 4 .blob (.undecodable (.expectedText "a UnitId"))) := by
    decide +kernel
  have hreport := rejections_reported.1 (.withInfo (.plain .typeName)) row 0
  have hevents := (hreport.fails .blob "a UnitId").2 ⟨4, hread⟩
  obtain ⟨i, c, name, cell, hfault, hrow, hwhat, hclass, -⟩ := (hreport.raised _ _).1 hevents
  refine ⟨hevents, (hreport.told _).2 ⟨i, c, name, cell, .blob, "Blob", "a UnitId", hfault, hrow,
    hwhat, hclass, by decide, .blob, by decide⟩⟩

end SymbolIndex
