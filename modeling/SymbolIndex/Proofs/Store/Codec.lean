import Mathlib.Data.List.Forall2
import SymbolIndex.Proofs.Store.Shape
import SymbolIndex.Store.Run

/-! # Rows lose nothing

A record is written in full or not at all, and not only if one of its paths is no text. The cells
read back as the record itself from any place in a row, and a table gives back, in order, the
records that were put into it.
-/
namespace SymbolIndex

namespace ResultShape

structure Lossless (t : ResultShape) (r : t.Record) : Prop where
  refused : ∀ e, t.write r = .error e ↔
    ∃ p, Path.firstMalformed? (t.paths r) = some p ∧ e = .nonUtf8Path p
  written : (∃ cells, t.write r = .ok cells) ↔ ∀ p ∈ t.paths r, p.IsText
  width : ∀ cells, t.write r = .ok cells → cells.length = t.width
  restored : ∀ cells, t.write r = .ok cells → ∀ before named after : Row,
    named.map (·.2) = cells → t.read (before ++ named ++ after) before.length = pure r

theorem lossless (t : ResultShape) (r : t.Record) : t.Lossless r := by
  constructor
  · intro e
    rw [t.write_eq, Fields.write_eq_error_iff, t.paths_fields]
  · rw [t.write_eq, Fields.write_eq_ok_iff, t.paths_fields]
  · intro cells h
    rw [t.write_eq] at h
    exact Fields.length_of_write h
  · intro cells h before named after hn
    rw [t.write_eq] at h
    rw [t.read_eq, Fields.read_of_write h before named after hn, map_pure, t.ofFields_fields]

theorem read_table (t : ResultShape) {rs : List t.Record} {rows : List Row}
    (h : List.Forall₂ (fun r row => t.write r = .ok (row.map (·.2))) rs rows) :
    rows.map (fun row => t.read row 0) = rs.map pure := by
  induction h with
  | nil => rfl
  | @cons r row rs rows hr _ ih =>
    have hread := (t.lossless r).restored _ hr [] row [] rfl
    rw [List.nil_append, List.append_nil] at hread
    rw [List.map_cons, List.map_cons, ih]
    exact congrArg (· :: rs.map pure) hread

end ResultShape

namespace Store

variable {store : Store} {s : Shape}

theorem table?_setRows {old : List Entity} (h : store.table? s = some old) (rows : List Entity) :
    (store.setRows s rows).table? s = some rows := by
  unfold table? setRows at *
  generalize store.tables = tables at h ⊢
  induction tables with
  | nil => cases h
  | cons t tables ih =>
    obtain ⟨s', old'⟩ := t
    by_cases hs : s' = s
    · simp [hs]
    · have hs' : (s == s') = false := by simpa using Ne.symm hs
      rw [List.lookup_cons, hs'] at h
      simp only [List.map_cons, if_neg hs, List.lookup_cons, hs']
      exact ih h

theorem value_select (store : Store) (s : Shape) :
    (store.select s).value =
      (store.rows s).map fun e => (s.read (s.nameCells e.cells) 0).outcome :=
  Logged.value_mapM _ _

theorem read_nameCells {r : s.Record} {cells : List Cell} (h : s.write r = .ok cells) :
    s.read (s.nameCells cells) 0 = pure r := by
  have hl := ((ResultShape.plain s).lossless r).width cells h
  have hn : (s.nameCells cells).map (·.2) = cells := by
    apply List.map_snd_zip
    rw [List.length_map, hl]
    exact Nat.le_refl _
  have hr := ((ResultShape.plain s).lossless r).restored cells h [] (s.nameCells cells) [] hn
  rwa [List.nil_append, List.append_nil] at hr

theorem insertRecord_refused {r : s.Record} {e : EncodeError} (h : s.write r = .error e) :
    (store.step (.insertRecord s r)).value.2 = store := by
  simp only [step, h]
  rfl

theorem insertRecord_stored {old : List Entity} {r : s.Record} {cells : List Cell}
    (htable : store.table? s = some old) (hopen : store.queryOnly = false)
    (h : s.write r = .ok cells) :
    (store.step (.insertRecord s r)).value.2 =
      store.setRows s (old ++ [⟨nextRowid old, cells⟩]) := by
  simp [step, h, insertAnswer, insert, htable, hopen]

theorem run_cons (store : Store) (x : StoreStep) (steps : List StoreStep) :
    (store.run (x :: steps)).value.2 = ((store.step x).value.2.run steps).value.2 := rfl

/-- What is put into a table comes out of it, after what was there before. -/
theorem select_run_insert {old : List Entity} (htable : store.table? s = some old)
    (hopen : store.queryOnly = false) (rs : List s.Record) :
    ((store.run (rs.map (.insertRecord s))).value.2.select s).value =
      (store.select s).value ++ (rs.filter fun r => ∀ p ∈ s.paths r, p.IsText).map .ok := by
  induction rs generalizing store old with
  | nil =>
    simp
    rfl
  | cons r rs ih =>
    have hw := ((ResultShape.plain s).lossless r).written
    rw [List.map_cons, run_cons]
    cases h : s.write r with
    | error e =>
      have hbad : ¬ ∀ p ∈ s.paths r, p.IsText := by
        rintro htext
        obtain ⟨cells, hcells⟩ := hw.2 htext
        cases h.symm.trans hcells
      rw [insertRecord_refused h, ih htable hopen, List.filter_cons_of_neg (by simpa using hbad)]
    | ok cells =>
      have htext : ∀ p ∈ s.paths r, p.IsText := hw.1 ⟨cells, h⟩
      have htable' := table?_setRows htable (old ++ [⟨nextRowid old, cells⟩])
      rw [insertRecord_stored htable hopen h, ih htable' hopen,
        List.filter_cons_of_pos (by simpa using htext), value_select, value_select]
      simp only [Store.rows, htable, htable', Option.getD_some, List.map_append, List.map_cons,
        List.map_nil, read_nameCells h, Traced.outcome_pure, List.append_assoc]
      rfl

end Store

theorem ResultShape.write_withInfo {t : ResultShape} {entity : t.Record} {info : ModuleInfo}
    {cells infoCells : List Cell} (he : t.write entity = .ok cells)
    (hi : Shape.moduleInfo.write info = .ok infoCells) :
    t.withInfo.write ⟨entity, info⟩ = .ok (cells ++ infoCells) := by
  rw [write, he, hi]
  rfl

/-- Every shape is lossless, alone or with the columns of owning modules, and so is every table. -/
theorem rows_lossless :
    (∀ (t : ResultShape) (r : t.Record), t.Lossless r) ∧
    (∀ (t : ResultShape) (entity : t.Record) (info : ModuleInfo) (cells infoCells : List Cell),
      t.write entity = .ok cells → Shape.moduleInfo.write info = .ok infoCells →
      t.withInfo.write ⟨entity, info⟩ = .ok (cells ++ infoCells)) ∧
    (∀ (t : ResultShape) (rs : List t.Record) (rows : List Row),
      List.Forall₂ (fun r row => t.write r = .ok (row.map (·.2))) rs rows →
      rows.map (fun row => t.read row 0) = rs.map pure) ∧
    ∀ (store : Store) (s : Shape) (old : List Entity) (rs : List s.Record),
      store.table? s = some old → store.queryOnly = false →
      ((store.run (rs.map (.insertRecord s))).value.2.select s).value =
        (store.select s).value ++ (rs.filter fun r => ∀ p ∈ s.paths r, p.IsText).map .ok := by
  refine ⟨ResultShape.lossless, ?_, ?_, ?_⟩
  · intro t entity info cells infoCells
    exact ResultShape.write_withInfo
  · intro t rs rows
    exact t.read_table
  · intro store s old rs htable hopen
    exact Store.select_run_insert htable hopen rs

/-- The row with a path that is no text is the only one that is not there. -/
theorem rows_lossless_fresh :
    let good : DefRow := ⟨.ofText "Main.hie", ⟨.value, "foldr"⟩, 3, 9, 3, 14⟩
    let bad : DefRow := ⟨⟨[0x4D, 0xFF]⟩, ⟨.value, "main"⟩, 1, 1, 1, 5⟩
    Store.fresh.table? .defRow = some [] ∧ Store.fresh.queryOnly = false ∧
      ((Store.fresh.run ([good, bad, good].map (.insertRecord .defRow))).value.2.select
        .defRow).value = [.ok good, .ok good] := by
  intro good bad
  refine ⟨rfl, rfl, ?_⟩
  rw [rows_lossless.2.2.2 Store.fresh .defRow [] [good, bad, good] rfl rfl]
  have hgood : good.src.IsText := ⟨"Main.hie", rfl⟩
  have hbad : ¬ bad.src.IsText := by decide +kernel
  simp [Shape.paths, hgood, hbad]
  rfl

end SymbolIndex
