import Mathlib.Data.Nat.Init
import SymbolIndex.Store.Run

/-! # The version of a store over a run

A store has the version that was last written to it with success, and a check looks at that one.
What fails changes nothing, steps about rows leave the version as it is, and steps about the version
leave all rows as they are.
-/
namespace SymbolIndex

inductive StorePart where
  | rows
  | version
  | switch
  deriving DecidableEq, Repr

namespace StoreStep

def part : StoreStep → StorePart
  | createTable _ | insertRecord _ _ | insertCells _ _ | delete _ _ | select _ | join _ => .rows
  | setVersion | checkVersion | putVersion _ | getVersion => .version
  | queryOnly _ => .switch

def writes? : StoreStep → Option Int32
  | setVersion => some Store.schemaVersion
  | putVersion version => some version
  | _ => none

def written? (step : StoreStep) : StoreAnswer → Option Int32
  | .done => step.writes?
  | _ => none

def switches? : StoreStep → Option Bool
  | queryOnly on => some on
  | _ => none

theorem writes?_of_part {step : StoreStep} (h : step.part ≠ .version) : step.writes? = none := by
  cases step <;> first | rfl | exact absurd rfl h

theorem switches?_of_part {step : StoreStep} (h : step.part ≠ .switch) : step.switches? = none := by
  cases step <;> first | rfl | exact absurd rfl h

theorem part_of_writes {step : StoreStep} {version : Int32} (h : step.writes? = some version) :
    step.part = .version := by
  by_cases hpart : step.part = .version
  · exact hpart
  · cases (writes?_of_part hpart).symm.trans h

theorem written?_of_rows {step : StoreStep} (h : step.part = .rows) (answer : StoreAnswer) :
    step.written? answer = none := by
  cases answer with
  | done => exact writes?_of_part (by rw [h]; nofun)
  | _ => rfl

end StoreStep

def StoreAnswer.isFailure : StoreAnswer → Bool
  | refused _ | failed _ | rejected _ => true
  | _ => false

namespace Store

def answers (store : Store) (steps : List StoreStep) : List StoreAnswer := (store.run steps).value.1

def after (store : Store) (steps : List StoreStep) : Store := (store.run steps).value.2

/-- The versions that a run has written, in order. -/
def written (store : Store) (steps : List StoreStep) : List Int32 :=
  (steps.zip (store.answers steps)).filterMap fun e => e.1.written? e.2

/-- The version written last, or the one that was there before the run. -/
def lastVersion (store : Store) (steps : List StoreStep) : Int32 :=
  (store.written steps).getLast?.getD store.version

def switchedOn (store : Store) (steps : List StoreStep) : Bool :=
  (steps.filterMap StoreStep.switches?).getLast?.getD store.queryOnly

/-- Whatever the steps from place `i` up to place `j` write is this version. -/
def WritesOnly (store : Store) (steps : List StoreStep) (version : Int32) (i j : Nat) : Prop :=
  ∀ k, i ≤ k → k < j → ∀ (step : StoreStep) (answer : StoreAnswer) (other : Int32),
    steps[k]? = some step → (store.answers steps)[k]? = some answer →
    step.written? answer = some other → other = version

/-! ## One step -/

/-- What one step answers and does, a constructor for each kind of step and outcome. -/
inductive Moved (store : Store) : StoreStep → StoreAnswer → Store → Prop where
  | rows {step : StoreStep} {answer : StoreAnswer} {tables : List (Shape × List Entity)}
    (hpart : step.part = .rows) (hfailed : answer.isFailure = true → tables = store.tables) :
    Moved store step answer { store with tables }
  | wrote {step : StoreStep} {version : Int32} (hwrites : step.writes? = some version)
    (hopen : store.queryOnly = false) : Moved store step .done { store with version }
  | setRefused (hclosed : store.queryOnly = true) :
    Moved store .setVersion (.rejected (.storage .readOnly)) store
  | putRefused {version : Int32} (hclosed : store.queryOnly = true) :
    Moved store (.putVersion version) (.failed .readOnly) store
  | agrees (hversion : store.version = schemaVersion) : Moved store .checkVersion .done store
  | differs (hversion : store.version ≠ schemaVersion) :
    Moved store .checkVersion (.rejected (.incompatible schemaVersion store.version)) store
  | told : Moved store .getVersion (.version store.version) store
  | switched {on : Bool} : Moved store (.queryOnly on) .done { store with queryOnly := on }

theorem Moved.unchanged {store : Store} {step : StoreStep} (hpart : step.part = .rows)
    (answer : StoreAnswer) : Moved store step answer store := by
  have h : Moved store step answer { store with tables := store.tables } :=
    .rows hpart fun _ => rfl
  exact h

theorem moved_insertAnswer {store : Store} {s : Shape} {cells : List Cell} {step : StoreStep}
    (hpart : step.part = .rows) :
    Moved store step (store.insertAnswer s cells).1 (store.insertAnswer s cells).2 := by
  unfold insertAnswer insert
  cases store.table? s with
  | none => exact .unchanged hpart _
  | some rows =>
    by_cases hclosed : store.queryOnly = true
    · simp only [if_pos hclosed]
      exact .unchanged hpart _
    · simp only [if_neg hclosed]
      exact .rows hpart nofun

theorem value_setVersion (store : Store) :
    (store.step .setVersion).value =
      if store.queryOnly then (.rejected (.storage .readOnly), store)
      else (.done, { store with version := schemaVersion }) := by
  obtain ⟨version, queryOnly, tables⟩ := store
  cases queryOnly <;> rfl

theorem outcome_checkSchemaVersion (store : Store) :
    (checkSchemaVersion (.ok store)).outcome =
      if store.version = schemaVersion then .ok ()
      else .error (.incompatible schemaVersion store.version) := by
  have hopen : (Except.ok store : Except StoreFault Store).mapError SchemaError.storage =
      .ok store := rfl
  rw [checkSchemaVersion, hopen]
  by_cases h : store.version = schemaVersion
  · simp [Traced.outcome_bind, Except.bind, h]
  · simp [Traced.outcome_bind, Except.bind, h]

theorem value_checkVersion (store : Store) :
    (store.step .checkVersion).value =
      (if store.version = schemaVersion then .done
        else .rejected (.incompatible schemaVersion store.version), store) := by
  have houtcome : (checkSchemaVersion (.ok store)).run.value = _ := outcome_checkSchemaVersion store
  rw [step, Logged.value_bind, houtcome]
  by_cases h : store.version = schemaVersion
  · rw [if_pos h, if_pos h]
    rfl
  · rw [if_neg h, if_neg h]
    rfl

theorem moved_step (store : Store) (step : StoreStep) :
    Moved store step (store.step step).value.1 (store.step step).value.2 := by
  cases step with
  | createTable s =>
    rw [Store.step, createTable]
    by_cases htable : (store.table? s).isSome
    · rw [if_pos htable]
      exact .unchanged rfl _
    rw [if_neg htable]
    by_cases hclosed : store.queryOnly = true
    · rw [if_pos hclosed]
      exact .unchanged rfl _
    · rw [if_neg hclosed]
      exact .rows rfl nofun
  | insertRecord s r =>
    rw [Store.step]
    cases s.write r with
    | error e => exact .unchanged rfl _
    | ok cells => exact moved_insertAnswer rfl
  | insertCells s cells => exact moved_insertAnswer rfl
  | delete s rowid =>
    rw [Store.step, delete]
    cases store.table? s with
    | none => exact .unchanged rfl _
    | some rows =>
      by_cases hclosed : store.queryOnly = true
      · simp only [if_pos hclosed]
        exact .unchanged rfl _
      · simp only [if_neg hclosed]
        exact .rows rfl nofun
  | select s => exact .unchanged rfl _
  | join s => exact .unchanged rfl _
  | setVersion =>
    rw [value_setVersion]
    by_cases hclosed : store.queryOnly = true
    · rw [if_pos hclosed]
      exact .setRefused hclosed
    · rw [if_neg hclosed]
      exact .wrote rfl (Bool.eq_false_iff.2 hclosed)
  | checkVersion =>
    rw [value_checkVersion]
    by_cases hversion : store.version = schemaVersion
    · rw [if_pos hversion]
      exact .agrees hversion
    · rw [if_neg hversion]
      exact .differs hversion
  | putVersion version =>
    rw [Store.step, putVersion]
    by_cases hclosed : store.queryOnly = true
    · rw [if_pos hclosed]
      exact .putRefused hclosed
    · rw [if_neg hclosed]
      exact .wrote rfl (Bool.eq_false_iff.2 hclosed)
  | getVersion => exact .told
  | queryOnly on => exact .switched

namespace Moved

variable {store next : Store} {step : StoreStep} {answer : StoreAnswer}

theorem version_eq (h : Moved store step answer next) :
    next.version = (step.written? answer).getD store.version := by
  cases h with
  | rows hpart => rw [StoreStep.written?_of_rows hpart, Option.getD_none]
  | wrote hwrites => rw [StoreStep.written?, hwrites, Option.getD_some]
  | _ => rfl

theorem queryOnly_eq (h : Moved store step answer next) :
    next.queryOnly = step.switches?.getD store.queryOnly := by
  cases h with
  | rows hpart => rw [StoreStep.switches?_of_part (by rw [hpart]; nofun), Option.getD_none]
  | wrote hwrites =>
    rw [StoreStep.switches?_of_part (by rw [StoreStep.part_of_writes hwrites]; nofun),
      Option.getD_none]
  | _ => rfl

theorem tables_eq (h : Moved store step answer next) (hpart : step.part ≠ .rows) :
    next.tables = store.tables := by
  cases h with
  | rows hrows => exact absurd hrows hpart
  | _ => rfl

theorem eq_of_failure (h : Moved store step answer next) (hfailure : answer.isFailure = true) :
    next = store := by
  cases h with
  | rows _ hfailed => rw [hfailed hfailure]
  | wrote | agrees | told | switched => cases hfailure
  | _ => rfl

theorem of_setVersion (h : Moved store .setVersion answer next) :
    store.queryOnly = true ∧ answer = .rejected (.storage .readOnly) ∧ next = store ∨
      store.queryOnly = false ∧ answer = .done ∧ next.version = schemaVersion := by
  cases h with
  | rows hpart => cases hpart
  | wrote hwrites hopen =>
    cases hwrites
    exact Or.inr ⟨hopen, rfl, rfl⟩
  | setRefused hclosed => exact Or.inl ⟨hclosed, rfl, rfl⟩

theorem of_checkVersion (h : Moved store .checkVersion answer next) :
    answer = (if store.version = schemaVersion then .done
      else .rejected (.incompatible schemaVersion store.version)) ∧ next = store := by
  cases h with
  | rows hpart => cases hpart
  | wrote hwrites => cases hwrites
  | agrees hversion => exact ⟨(if_pos hversion).symm, rfl⟩
  | differs hversion => exact ⟨(if_neg hversion).symm, rfl⟩

end Moved

/-! ## A run -/

variable {store : Store} {steps : List StoreStep} {step : StoreStep} {answer : StoreAnswer}
  {i j : Nat}

theorem answers_cons (store : Store) (step : StoreStep) (steps : List StoreStep) :
    store.answers (step :: steps) =
      (store.step step).value.1 :: (store.step step).value.2.answers steps := rfl

theorem after_cons (store : Store) (step : StoreStep) (steps : List StoreStep) :
    store.after (step :: steps) = (store.step step).value.2.after steps := rfl

theorem written_cons (store : Store) (step : StoreStep) (steps : List StoreStep) :
    store.written (step :: steps) =
      (step.written? (store.step step).value.1).toList ++
        (store.step step).value.2.written steps := by
  rw [written, answers_cons, List.zip_cons_cons, List.filterMap_cons]
  cases step.written? (store.step step).value.1 <;> rfl

theorem version_after (store : Store) (steps : List StoreStep) :
    (store.after steps).version = store.lastVersion steps := by
  induction steps generalizing store with
  | nil => rfl
  | cons step steps ih =>
    have hstep := (moved_step store step).version_eq
    rw [after_cons, ih, lastVersion, lastVersion, hstep, written_cons, List.getLast?_append]
    cases ((store.step step).value.2.written steps).getLast? with
    | some version => rfl
    | none => cases step.written? (store.step step).value.1 <;> rfl

theorem queryOnly_after (store : Store) (steps : List StoreStep) :
    (store.after steps).queryOnly = store.switchedOn steps := by
  induction steps generalizing store with
  | nil => rfl
  | cons step steps ih =>
    have hstep := (moved_step store step).queryOnly_eq
    rw [after_cons, ih, switchedOn, switchedOn, hstep, List.filterMap_cons]
    cases step.switches? with
    | none => rfl
    | some on =>
      rw [List.getLast?_cons]
      rfl

/-- Each step of a run moves the store from where the steps before it have led. -/
theorem moved_at (store : Store) (h : steps[i]? = some step) :
    ∃ answer, (store.answers steps)[i]? = some answer ∧
      Moved (store.after (steps.take i)) step answer (store.after (steps.take (i + 1))) := by
  induction steps generalizing store i with
  | nil => cases h
  | cons first steps ih =>
    cases i with
    | zero =>
      cases h
      exact ⟨_, rfl, moved_step store step⟩
    | succ i => exact ih _ h

/-- A run that has ended stays where it is. -/
theorem after_take_succ_of_end (store : Store) (h : steps[i]? = none) :
    store.after (steps.take (i + 1)) = store.after (steps.take i) := by
  have hend := List.getElem?_eq_none_iff.1 h
  rw [List.take_of_length_le hend, List.take_of_length_le (Nat.le_succ_of_le hend)]

/-- As long as no other version is written, the version stays. -/
theorem version_stays {version : Int32} (hij : i ≤ j)
    (hversion : (store.after (steps.take i)).version = version)
    (hsame : store.WritesOnly steps version i j) :
    (store.after (steps.take j)).version = version := by
  induction j, hij using Nat.le_induction with
  | base => exact hversion
  | succ j hij ih =>
    have hbefore : (store.after (steps.take j)).version = version := by
      apply ih
      intro k hik hkj
      exact hsame k hik (Nat.lt_succ_of_lt hkj)
    cases hstep : steps[j]? with
    | none => rwa [after_take_succ_of_end store hstep]
    | some step =>
      obtain ⟨answer, hanswer, hmoved⟩ := moved_at store hstep
      rw [hmoved.version_eq]
      cases hwritten : step.written? answer with
      | none => exact hbefore
      | some other =>
        have hother : other = version :=
          hsame j hij (Nat.lt_succ_self j) step answer other hstep hanswer hwritten
        exact hother

theorem answer_check (h : steps[i]? = some .checkVersion) : (store.answers steps)[i]? =
    some (if store.lastVersion (steps.take i) = schemaVersion then .done
      else .rejected (.incompatible schemaVersion (store.lastVersion (steps.take i)))) := by
  obtain ⟨answer, hanswer, hmoved⟩ := moved_at store h
  rw [hanswer, hmoved.of_checkVersion.1, version_after]

theorem after_check (h : steps[i]? = some .checkVersion) :
    store.after (steps.take (i + 1)) = store.after (steps.take i) := by
  obtain ⟨_, _, hmoved⟩ := moved_at store h
  exact hmoved.of_checkVersion.2

theorem set_refused (h : steps[i]? = some .setVersion)
    (hclosed : store.switchedOn (steps.take i) = true) :
    (store.answers steps)[i]? = some (.rejected (.storage .readOnly)) ∧
      store.after (steps.take (i + 1)) = store.after (steps.take i) := by
  obtain ⟨answer, hanswer, hmoved⟩ := moved_at store h
  rw [← queryOnly_after] at hclosed
  rcases hmoved.of_setVersion with ⟨_, rfl, hnext⟩ | ⟨hopen, _, _⟩
  · exact ⟨hanswer, hnext⟩
  · rw [hclosed] at hopen
    cases hopen

theorem set_done (h : steps[i]? = some .setVersion)
    (hopen : store.switchedOn (steps.take i) = false) :
    (store.answers steps)[i]? = some .done ∧
      (store.after (steps.take (i + 1))).version = schemaVersion := by
  obtain ⟨answer, hanswer, hmoved⟩ := moved_at store h
  rw [← queryOnly_after] at hopen
  rcases hmoved.of_setVersion with ⟨hclosed, _, _⟩ | ⟨_, rfl, hversion⟩
  · rw [hopen] at hclosed
    cases hclosed
  · exact ⟨hanswer, hversion⟩

theorem check_after_set (hij : i < j) (hset : steps[i]? = some .setVersion)
    (hdone : (store.answers steps)[i]? = some .done)
    (hsame : store.WritesOnly steps schemaVersion (i + 1) j)
    (hcheck : steps[j]? = some .checkVersion) : (store.answers steps)[j]? = some .done := by
  have hstamped : (store.after (steps.take (i + 1))).version = schemaVersion := by
    cases hswitch : store.switchedOn (steps.take i) with
    | true => cases hdone.symm.trans (set_refused hset hswitch).1
    | false => exact (set_done hset hswitch).2
  have hversion := version_stays hij hstamped hsame
  rw [version_after] at hversion
  rw [answer_check hcheck, if_pos hversion]

theorem after_of_failure (hanswer : (store.answers steps)[i]? = some answer)
    (hfailure : answer.isFailure = true) :
    store.after (steps.take (i + 1)) = store.after (steps.take i) := by
  cases hstep : steps[i]? with
  | none => exact after_take_succ_of_end store hstep
  | some step =>
    obtain ⟨other, hother, hmoved⟩ := moved_at store hstep
    cases hanswer.symm.trans hother
    exact hmoved.eq_of_failure hfailure

theorem version_of_rows (h : steps[i]? = some step) (hpart : step.part = .rows) :
    (store.after (steps.take (i + 1))).version = (store.after (steps.take i)).version := by
  obtain ⟨answer, _, hmoved⟩ := moved_at store h
  rw [hmoved.version_eq, StoreStep.written?_of_rows hpart, Option.getD_none]

theorem tables_of_version (h : steps[i]? = some step) (hpart : step.part = .version) :
    (store.after (steps.take (i + 1))).tables = (store.after (steps.take i)).tables := by
  obtain ⟨_, _, hmoved⟩ := moved_at store h
  exact hmoved.tables_eq (by rw [hpart]; nofun)

structure KeepsVersion (store : Store) (steps : List StoreStep) : Prop where
  checked : ∀ i : Nat, steps[i]? = some .checkVersion → (store.answers steps)[i]? =
    some (if store.lastVersion (steps.take i) = schemaVersion then .done
      else .rejected (.incompatible schemaVersion (store.lastVersion (steps.take i))))
  refused : ∀ i : Nat, steps[i]? = some .setVersion → store.switchedOn (steps.take i) = true →
    (store.answers steps)[i]? = some (.rejected (.storage .readOnly)) ∧
      store.after (steps.take (i + 1)) = store.after (steps.take i)
  stamped : ∀ i : Nat, steps[i]? = some .setVersion → store.switchedOn (steps.take i) = false →
    (store.answers steps)[i]? = some .done ∧
      (store.after (steps.take (i + 1))).version = schemaVersion
  lasting : ∀ i j : Nat, i < j → steps[i]? = some .setVersion →
    (store.answers steps)[i]? = some .done →
    store.WritesOnly steps schemaVersion (i + 1) j → steps[j]? = some .checkVersion →
    (store.answers steps)[j]? = some .done
  failed : ∀ (i : Nat) (answer : StoreAnswer), (store.answers steps)[i]? = some answer →
    answer.isFailure = true →
    store.after (steps.take (i + 1)) = store.after (steps.take i)
  looked : ∀ i : Nat, steps[i]? = some .checkVersion →
    store.after (steps.take (i + 1)) = store.after (steps.take i)
  rows : ∀ (i : Nat) (step : StoreStep), steps[i]? = some step → step.part = .rows →
    (store.after (steps.take (i + 1))).version = (store.after (steps.take i)).version
  version : ∀ (i : Nat) (step : StoreStep), steps[i]? = some step → step.part = .version →
    (store.after (steps.take (i + 1))).tables = (store.after (steps.take i)).tables

/-- Over every run a check looks at the version written last, a store that forbids changes is left
alone, and neither rows nor the version are touched by steps about the other. -/
theorem version_follows_writes : (fresh.version = 0 ∧ empty.version = 0) ∧
    ∀ (store : Store) (steps : List StoreStep), KeepsVersion store steps := by
  refine ⟨⟨rfl, rfl⟩, fun store steps => ?_⟩
  exact {
    checked := fun _ => answer_check
    refused := fun _ => set_refused
    stamped := fun _ => set_done
    lasting := fun _ _ => check_after_set
    failed := fun _ _ => after_of_failure
    looked := fun _ => after_check
    rows := fun _ _ => version_of_rows
    version := fun _ _ => tables_of_version }

/-- The version is refused while the store forbids changes, and written when it does not; the row
that comes in between leaves it as it is, and another version is found by the next check. -/
theorem version_follows_writes_switched :
    let steps : List StoreStep := [.queryOnly true, .setVersion, .queryOnly false, .setVersion,
      .insertCells .typeName [.null, .null, .null], .checkVersion, .putVersion 7, .checkVersion]
    let answers := fresh.answers steps
    answers[1]? = some (.rejected (.storage .readOnly)) ∧
      (fresh.after (steps.take 2)).version = 0 ∧
      answers[3]? = some .done ∧ (fresh.after (steps.take 4)).version = 1 ∧
      (fresh.after (steps.take 5)).version = 1 ∧
      answers[5]? = some .done ∧ answers[7]? = some (.rejected (.incompatible 1 7)) := by
  intro steps answers
  have hkeeps := version_follows_writes.2 fresh steps
  obtain ⟨hrefused, hleft⟩ := hkeeps.refused 1 rfl rfl
  obtain ⟨hdone, hstamped⟩ := hkeeps.stamped 3 rfl rfl
  have hrows := hkeeps.rows 4 _ rfl rfl
  refine ⟨hrefused, ?_, hdone, hstamped, hrows.trans hstamped, ?_, hkeeps.checked 7 rfl⟩
  · rw [hleft]
    rfl
  · refine hkeeps.lasting 3 5 (by decide) rfl hdone ?_ rfl
    -- Only the inserted row lies between the two, and it writes no version.
    intro k hlow hhigh step answer other hstep hanswer hwritten
    obtain rfl : k = 4 := by omega
    cases hstep
    rw [StoreStep.written?_of_rows rfl] at hwritten
    cases hwritten

end Store

end SymbolIndex
