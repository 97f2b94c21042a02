import SymbolIndex.Log.Logged

/-! # Laws of logged computations -/
namespace SymbolIndex

instance : LawfulMonad Logged := by
  refine LawfulMonad.mk' Logged ?_ ?_ ?_
  · intro α x
    exact congrArg (Logged.mk · x.value) (List.append_nil x.events)
  · intro α β a f
    rfl
  · intro α β γ x f g
    exact congrArg (Logged.mk · (g (f x.value).value).value) (List.append_assoc ..)

namespace Logged

variable {α β : Type}

@[simp] theorem value_map (f : α → β) (x : Logged α) : (f <$> x).value = f x.value := rfl

theorem value_mapM (f : α → Logged β) (xs : List α) :
    (xs.mapM f).value = xs.map fun x => (f x).value := by
  induction xs with
  | nil => rfl
  | cons x xs ih => simp [ih]

end Logged

namespace Traced

variable {ε ε' α β : Type}

theorem outcome_adapt (f : ε → ε') (x : Traced ε α) :
    Traced.outcome (ExceptT.adapt f x) = x.outcome.mapError f := rfl

theorem events_adapt (f : ε → ε') (x : Traced ε α) :
    Traced.events (ExceptT.adapt f x) = x.events := List.append_nil x.events

theorem outcome_adapt_eq_ok_iff {f : ε → ε'} {x : Traced ε α} {a : α} :
    Traced.outcome (ExceptT.adapt f x) = .ok a ↔ x.outcome = .ok a := by
  rw [outcome_adapt]
  cases x.outcome with
  | error e => exact iff_of_false nofun nofun
  | ok b =>
    constructor
    · intro h
      cases h
      rfl
    · intro h
      cases h
      rfl

theorem outcome_adapt_eq_error_iff {f : ε → ε'} {x : Traced ε α} {e' : ε'} :
    Traced.outcome (ExceptT.adapt f x) = .error e' ↔ ∃ e, x.outcome = .error e ∧ e' = f e := by
  rw [outcome_adapt]
  cases x.outcome with
  | error e =>
    constructor
    · intro h
      cases h
      exact ⟨e, rfl, rfl⟩
    · rintro ⟨e, h, rfl⟩
      cases h
      rfl
  | ok b =>
    constructor
    · intro h
      cases h
    · rintro ⟨e, h, -⟩
      cases h

/-- What would come after a failure does not matter. -/
theorem bind_congr_outcome {x : Traced ε α} {f g : α → Traced ε β}
    (h : ∀ a, x.outcome = .ok a → f a = g a) : x >>= f = x >>= g := by
  rcases x with ⟨events, e | a⟩
  · rfl
  · have ha := h a rfl
    change ExceptT.bind _ f = ExceptT.bind _ g
    simp only [ExceptT.bind, ExceptT.mk, bind, ExceptT.bindCont, ha]

/-! ## Reports of failures -/

/-- A success reports nothing, and what a failure reports can be told from the error. -/
def ReportsBy (report : ε → List Event) (x : Traced ε α) : Prop :=
  x.events = match x.outcome with
    | .ok _ => []
    | .error e => report e

namespace ReportsBy

variable {report : ε → List Event} {x : Traced ε α}

theorem pure (a : α) : ReportsBy report (Pure.pure a : Traced ε α) := rfl

theorem throw {e : ε} (h : report e = []) : ReportsBy report (MonadExcept.throw e : Traced ε α) :=
  h.symm

theorem map (h : ReportsBy report x) (f : α → β) : ReportsBy report (f <$> x) := by
  rw [ReportsBy, events_map, outcome_map, h]
  cases x.outcome <;> rfl

/-- At the first failure the computation stops, so only one of the two has something to report. -/
theorem bind {f : α → Traced ε β} (h : ReportsBy report x)
    (hf : ∀ a, x.outcome = .ok a → ReportsBy report (f a)) : ReportsBy report (x >>= f) := by
  rw [ReportsBy, events_bind, outcome_bind, h]
  cases hx : x.outcome with
  | ok a => exact hf a hx
  | error e => exact List.append_nil _

theorem adapt {report' : ε' → List Event} {f : ε → ε'} (h : ReportsBy report x)
    (hf : ∀ e, report' (f e) = report e) : ReportsBy report' (ExceptT.adapt f x) := by
  rw [ReportsBy, events_adapt, outcome_adapt, h]
  cases x.outcome with
  | ok a => rfl
  | error e => exact (hf e).symm

end ReportsBy

end Traced

end SymbolIndex
