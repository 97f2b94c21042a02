import SymbolIndex.Log.Event

/-! # Logged computations

`Logged α` is a value with the events raised on the way to it, in order. `Traced ε α` may fail
instead, and keeps the events raised before the failure.
-/
namespace SymbolIndex

structure Logged (α : Type) where
  events : List Event
  value : α

namespace Logged

instance : Monad Logged where
  pure a := ⟨[], a⟩
  bind x f := ⟨x.events ++ (f x.value).events, (f x.value).value⟩

def emit (event : Event) : Logged Unit := ⟨[event], ()⟩

variable {α β : Type}

@[simp] theorem events_pure (a : α) : (pure a : Logged α).events = [] := rfl

@[simp] theorem value_pure (a : α) : (pure a : Logged α).value = a := rfl

@[simp] theorem events_bind (x : Logged α) (f : α → Logged β) :
    (x >>= f).events = x.events ++ (f x.value).events := rfl

@[simp] theorem value_bind (x : Logged α) (f : α → Logged β) :
    (x >>= f).value = (f x.value).value := rfl

@[simp] theorem events_emit (event : Event) : (emit event).events = [event] := rfl

end Logged

abbrev Traced (ε α : Type) := ExceptT ε Logged α

namespace Traced

variable {ε α β : Type}

def emit (event : Event) : Traced ε Unit := ExceptT.lift (Logged.emit event)

def ofExcept (x : Except ε α) : Traced ε α := ExceptT.mk (pure x)

def events (x : Traced ε α) : List Event := x.run.events

def outcome (x : Traced ε α) : Except ε α := x.run.value

@[simp] theorem outcome_pure (a : α) : (pure a : Traced ε α).outcome = .ok a := rfl

@[simp] theorem events_pure (a : α) : (pure a : Traced ε α).events = [] := rfl

@[simp] theorem outcome_throw (e : ε) : (throw e : Traced ε α).outcome = .error e := rfl

@[simp] theorem events_throw (e : ε) : (throw e : Traced ε α).events = [] := rfl

@[simp] theorem outcome_emit (event : Event) : (emit event : Traced ε Unit).outcome = .ok () := rfl

@[simp] theorem events_emit (event : Event) : (emit event : Traced ε Unit).events = [event] := rfl

@[simp] theorem outcome_ofExcept (x : Except ε α) : (ofExcept x).outcome = x := rfl

@[simp] theorem events_ofExcept (x : Except ε α) : (ofExcept x).events = [] := rfl

theorem outcome_bind (x : Traced ε α) (f : α → Traced ε β) :
    (x >>= f).outcome = x.outcome.bind fun a => (f a).outcome := by
  rcases x with ⟨events, _ | a⟩ <;> rfl

theorem events_bind (x : Traced ε α) (f : α → Traced ε β) :
    (x >>= f).events =
      x.events ++ match x.outcome with
        | .ok a => (f a).events
        | .error _ => [] := by
  rcases x with ⟨events, _ | a⟩ <;> rfl

theorem outcome_map (f : α → β) (x : Traced ε α) : (f <$> x).outcome = x.outcome.map f := by
  rcases x with ⟨events, _ | a⟩ <;> rfl

theorem events_map (f : α → β) (x : Traced ε α) : (f <$> x).events = x.events := by
  rcases x with ⟨events, _ | a⟩ <;> exact List.append_nil events

end Traced

end SymbolIndex
