import BlockHeap.Event
import BlockHeap.Fault

/-!
# Traced computations

A `Traced α` is the whole of what a step can show: the events it reported, in order, and either a
result or the fault that ended it.  The events before a fault are kept.

The log never influences a result: `outcome_bind` computes the outcome of a sequence from the
outcomes of its parts alone, so statements about results need not mention events.
-/

namespace BlockHeap

/-- The events of a computation in the order in which they were reported, and its result, or the
fault that ended it. -/
structure Traced (α : Type) where
  events : List Event
  outcome : Except Fault α

namespace Traced

variable {α β : Type}

/-- Runs the second computation on the result of the first, if there is one. -/
def andThen (x : Traced α) (f : α → Traced β) : Traced β :=
  match x with
  | ⟨events, .ok a⟩ =>
    match f a with
    | ⟨more, outcome⟩ => ⟨events ++ more, outcome⟩
  | ⟨events, .error fault⟩ => ⟨events, .error fault⟩

instance : Monad Traced where
  pure a := ⟨[], .ok a⟩
  bind := andThen

/-- A computation that reports nothing. -/
def lift (x : Except Fault α) : Traced α := ⟨[], x⟩

instance : MonadLift (Except Fault) Traced where
  monadLift := lift

/-- Reports one event. -/
def emit (event : Event) : Traced Unit := ⟨[event], .ok ()⟩

/-- Reports events in order. -/
def emitAll (events : List Event) : Traced Unit := ⟨events, .ok ()⟩

@[simp] theorem outcome_pure (a : α) : (pure a : Traced α).outcome = .ok a := rfl

@[simp] theorem outcome_lift (x : Except Fault α) : (lift x).outcome = x := rfl

@[simp] theorem outcome_liftM (x : Except Fault α) : (liftM x : Traced α).outcome = x := rfl

@[simp] theorem outcome_emit (event : Event) : (emit event).outcome = .ok () := rfl

@[simp] theorem outcome_emitAll (events : List Event) : (emitAll events).outcome = .ok () := rfl

/-- What a sequence comes to depends on what its parts come to, and not on any event. -/
@[simp] theorem outcome_bind (x : Traced α) (f : α → Traced β) :
    (x >>= f).outcome = x.outcome >>= fun a => (f a).outcome := by
  obtain ⟨events, _ | _⟩ := x <;> rfl

instance : LawfulMonad Traced := LawfulMonad.mk' Traced
  (by rintro α ⟨events, _ | a⟩ <;> simp [Functor.map, andThen])
  (by intros; simp [bind, pure, andThen])
  (by
    rintro α β γ ⟨events, _ | a⟩ f g
    · simp [bind, andThen]
    · rcases hf : f a with ⟨more, _ | b⟩ <;> simp [bind, andThen, hf])

/-- Nor does what is made of a result. -/
@[simp] theorem outcome_map (f : α → β) (x : Traced α) : (f <$> x).outcome = x.outcome.map f := by
  obtain ⟨events, _ | a⟩ := x <;> rfl

@[simp] theorem events_pure (a : α) : (pure a : Traced α).events = [] := rfl

@[simp] theorem events_liftM (x : Except Fault α) : (liftM x : Traced α).events = [] := rfl

@[simp] theorem events_emit (event : Event) : (emit event).events = [event] := rfl

@[simp] theorem events_emitAll (events : List Event) : (emitAll events).events = events := rfl

@[simp] theorem events_map (f : α → β) (x : Traced α) : (f <$> x).events = x.events := by
  obtain ⟨events, _ | a⟩ := x
  · rfl
  · exact List.append_nil events

/-- What follows on a result is logged after it. -/
theorem events_bind_of_ok {x : Traced α} {a : α} (h : x.outcome = .ok a) (f : α → Traced β) :
    (x >>= f).events = x.events ++ (f a).events := by
  obtain ⟨events, outcome⟩ := x
  cases h
  rfl

end Traced

end BlockHeap
