import CoverageGate.Fault
import CoverageGate.Log.Event
import CoverageGate.Message

/-!
# Computations with a trace

A `Traced α` is a result, a value or a fault, together with all that was noted for the log and
printed on the way, in order.  After a fault nothing more is added.

* `items_bind_ok`, `items_bind_error`: how the traces of two steps join; `messages_bind_ok`,
  `messages_bind_error`: how what they print does; `events_bind_ok`, `events_bind_error`: how what
  they note does.
* `LawfulMonad Traced`: steps can be grouped in any way.
-/

namespace CoverageGate

/-- One thing that a computation leaves behind. -/
inductive Item where
  | noted (event : Log.Event)
  | printed (message : Message)

/-- A result and the trace of how it came about. -/
@[ext]
structure Traced (α : Type) where
  items : List Item
  result : Except Fault α

namespace Traced

variable {α β : Type}

/-- A value, with nothing left behind. -/
protected def pure (a : α) : Traced α := ⟨[], .ok a⟩

/-- Goes on with the value; a fault ends the computation. -/
protected def bind (x : Traced α) (f : α → Traced β) : Traced β :=
  match x.result with
  | .ok a => ⟨x.items ++ (f a).items, (f a).result⟩
  | .error fault => ⟨x.items, .error fault⟩

instance : Monad Traced where
  pure := Traced.pure
  bind := Traced.bind

/-- Ends with a fault. -/
def fail (fault : Fault) : Traced α := ⟨[], .error fault⟩

/-- Goes on with a result that left no trace. -/
def ofExcept (result : Except Fault α) : Traced α := ⟨[], result⟩

/-- Notes an event for the log. -/
def note (event : Log.Event) : Traced Unit := ⟨[.noted event], .ok ()⟩

/-- Prints a message. -/
def print (message : Message) : Traced Unit := ⟨[.printed message], .ok ()⟩

/-- The messages that were printed, in order. -/
def messages (x : Traced α) : List Message :=
  x.items.filterMap fun | .printed message => some message | .noted _ => none

/-- The events that were noted, in order. -/
def events (x : Traced α) : List Log.Event :=
  x.items.filterMap fun | .noted event => some event | .printed _ => none

/-! ## Laws -/

@[simp] theorem items_pure (a : α) : (pure a : Traced α).items = [] := rfl

@[simp] theorem result_pure (a : α) : (pure a : Traced α).result = .ok a := rfl

theorem items_bind_ok {x : Traced α} {a : α} (f : α → Traced β) (h : x.result = .ok a) :
    (x >>= f).items = x.items ++ (f a).items := by
  show (Traced.bind x f).items = _
  simp [Traced.bind, h]

theorem items_bind_error {x : Traced α} {fault : Fault} (f : α → Traced β)
    (h : x.result = .error fault) : (x >>= f).items = x.items := by
  show (Traced.bind x f).items = _
  simp [Traced.bind, h]

/-- The result of two steps forgets the traces. -/
@[simp] theorem result_bind (x : Traced α) (f : α → Traced β) :
    (x >>= f).result = x.result.bind fun a => (f a).result := by
  show (Traced.bind x f).result = _
  cases h : x.result <;> simp [Traced.bind, h, Except.bind]

@[simp] theorem result_fail (fault : Fault) : (fail fault : Traced α).result = .error fault := rfl

@[simp] theorem result_ofExcept (result : Except Fault α) : (ofExcept result).result = result := rfl

@[simp] theorem result_note (event : Log.Event) : (note event).result = .ok () := rfl

@[simp] theorem result_print (message : Message) : (print message).result = .ok () := rfl

@[simp] theorem messages_print (message : Message) : (print message).messages = [message] := rfl

theorem messages_bind_ok {x : Traced α} {a : α} (f : α → Traced β) (h : x.result = .ok a) :
    (x >>= f).messages = x.messages ++ (f a).messages := by
  rw [messages, items_bind_ok f h, List.filterMap_append]
  rfl

theorem messages_bind_error {x : Traced α} {fault : Fault} (f : α → Traced β)
    (h : x.result = .error fault) : (x >>= f).messages = x.messages := by
  rw [messages, items_bind_error f h]
  rfl

theorem events_bind_ok {x : Traced α} {a : α} (f : α → Traced β) (h : x.result = .ok a) :
    (x >>= f).events = x.events ++ (f a).events := by
  rw [events, items_bind_ok f h, List.filterMap_append]
  rfl

theorem events_bind_error {x : Traced α} {fault : Fault} (f : α → Traced β)
    (h : x.result = .error fault) : (x >>= f).events = x.events := by
  rw [events, items_bind_error f h]
  rfl

instance : LawfulMonad Traced := LawfulMonad.mk' Traced
  (by
    intro α x
    show Traced.bind x (fun a => Traced.pure a) = x
    cases x with
    | mk items result => cases result <;> simp [Traced.bind, Traced.pure])
  (by
    intro α β a f
    show Traced.bind (Traced.pure a) f = f a
    simp [Traced.bind, Traced.pure])
  (by
    intro α β γ x f g
    show Traced.bind (Traced.bind x f) g = Traced.bind x fun a => Traced.bind (f a) g
    cases x with
    | mk items result =>
      cases result with
      | error fault => simp [Traced.bind]
      | ok a => cases h : (f a).result <;> simp [Traced.bind, h])

@[simp] theorem result_map (f : α → β) (x : Traced α) : (f <$> x).result = x.result.map f := by
  rw [← bind_pure_comp, result_bind]
  cases x.result <;> rfl

end Traced

end CoverageGate
