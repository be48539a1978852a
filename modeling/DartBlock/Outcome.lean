import DartBlock.Fault
import DartBlock.Host

/-!
# Outcomes

The outcome of work on a host: what it yields or why it failed, the requests made in order, and
the remarks. Work is put together with `>>=`: what comes after a fault is not done, and the
requests of both parts are recorded one after the other.
-/

namespace DartBlock

/-- A result with the record of the work. -/
@[ext]
structure Outcome (α : Type) where
  /-- What the work yields. -/
  result : Except Fault α
  /-- The requests made, in order. -/
  events : List Event := []
  notes : List Note := []

namespace Outcome

variable {α β : Type}

instance : Monad Outcome where
  pure a := { result := .ok a }
  bind x k :=
    match x.result with
    | .ok a =>
      { result := (k a).result
        events := x.events ++ (k a).events
        notes := x.notes ++ (k a).notes }
    | .error f => { result := .error f, events := x.events, notes := x.notes }

def fail (f : Fault) : Outcome α := { result := .error f }

def refuse (cause : ConfigurationFault) : Outcome α := fail (.configuration cause)

def ofExcept : Except ConfigurationFault α → Outcome α
  | .ok a => pure a
  | .error cause => refuse cause

def request (e : Event) : Outcome Unit := { result := .ok (), events := [e] }

def remark (n : Note) : Outcome Unit := { result := .ok (), notes := [n] }

/-- Does `after` in any case, whether or not the work fails. -/
def andAlways (x : Outcome α) (after : Outcome Unit) : Outcome α where
  result := x.result
  events := x.events ++ after.events
  notes := x.notes ++ after.notes

@[simp] theorem result_pure (a : α) : (pure a : Outcome α).result = .ok a := rfl
@[simp] theorem events_pure (a : α) : (pure a : Outcome α).events = [] := rfl
@[simp] theorem notes_pure (a : α) : (pure a : Outcome α).notes = [] := rfl

@[simp] theorem fail_bind (f : Fault) (k : α → Outcome β) : (fail f >>= k) = fail f := rfl

@[simp] theorem result_request_bind (e : Event) (k : Unit → Outcome β) :
    (request e >>= k).result = (k ()).result := rfl

@[simp] theorem events_request_bind (e : Event) (k : Unit → Outcome β) :
    (request e >>= k).events = e :: (k ()).events := rfl

@[simp] theorem result_remark_bind (n : Note) (k : Unit → Outcome β) :
    (remark n >>= k).result = (k ()).result := rfl

@[simp] theorem events_remark_bind (n : Note) (k : Unit → Outcome β) :
    (remark n >>= k).events = (k ()).events := rfl

end Outcome

end DartBlock
