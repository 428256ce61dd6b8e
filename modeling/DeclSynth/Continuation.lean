import DeclSynth.Event

/-!
# Continuations

A continuation has two halves. One is resumed with a value, which counts only the first
time; the other is waited for, and yields that value once. Each half may be dropped at
any moment. A wait fails if the resuming half goes away without a value; a value that
nobody waits for any more is lost, and a second one is ignored.
-/

namespace DeclSynth

/-- The waiting half. -/
inductive Waiter where
  /-- Nobody waits yet. -/
  | idle
  /-- Somebody waits for the handler of the function of this name. -/
  | waiting (origin : String)
  /-- It was dropped, or has yielded its value, or has failed. -/
  | gone
deriving DecidableEq, Repr

/-- The resuming half. -/
inductive Resumption where
  | armed
  | resumed
  | dropped
deriving DecidableEq, Repr

/-- A continuation: its two halves, and the value that is on its way. -/
structure Continuation (α : Type) where
  waiter : Waiter
  resumption : Resumption
  sent : Option α
deriving DecidableEq, Repr

/-- What a look at a wait shows. -/
inductive Poll (α : Type) where
  | ready (value : α)
  | pending
  /-- The handler of the function of this name was dropped without being called. -/
  | abandoned (origin : String)
  /-- Nobody waits. -/
  | gone
deriving DecidableEq, Repr

/-- The message of a wait that fails. -/
def Poll.abandonedMessage (origin : String) : String :=
  "`" ++ origin ++ "` dropped its completion handler without calling it"

namespace Continuation

variable {α : Type}

/-- A new continuation. -/
def fresh : Continuation α := ⟨.idle, .armed, none⟩

/-- A continuation both halves of which are gone. -/
def none : Continuation α := ⟨.gone, .dropped, Option.none⟩

/-- Whether the resuming half has been resumed; nothing if it was dropped. -/
def isResumed? (c : Continuation α) : Option Bool :=
  match c.resumption with
  | .armed => some false
  | .resumed => some true
  | .dropped => Option.none

/-- What is logged of a value that nobody waits for. -/
def lateEvent : Event := ⟨.debug, "continuation resumed after its waiter went away", []⟩

/-- What is logged of a second value. -/
def repeatedEvent : Event :=
  ⟨.warn, "completion handler called more than once; value ignored", []⟩

/-- Resumes the continuation with a value; nothing if the resuming half was dropped. -/
def resume? (c : Continuation α) (value : α) : Option (Continuation α × List Event) :=
  match c.resumption, c.waiter with
  | .dropped, _ => Option.none
  | .resumed, _ => some (c, [repeatedEvent])
  | .armed, .gone => some ({ c with resumption := .resumed }, [lateEvent])
  | .armed, _ => some ({ c with resumption := .resumed, sent := some value }, [])

/-- Looks whether the wait is over. -/
def poll (c : Continuation α) : Continuation α × Poll α :=
  match c.waiter, c.sent, c.resumption with
  | .idle, _, _ | .gone, _, _ => (c, .gone)
  | .waiting _, some value, _ => ({ c with waiter := .gone, sent := Option.none }, .ready value)
  | .waiting origin, Option.none, .dropped => ({ c with waiter := .gone }, .abandoned origin)
  | .waiting _, Option.none, _ => (c, .pending)

/-- Waits for the handler of a function, unless somebody waits already, and looks whether the
wait is over. -/
def wait (c : Continuation α) (origin : String) : Continuation α × Poll α :=
  match c.waiter with
  | .idle => poll { c with waiter := .waiting origin }
  | .waiting _ | .gone => poll c

/-- Drops the waiting half. -/
def dropWaiter (c : Continuation α) : Continuation α :=
  { c with waiter := .gone, sent := Option.none }

/-- Drops the resuming half. -/
def dropResumption (c : Continuation α) : Continuation α := { c with resumption := .dropped }

end Continuation

end DeclSynth
