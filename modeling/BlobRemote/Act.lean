import BlobRemote.Failure
import BlobRemote.Log

/-!
# Operations

An operation changes a state and may fail (`BlobRemote.Act`). A failure does not undo anything: the
state is what it was when the operation broke off, because that is what a store is like. The
innermost state, `BlobRemote.World`, is a store together with what has been logged.
-/

namespace BlobRemote

/-- An operation on a state, which may fail and leaves a state in either case. -/
abbrev Act (s : Type) := EStateM Failure s

namespace Act

variable {s t α β ε : Type}

/-- The operation that fails at once. -/
def fail (f : Failure) : Act s α := fun st => .error f st

/-- The operation that fails at once for a reason of its own. -/
def refuse (r : Reason) : Act s α := fail r.alone

/-- A result as an operation, where `reason` says why there is none. -/
def ofExcept (reason : ε → Reason) : Except ε α → Act s α
  | .ok a => pure a
  | .error e => refuse (reason e)

/-- The operation with its failure as a result. -/
def attempt (x : Act s α) : Act s (Except Failure α) := fun st =>
  match x st with
  | .ok a st => .ok (.ok a) st
  | .error f st => .ok (.error f) st

/-- An operation on a part of the state. -/
def focus (get : t → s) (set : s → t → t) (x : Act s α) : Act t α := fun st =>
  match x (get st) with
  | .ok a part => .ok a (set part st)
  | .error f part => .error f (set part st)

/-- An operation on each member of a list in turn, the results in the same order. -/
def each (f : α → Act s β) : List α → Act s (List β)
  | [] => pure []
  | a :: rest => do
    let b ← f a
    let bs ← each f rest
    return b :: bs

end Act

/-- A store, and what has been logged, the latest first. -/
structure World (σ : Type) where
  /-- The store. -/
  store : σ
  /-- What has been logged, the latest first. -/
  log : List Event

/-- Logs an event. -/
def World.note {σ : Type} (e : Event) : Act (World σ) Unit :=
  modify fun w => { w with log := e :: w.log }

end BlobRemote
