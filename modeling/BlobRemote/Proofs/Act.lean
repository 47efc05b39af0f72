import Mathlib
import BlobRemote.Act

/-!
# Running operations

An operation is a function from states to results. Here is what each way of building an operation
does at a state, as one equation each, so that a statement about an operation of a session unfolds
into a statement about the call of the store in it and nothing else.
-/

namespace BlobRemote

namespace Act

variable {s t α β ε : Type}

@[simp] theorem get_apply (st : s) : (get : Act s s) st = .ok st st := rfl

@[simp] theorem set_apply (st' st : s) : (set st' : Act s PUnit) st = .ok ⟨⟩ st' := rfl

theorem bind_apply (x : Act s α) (f : α → Act s β) (st : s) :
    (x >>= f) st =
      match x st with
      | .ok a st' => f a st'
      | .error e st' => .error e st' := by
  change EStateM.bind x f st = _
  unfold EStateM.bind
  cases x st <;> rfl

/-- **What follows an operation that succeeds** starts where it ended. -/
theorem bind_apply_of_ok {x : Act s α} {f : α → Act s β} {st st' : s} {a : α}
    (h : x st = .ok a st') : (x >>= f) st = f a st' := by
  rw [bind_apply, h]

/-- An operation that succeeds is made of two that do. -/
theorem bind_eq_ok {x : Act s α} {f : α → Act s β} {st st'' : s} {b : β}
    (h : (x >>= f) st = .ok b st'') : ∃ a st', x st = .ok a st' ∧ f a st' = .ok b st'' := by
  rw [bind_apply] at h
  cases hx : x st with
  | ok a st' =>
    rw [hx] at h
    exact ⟨a, st', rfl, h⟩
  | error e st' =>
    rw [hx] at h
    cases h

theorem attempt_apply (x : Act s α) (st : s) :
    attempt x st =
      match x st with
      | .ok a st' => .ok (.ok a) st'
      | .error f st' => .ok (.error f) st' := rfl

theorem focus_apply (get : t → s) (set : s → t → t) (x : Act s α) (st : t) :
    focus get set x st =
      match x (get st) with
      | .ok a part => .ok a (set part st)
      | .error f part => .error f (set part st) := rfl

/-! ### What an operation leaves -/

/-- The state that an operation leaves, whether it succeeds or not. -/
def stateOf : EStateM.Result Failure s α → s
  | .ok _ st => st
  | .error _ st => st

/-- What is done with the result alone leaves the state. -/
theorem stateOf_bind_pure (x : Act s α) (g : α → β) (st : s) :
    stateOf ((x >>= fun a => pure (g a)) st) = stateOf (x st) := by
  rw [bind_apply]
  cases x st <;> rfl

/-- **An operation that is attempted** does not fail. -/
theorem exists_attempt_eq_ok (x : Act s α) (st : s) :
    ∃ answer, attempt x st = .ok answer (stateOf (x st)) := by
  rw [attempt_apply]
  cases x st <;> exact ⟨_, rfl⟩

/-- What an operation answers. -/
def answerOf : EStateM.Result Failure s α → Except Failure α
  | .ok a _ => .ok a
  | .error f _ => .error f

/-- Whether an operation succeeds and leaves a state that passes a check. -/
def passes (check : s → Bool) : EStateM.Result Failure s α → Bool
  | .ok _ st => check st
  | .error _ _ => false

theorem exists_of_passes {check : s → Bool} {x : EStateM.Result Failure s α}
    (h : passes check x = true) : ∃ a st, x = .ok a st ∧ check st = true := by
  cases x with
  | ok a st => exact ⟨a, st, rfl, h⟩
  | error f st => cases h

/-- **An operation leaves a part of the state as it is**, whether it succeeds or not. -/
def Leaves {γ : Type} (part : s → γ) (x : Act s α) : Prop := ∀ st, part (stateOf (x st)) = part st

namespace Leaves

variable {γ δ : Type} {part : s → γ}

theorem of_ok {x : Act s α} (h : Leaves part x) {st st' : s} {a : α} (hx : x st = .ok a st') :
    part st' = part st := by
  have := h st
  rwa [hx] at this

theorem of_error {x : Act s α} (h : Leaves part x) {st st' : s} {f : Failure}
    (hx : x st = .error f st') : part st' = part st := by
  have := h st
  rwa [hx] at this

theorem pure (a : α) : Leaves part (Pure.pure a : Act s α) := fun _ => rfl

theorem get : Leaves part (MonadState.get : Act s s) := fun _ => rfl

theorem fail (f : Failure) : Leaves part (Act.fail f : Act s α) := fun _ => rfl

theorem refuse (r : Reason) : Leaves part (Act.refuse r : Act s α) := fun _ => rfl

theorem ofExcept (reason : ε → Reason) (e : Except ε α) :
    Leaves part (Act.ofExcept reason e : Act s α) := by
  cases e with
  | ok a => exact pure a
  | error e => exact refuse _

theorem bind {x : Act s α} {f : α → Act s β} (hx : Leaves part x) (hf : ∀ a, Leaves part (f a)) :
    Leaves part (x >>= f) := by
  intro st
  rw [bind_apply]
  cases h : x st with
  | ok a st' => exact (hf a st').trans (hx.of_ok h)
  | error e st' => exact hx.of_error h

theorem attempt {x : Act s α} (hx : Leaves part x) : Leaves part (Act.attempt x) := by
  intro st
  rw [attempt_apply]
  cases h : x st with
  | ok a st' => exact hx.of_ok h
  | error e st' => exact hx.of_error h

theorem each {f : α → Act s β} (hf : ∀ a, Leaves part (f a)) (l : List α) :
    Leaves part (Act.each f l) := by
  induction l with
  | nil => exact pure []
  | cons a rest ih => exact (hf a).bind fun b => ih.bind fun bs => pure (b :: bs)

/-- An operation on a component of the state leaves what depends on no more than what it leaves of
the component. -/
theorem focus {p : t → δ} {get : s → t} {set : t → s → s} {x : Act t α} (hx : Leaves p x)
    (h : ∀ c st, p c = p (get st) → part (set c st) = part st) :
    Leaves part (Act.focus get set x) := by
  intro st
  rw [focus_apply]
  cases hr : x (get st) with
  | ok a c => exact h c st (hx.of_ok hr)
  | error e c => exact h c st (hx.of_error hr)

end Leaves

/-! ### What an operation ensures -/

/-- **What an operation ensures**, if it begins in a state as `before` says: it succeeds in a state
as `after` says of it and the result, or fails in one as `failed` says. -/
def Ensures (failed before : s → Prop) (x : Act s α) (after : α → s → Prop) : Prop :=
  ∀ st, before st →
    match x st with
    | .ok a st' => after a st'
    | .error _ st' => failed st'

/-- **An operation keeps an invariant**, whether it succeeds or not. -/
abbrev Keeps (invariant : s → Prop) (x : Act s α) : Prop :=
  Ensures invariant invariant x fun _ => invariant

namespace Ensures

variable {failed before : s → Prop} {after : α → s → Prop}

theorem of_ok {x : Act s α} (h : Ensures failed before x after) {st st' : s} {a : α}
    (hst : before st) (hx : x st = .ok a st') : after a st' := by
  have := h st hst
  rwa [hx] at this

theorem of_error {x : Act s α} (h : Ensures failed before x after) {st st' : s} {f : Failure}
    (hst : before st) (hx : x st = .error f st') : failed st' := by
  have := h st hst
  rwa [hx] at this

theorem pure {a : α} (h : ∀ st, before st → after a st) :
    Ensures failed before (Pure.pure a) after := h

theorem get {after : s → s → Prop} (h : ∀ st, before st → after st st) :
    Ensures failed before MonadState.get after := h

theorem refuse {r : Reason} (h : ∀ st, before st → failed st) :
    Ensures failed before (Act.refuse r) after := h

theorem fail {f : Failure} (h : ∀ st, before st → failed st) :
    Ensures failed before (Act.fail f) after := h

theorem of_imp {before' : s → Prop} {x : Act s α} (h : Ensures failed before' x after)
    (himp : ∀ st, before st → before' st) : Ensures failed before x after :=
  fun st hst => h st (himp st hst)

/-- **One operation after another**: what the first one ensures is where the second one begins. -/
theorem bind {x : Act s α} {f : α → Act s β} {last : β → s → Prop}
    (hx : Ensures failed before x after) (hf : ∀ a, Ensures failed (after a) (f a) last) :
    Ensures failed before (x >>= f) last := by
  intro st hst
  rw [bind_apply]
  cases h : x st with
  | ok a st' => exact hf a st' (hx.of_ok hst h)
  | error e st' => exact hx.of_error hst h

/-- An operation that is attempted ensures what it ensures, its failure being a result. -/
theorem attempt {x : Act s α} (hx : Ensures failed before x after) {last : s → Prop} :
    Ensures last before (Act.attempt x) fun answer st =>
      match answer with
      | .ok a => after a st
      | .error _ => failed st := by
  intro st hst
  rw [attempt_apply]
  cases h : x st with
  | ok a st' => exact hx.of_ok hst h
  | error e st' => exact hx.of_error hst h

/-- **What one operation keeps**, a sequence of operations of its kind keeps. -/
theorem each {f : α → Act s β} (hf : ∀ a, Keeps before (f a)) (l : List α) :
    Keeps before (Act.each f l) := by
  induction l with
  | nil => exact pure fun _ h => h
  | cons a rest ih => exact (hf a).bind fun b => ih.bind fun bs => pure fun _ h => h

end Ensures

end Act

end BlobRemote
