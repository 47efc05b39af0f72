import Mathlib
import BlobRemote.Proofs.Session.Reading

/-!
# Stores that are watched

Which keys are touched, how often a blob is written and what was handed to the store cannot be told
from how the store ends. All this is stated for a store of any kind that is watched
(`BlobRemote.Watched`): every call is kept with what was handed over and what was answered, failures
included. Watching changes no answer. What others do to the store in between
(`BlobRemote.Watched.elsewhere`) is not among the calls.
-/

namespace BlobRemote

/-- A call of a store, and what it answered. -/
inductive Demand where
  /-- A blob was to be opened, in a version if one is given. -/
  | get (bucket key : String) (version : Option String)
    (answer : Except Failure (Stream × Option String))
  /-- A blob was to be stored. -/
  | put (bucket key : String) (data : Bytes) (timeout : Option Binary64)
    (answer : Except Failure (Option String))
  /-- A blob was to be deleted. -/
  | delete (bucket key : String) (answer : Except Failure Unit)
  /-- The keys below a directory were to be listed. -/
  | list (bucket directory : String) (answer : Except Failure (List String))

namespace Demand

/-- The key that was handed to the store, or the directory of a listing. -/
def key : Demand → String
  | get _ key .. => key
  | put _ key .. => key
  | delete _ key _ => key
  | list _ directory _ => directory

/-- Whether a blob was to be stored or deleted. -/
def Changes : Demand → Prop
  | get .. => False
  | put .. => True
  | delete .. => True
  | list .. => False

instance : DecidablePred Changes
  | get .. => inferInstanceAs (Decidable False)
  | put .. => inferInstanceAs (Decidable True)
  | delete .. => inferInstanceAs (Decidable True)
  | list .. => inferInstanceAs (Decidable False)

end Demand

/-- A store and the calls of it, the latest first. -/
structure Watched (σ : Type) where
  /-- The store. -/
  inner : σ
  /-- The calls, the latest first. -/
  calls : List Demand

namespace Watched

variable {σ α : Type}

/-- A call of the store within, which is kept with its answer. -/
def noting (demand : Except Failure α → Demand) (x : Act (World σ) α) :
    Act (World (Watched σ)) α := fun w =>
  match x ⟨w.store.inner, w.log⟩ with
  | .ok a part => .ok a ⟨⟨part.store, demand (.ok a) :: w.store.calls⟩, part.log⟩
  | .error f part => .error f ⟨⟨part.store, demand (.error f) :: w.store.calls⟩, part.log⟩

instance [Store σ] : Store (Watched σ) where
  get bucket key version := noting (.get bucket key version) (Store.get bucket key version)
  put bucket key data timeout :=
    noting (.put bucket key data timeout) (Store.put bucket key data timeout)
  delete bucket key := noting (.delete bucket key) (Store.delete bucket key)
  list bucket directory := noting (.list bucket directory) (Store.list bucket directory)
  describe w := Store.describe w.inner
  extent w := Store.extent w.inner

/-- What others do to the store, which is not a call that is watched. -/
def elsewhere (f : World σ → World σ) (w : World (Watched σ)) : World (Watched σ) :=
  let part := f ⟨w.store.inner, w.log⟩
  ⟨⟨part.store, w.store.calls⟩, part.log⟩

/-! ### Calls -/

/-- **Every call is kept** with its answer. -/
theorem calls_noting (demand : Except Failure α → Demand) (x : Act (World σ) α)
    (w : World (Watched σ)) :
    (Act.stateOf (noting demand x w)).store.calls =
      demand (Act.answerOf (noting demand x w)) :: w.store.calls := by
  unfold noting
  cases x ⟨w.store.inner, w.log⟩ <;> rfl

variable [Store σ] (bucket key : String) (w : World (Watched σ))

theorem calls_get (version : Option String) :
    (Act.stateOf (Store.get bucket key version w)).store.calls =
      .get bucket key version (Act.answerOf (Store.get bucket key version w)) :: w.store.calls :=
  calls_noting ..

theorem calls_put (data : Bytes) (timeout : Option Binary64) :
    (Act.stateOf (Store.put bucket key data timeout w)).store.calls =
      .put bucket key data timeout (Act.answerOf (Store.put bucket key data timeout w)) ::
        w.store.calls :=
  calls_noting ..

theorem calls_list (directory : String) :
    (Act.stateOf (Store.list bucket directory w)).store.calls =
      .list bucket directory (Act.answerOf (Store.list bucket directory w)) :: w.store.calls :=
  calls_noting ..

/-- The calls that were to change the store. -/
def changes (w : World (Watched σ)) : List Demand := w.store.calls.filter (·.Changes)

omit [Store σ] in
theorem leaves_noting (demand : Except Failure α → Demand) (x : Act (World σ) α)
    (h : ∀ answer, ¬ (demand answer).Changes) : Act.Leaves changes (noting demand x) := by
  intro w
  rw [changes, calls_noting, List.filter_cons_of_neg (by simpa using h _)]
  rfl

/-- Reads and listings are no calls that change the store. -/
theorem readsLeave_changes : ReadsLeave (changes : World (Watched σ) → List Demand) where
  get bucket key version := leaves_noting (.get bucket key version) _ fun _ h => h
  list bucket directory := leaves_noting (.list bucket directory) _ fun _ h => h
  note _ _ := rfl

end Watched

end BlobRemote
