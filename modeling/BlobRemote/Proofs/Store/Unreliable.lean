import Mathlib
import BlobRemote.Proofs.Act
import BlobRemote.Proofs.Store.Memory

/-!
# Stores whose calls may fail

What a session guarantees in spite of failures is stated for a store that is at the mercy of a list
of *fates* (`BlobRemote.Unreliable`). Each call takes the next fate: either it fails at once, for
any reason whatever and before it does anything, or it is passed on to the store within. With a list
for every step of a run this is every way in which single calls can fail.
-/

namespace BlobRemote

/-- A store and the fates of the calls to come. -/
structure Unreliable (σ : Type) where
  /-- The store. -/
  inner : σ
  /-- What becomes of the calls to come: a failure, or nothing. A call beyond the last one does not
  fail. -/
  fates : List (Option Failure)

namespace Unreliable

variable {σ α : Type}

/-- The failure of the next call, if it is to fail. -/
def next (u : Unreliable σ) : Option Failure := u.fates.head?.join

/-- The store after a call that left the store within as `s`. -/
def advance (u : Unreliable σ) (s : σ) : Unreliable σ := ⟨s, u.fates.tail⟩

/-- A call of the store within, unless it is made to fail before. -/
def guarded (x : Act (World σ) α) : Act (World (Unreliable σ)) α := fun w =>
  match w.store.next with
  | some f => .error f ⟨w.store.advance w.store.inner, w.log⟩
  | none =>
    match x ⟨w.store.inner, w.log⟩ with
    | .ok a part => .ok a ⟨w.store.advance part.store, part.log⟩
    | .error f part => .error f ⟨w.store.advance part.store, part.log⟩

instance [Store σ] : Store (Unreliable σ) where
  get bucket key version := guarded (Store.get bucket key version)
  put bucket key data timeout := guarded (Store.put bucket key data timeout)
  delete bucket key := guarded (Store.delete bucket key)
  list bucket directory := guarded (Store.list bucket directory)
  describe u := Store.describe u.inner
  extent u := Store.extent u.inner

/-! ### Over a store in memory -/

section Memory

variable (bucket key : String) (w : World (Unreliable Memory))

/-- **A read** leaves the store as it is. -/
theorem get_apply (version : Option String) :
    Store.get bucket key version w =
      match w.store.next with
      | some f => .error f ⟨w.store.advance w.store.inner, w.log⟩
      | none =>
        match w.store.inner.find? bucket key version with
        | some r =>
          .ok (.buffered r.data, w.store.inner.told r.version)
            ⟨w.store.advance w.store.inner, w.log⟩
        | none =>
          .error (Reason.notFound bucket key).alone ⟨w.store.advance w.store.inner, w.log⟩ := by
  change guarded (Store.get bucket key version) w = _
  rw [guarded, Memory.get_apply]
  cases w.store.next with
  | some f => rfl
  | none => cases w.store.inner.find? bucket key version <;> rfl

/-- **A write** makes the next revision. -/
theorem put_apply (data : Bytes) (timeout : Option Binary64) :
    Store.put bucket key data timeout w =
      match w.store.next with
      | some f => .error f ⟨w.store.advance w.store.inner, w.log⟩
      | none =>
        .ok (w.store.inner.told (w.store.inner.nextRevision data).version)
          ⟨w.store.advance (w.store.inner.put bucket key data), w.log⟩ := by
  change guarded (Store.put bucket key data timeout) w = _
  rw [guarded, Memory.put_apply]

/-- **A deletion** drops a blob and all its versions. -/
theorem delete_apply :
    Store.delete bucket key w =
      match w.store.next with
      | some f => .error f ⟨w.store.advance w.store.inner, w.log⟩
      | none => .ok () ⟨w.store.advance (w.store.inner.delete bucket key), w.log⟩ := by
  change guarded (Store.delete bucket key) w = _
  rw [guarded, Memory.delete_apply]

/-- **A listing** leaves the store as it is. -/
theorem list_apply (directory : String) :
    Store.list bucket directory w =
      match w.store.next with
      | some f => .error f ⟨w.store.advance w.store.inner, w.log⟩
      | none =>
        .ok (w.store.inner.list bucket directory) ⟨w.store.advance w.store.inner, w.log⟩ := by
  change guarded (Store.list bucket directory) w = _
  rw [guarded, Memory.list_apply]

end Memory

end Unreliable

end BlobRemote
