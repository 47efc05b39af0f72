import Mathlib
import BlobRemote.Manifest
import BlobRemote.Proofs.Act

/-!
# Stores that keep a record

What a session asks of its store cannot be told from the state that it ends in. It is stated for a
store of any kind that keeps a record (`BlobRemote.Recorded`): every read with the version that it
asks for, whether it is answered or not, and every write and deletion that succeeds, a write with
the version that the store told.

A record says which version each key is left with (`BlobRemote.Recorded.leaves`): the last one that
the store told of the key since it was deleted, or else the one that the key had before.
-/

namespace BlobRemote

/-- What a store was asked for. -/
inductive Deed where
  /-- A blob was to be read, in a version if one is given. -/
  | read (bucket key : String) (version : Option String)
  /-- A blob was stored, and the store told this version of it or none. -/
  | stored (bucket key : String) (version : Option String)
  /-- A blob was deleted. -/
  | deleted (bucket key : String)
  deriving DecidableEq

/-- Whether a blob was stored or deleted under a key. -/
def Deed.Changes (bucket key : String) : Deed → Prop
  | .read .. => False
  | .stored b k _ => (b, k) = (bucket, key)
  | .deleted b k => (b, k) = (bucket, key)

/-- A store and what it was asked for, the latest first. -/
structure Recorded (σ : Type) where
  /-- The store. -/
  inner : σ
  /-- What it was asked for, the latest first. -/
  record : List Deed

namespace Recorded

variable {σ α : Type}

/-- A call of the store within, and what the result adds to the record. -/
def noting (deeds : Except Failure α → List Deed) (x : Act (World σ) α) :
    Act (World (Recorded σ)) α := fun w =>
  match x ⟨w.store.inner, w.log⟩ with
  | .ok a part => .ok a ⟨⟨part.store, deeds (.ok a) ++ w.store.record⟩, part.log⟩
  | .error f part => .error f ⟨⟨part.store, deeds (.error f) ++ w.store.record⟩, part.log⟩

instance [Store σ] : Store (Recorded σ) where
  get bucket key version := noting (fun _ => [.read bucket key version])
    (Store.get bucket key version)
  put bucket key data timeout :=
    noting (fun answer => answer.toOption.toList.map (Deed.stored bucket key))
      (Store.put bucket key data timeout)
  delete bucket key :=
    noting (fun answer => answer.toOption.toList.map fun _ => Deed.deleted bucket key)
      (Store.delete bucket key)
  list bucket directory := noting (fun _ => []) (Store.list bucket directory)
  describe r := Store.describe r.inner
  extent r := Store.extent r.inner

/-! ### Calls -/

section Calls

variable [Store σ] (bucket key : String) (w : World (Recorded σ))

/-- **A read is recorded** with the version that it asks for, whatever comes of it. -/
theorem record_get (version : Option String) :
    (Act.stateOf (Store.get bucket key version w)).store.record =
      .read bucket key version :: w.store.record := by
  change (Act.stateOf (noting _ _ w)).store.record = _
  unfold noting
  cases (Store.get bucket key version ⟨w.store.inner, w.log⟩ :
    EStateM.Result Failure (World σ) (Stream × Option String)) <;> rfl

/-- **A write is recorded** if it succeeds. -/
theorem record_put (data : Bytes) (timeout : Option Binary64) :
    match Store.put bucket key data timeout w with
    | .ok version w' => w'.store.record = .stored bucket key version :: w.store.record
    | .error _ w' => w'.store.record = w.store.record := by
  have h : Store.put bucket key data timeout w =
      noting (fun answer => answer.toOption.toList.map (Deed.stored bucket key))
        (Store.put bucket key data timeout) w := rfl
  rw [h, noting]
  cases (Store.put bucket key data timeout ⟨w.store.inner, w.log⟩ :
    EStateM.Result Failure (World σ) (Option String)) <;> rfl

/-- **A deletion is recorded** if it succeeds. -/
theorem record_delete :
    match Store.delete bucket key w with
    | .ok _ w' => w'.store.record = .deleted bucket key :: w.store.record
    | .error _ w' => w'.store.record = w.store.record := by
  have h : Store.delete bucket key w =
      noting (fun answer => answer.toOption.toList.map fun _ => Deed.deleted bucket key)
        (Store.delete bucket key) w := rfl
  rw [h, noting]
  cases (Store.delete bucket key ⟨w.store.inner, w.log⟩ :
    EStateM.Result Failure (World σ) Unit) <;> rfl

/-- A listing is not recorded. -/
theorem record_list (directory : String) :
    (Act.stateOf (Store.list bucket directory w)).store.record = w.store.record := by
  change (Act.stateOf (noting _ _ w)).store.record = _
  unfold noting
  cases (Store.list bucket directory ⟨w.store.inner, w.log⟩ :
    EStateM.Result Failure (World σ) (List String)) <;> rfl

end Calls

/-! ### What a record leaves a key with -/

/-- The version that a key is left with, which had `entry` before: a write leaves the version that
the store told, if it told one, and a deletion leaves none. -/
def leaves (bucket key : String) (entry : Option String) : List Deed → Option String
  | [] => entry
  | .read .. :: earlier => leaves bucket key entry earlier
  | .stored b k version :: earlier =>
    if (b, k) = (bucket, key) then version.or (leaves bucket key entry earlier)
    else leaves bucket key entry earlier
  | .deleted b k :: earlier =>
    if (b, k) = (bucket, key) then none else leaves bucket key entry earlier

variable {bucket key : String} {entry : Option String}

theorem leaves_append (later earlier : List Deed) :
    leaves bucket key entry (later ++ earlier) =
      leaves bucket key (leaves bucket key entry earlier) later := by
  induction later with
  | nil => rfl
  | cons deed later ih =>
    cases deed with
    | read b k version => exact ih
    | stored b k version => rw [List.cons_append, leaves, leaves, ih]
    | deleted b k => rw [List.cons_append, leaves, leaves, ih]

/-- **What changes nothing under a key** leaves it with the version that it has. -/
theorem leaves_of_not_changes {record : List Deed}
    (h : ∀ deed ∈ record, ¬ deed.Changes bucket key) : leaves bucket key entry record = entry := by
  induction record with
  | nil => rfl
  | cons deed record ih =>
    have hfirst := h deed List.mem_cons_self
    have hrest := ih fun d hd => h d (List.mem_cons_of_mem _ hd)
    cases deed with
    | read b k version => exact hrest
    | stored b k version => rw [leaves, if_neg (show ¬ (b, k) = (bucket, key) from hfirst), hrest]
    | deleted b k => rw [leaves, if_neg (show ¬ (b, k) = (bucket, key) from hfirst), hrest]

end Recorded

end BlobRemote
