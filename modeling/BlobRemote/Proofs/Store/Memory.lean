import Mathlib
import BlobRemote.Store.Memory
import BlobRemote.Proofs.Data.Dict
import BlobRemote.Proofs.Data.Names

/-!
# What a store in memory holds

The calls of a store in memory as functions on its contents, and what a write and a deletion do to
the history of each key. Versions are told apart by the number of the write that made them
(`BlobRemote.Memory.versionName_injective`).
-/

namespace BlobRemote

namespace Memory

/-! ### Calls -/

section Calls

variable (bucket key : String) (w : World Memory)

theorem get_apply (version : Option String) :
    Store.get bucket key version w =
      match w.store.find? bucket key version with
      | some r => .ok (.buffered r.data, w.store.told r.version) w
      | none => .error (Reason.notFound bucket key).alone w := by
  change (match w.store.find? bucket key version with
    | some r => _
    | none => _) = _
  cases w.store.find? bucket key version <;> rfl

theorem put_apply (data : Bytes) (timeout : Option Binary64) :
    Store.put bucket key data timeout w =
      .ok (w.store.told (w.store.nextRevision data).version)
        ⟨w.store.put bucket key data, w.log⟩ := rfl

theorem delete_apply :
    Store.delete bucket key w = .ok () ⟨w.store.delete bucket key, w.log⟩ := rfl

theorem list_apply (directory : String) :
    Store.list bucket directory w = .ok (w.store.list bucket directory) w := rfl

end Calls

/-! ### Contents -/

/-- **No two writes make the same version.** -/
theorem versionName_injective {m n : Nat} (h : versionName m = versionName n) : m = n :=
  Nat.repr_injective ((String.append_right_inj "v").1 h)

theorem told_of_versioned {m : Memory} (h : m.versioned = true) (version : String) :
    m.told version = some version := if_pos h

variable (m : Memory) (bucket key : String)

@[simp] theorem lag_put (data : Bytes) : (m.put bucket key data).lag = m.lag := rfl

@[simp] theorem writes_put (data : Bytes) : (m.put bucket key data).writes = m.writes + 1 := rfl

/-- **A write adds to the history of its key** and to no other. -/
theorem blobs_put (data : Bytes) (k : String × String) :
    (m.put bucket key data).blobs.get? k =
      if (bucket, key) = k then some (m.history bucket key ++ [m.nextRevision data])
      else m.blobs.get? k := Dict.get?_insert ..

/-- **A deletion drops the history of its key** and no other. -/
theorem blobs_delete (k : String × String) :
    (m.delete bucket key).blobs.get? k = if (bucket, key) = k then none else m.blobs.get? k :=
  Dict.get?_erase ..

/-- **No history is empty** after a write if none was before it. -/
theorem blobs_put_ne_nil {m : Memory} (h : ∀ k, m.blobs.get? k ≠ some []) (bucket key : String)
    (data : Bytes) (k : String × String) : (m.put bucket key data).blobs.get? k ≠ some [] := by
  rw [blobs_put]
  split
  · intro he
    exact List.append_ne_nil_of_right_ne_nil _ (List.cons_ne_nil _ _) (Option.some.inj he)
  · exact h k

/-- **No history is empty** after a deletion if none was before it. -/
theorem blobs_delete_ne_nil {m : Memory} (h : ∀ k, m.blobs.get? k ≠ some []) (bucket key : String)
    (k : String × String) : (m.delete bucket key).blobs.get? k ≠ some [] := by
  rw [blobs_delete]
  split
  · intro he
    cases he
  · exact h k

theorem history_of_none {m : Memory} {bucket key : String}
    (h : m.blobs.get? (bucket, key) = none) : m.history bucket key = [] := by
  rw [history, h]
  rfl

theorem history_of_some {m : Memory} {bucket key : String} {revisions : List Revision}
    (h : m.blobs.get? (bucket, key) = some revisions) : m.history bucket key = revisions := by
  rw [history, h]
  rfl

theorem history_put (data : Bytes) (bucket' key' : String) :
    (m.put bucket key data).history bucket' key' =
      if (bucket, key) = (bucket', key') then m.history bucket key ++ [m.nextRevision data]
      else m.history bucket' key' := by
  rw [history, blobs_put]
  split <;> rfl

theorem history_delete (bucket' key' : String) :
    (m.delete bucket key).history bucket' key' =
      if (bucket, key) = (bucket', key') then [] else m.history bucket' key' := by
  rw [history, blobs_delete]
  split <;> rfl

/-- Nothing is found under a key without a history, whatever version is asked for. -/
theorem find?_of_none {m : Memory} {bucket key : String} (h : m.blobs.get? (bucket, key) = none)
    (version : Option String) : m.find? bucket key version = none := by
  have hv : m.visible? bucket key = none := by
    rw [visible?, history_of_none h]
    rfl
  unfold find?
  rw [history_of_none h, hv]
  cases version with
  | none => rfl
  | some v => exact ite_self none

/-- A read without a version depends on the history of its key and on the lag alone. -/
theorem find?_none_congr {m m' : Memory} {bucket key : String} (hlag : m'.lag = m.lag)
    (h : m'.history bucket key = m.history bucket key) :
    m'.find? bucket key none = m.find? bucket key none := by
  change m'.visible? bucket key = m.visible? bucket key
  rw [visible?, visible?, hlag, h]

/-- **A store without a lag** shows what was written last. -/
theorem find?_put_of_lag {m : Memory} (h : m.lag = 0) (bucket key : String) (data : Bytes) :
    (m.put bucket key data).find? bucket key none = some (m.nextRevision data) := by
  change (m.put bucket key data).visible? bucket key = _
  rw [visible?, lag_put, h, history_put, if_pos rfl, List.length_append]
  simp

/-- **The listing of a directory** holds exactly the names that make a key of the bucket. -/
theorem mem_list_iff {directory n : String} :
    n ∈ m.list bucket directory ↔ m.blobs.get? (bucket, directory ++ "/" ++ n) ≠ none := by
  rw [list, Names.mem_below_iff, keysIn, List.mem_filterMap, ← Dict.mem_keys_iff]
  constructor
  · rintro ⟨⟨b, k⟩, hmem, h⟩
    split at h
    · next hb =>
      simp only [Option.some.injEq] at h
      rw [← h]
      exact hb ▸ hmem
    · cases h
  · intro h
    exact ⟨_, h, if_pos rfl⟩

end Memory

end BlobRemote
