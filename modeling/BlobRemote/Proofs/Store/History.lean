import Mathlib
import BlobRemote.Proofs.Store.Memory

/-!
# Stores that come about by writes and deletions

The contents of a store in memory are what some writes and deletions made of the empty store, in any
buckets and under any keys (`BlobRemote.Memory.Made`). In such a store no revision has the version of
a write to come, because versions count the writes. So a read that is pinned to the version of a
write finds what was written, however far reads lag behind
(`BlobRemote.Memory.Made.find?_put`).
-/

namespace BlobRemote

namespace Memory

variable {versioned : Bool} {lag : Nat} {m : Memory}

/-- **A store that came about** by writes and deletions. -/
inductive Made (versioned : Bool) (lag : Nat) : Memory → Prop where
  /-- Nothing was written yet. -/
  | empty : Made versioned lag (Memory.empty versioned lag)
  /-- A blob was written. -/
  | put {m : Memory} (h : Made versioned lag m) (bucket key : String) (data : Bytes) :
    Made versioned lag (m.put bucket key data)
  /-- A blob was deleted. -/
  | delete {m : Memory} (h : Made versioned lag m) (bucket key : String) :
    Made versioned lag (m.delete bucket key)

namespace Made

theorem versioned_eq (h : Made versioned lag m) : m.versioned = versioned := by
  induction h with
  | empty => rfl
  | put _ _ _ _ ih => exact ih
  | delete _ _ _ ih => exact ih

/-- **No history is empty.** -/
theorem ne_nil (h : Made versioned lag m) : ∀ k, m.blobs.get? k ≠ some [] := by
  induction h with
  | empty =>
    intro k hk
    cases hk
  | put _ bucket key data ih => exact blobs_put_ne_nil ih bucket key data
  | delete _ bucket key ih => exact blobs_delete_ne_nil ih bucket key

/-- **No revision has the version of a write to come.** -/
theorem fresh (h : Made versioned lag m) {bucket key : String} {r : Revision}
    (hr : r ∈ m.history bucket key) {n : Nat} (hn : m.writes < n) : r.version ≠ versionName n := by
  induction h with
  | empty => cases hr
  | @put m _ bucket' key' data ih =>
    rw [writes_put] at hn
    rw [history_put] at hr
    split at hr
    · next he =>
      cases he
      rcases List.mem_append.1 hr with hr | hr
      · exact ih hr (by omega)
      · -- the new revision has the number of this write
        rw [List.mem_singleton.1 hr]
        intro hname
        have hnumber : m.writes + 1 = n := versionName_injective hname
        omega
    · exact ih hr (by omega)
  | delete _ bucket' key' ih =>
    rw [history_delete] at hr
    split at hr
    · cases hr
    · exact ih hr hn

/-- **A read pinned to a write** finds what was written. -/
theorem find?_put (h : Made true lag m) (bucket key : String) (data : Bytes) :
    (m.put bucket key data).find? bucket key (some (m.nextRevision data).version) =
      some (m.nextRevision data) := by
  have hversioned : (m.put bucket key data).versioned = true := h.versioned_eq
  have hnone :
      (m.history bucket key).find? (fun r => r.version == (m.nextRevision data).version) = none := by
    refine List.find?_eq_none.2 fun r hr he => ?_
    exact h.fresh hr (Nat.lt_succ_self _) (beq_iff_eq.1 he)
  rw [find?, if_pos hversioned, history_put, if_pos rfl, List.find?_append, hnone, Option.none_or,
    List.find?_singleton, if_pos (beq_self_eq_true _)]

end Made

/-- A read depends on the history of its key, and on what does not change in a store. -/
theorem find?_congr {m m' : Memory} {bucket key : String} (hversioned : m'.versioned = m.versioned)
    (hlag : m'.lag = m.lag) (h : m'.history bucket key = m.history bucket key)
    (version : Option String) : m'.find? bucket key version = m.find? bucket key version := by
  have hvisible : m'.visible? bucket key = m.visible? bucket key := by
    rw [visible?, visible?, hlag, h]
  rw [find?.eq_def, find?.eq_def, hversioned, h, hvisible]

/-- A blob that is found under a key is one of the blobs of the store. -/
theorem blobs_ne_none_of_find? {bucket key : String} {version : Option String} {r : Revision}
    (h : m.find? bucket key version = some r) : m.blobs.get? (bucket, key) ≠ none := by
  intro hnone
  rw [find?_of_none hnone] at h
  cases h

end Memory

end BlobRemote
