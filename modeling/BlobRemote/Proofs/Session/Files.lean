import Mathlib
import BlobRemote.Proofs.Manifest
import BlobRemote.Proofs.Session.Operation
import BlobRemote.Proofs.Session.Reading
import BlobRemote.Proofs.Store.History

/-!
# The files that a session shows

A session shows a file under a key (`BlobRemote.Session.shown`) if a read that is pinned to the
version that the manifest knows finds one. On a store that tells versions, a write shows what was
written from then on and changes no other file, and so does a deletion, whatever the manifest knew
before and however far reads lag behind. Both are functions on sessions here, because they cannot
fail on a store in memory unless the path climbs too high.
-/

namespace BlobRemote

namespace Session

variable {lag : Nat} (s : Session Memory) (key : String)

/-- **The file that a session shows** under a key, if there is one. -/
def shown : Option Bytes :=
  (s.store.find? s.remote.bucket key (s.manifest.version? key)).map Revision.data

/-- A session after a file was written. -/
def withFile (data : Bytes) : Session Memory :=
  { s with
    store := s.store.put s.remote.bucket key data
    manifest := s.manifest.track key (s.store.told (s.store.nextRevision data).version) }

/-- A session after a file was deleted. -/
def withoutFile : Session Memory :=
  { s with store := s.store.delete s.remote.bucket key, manifest := s.manifest.untrack key }

/-- What a session shows depends on the store, the manifest and the repository alone. -/
theorem shown_congr {s s' : Session Memory}
    (h : s'.around World.store = s.around World.store) : s'.shown = s.shown := by
  simp only [Session.around, Prod.mk.injEq] at h
  obtain ⟨hstore, hmanifest, hremote, -⟩ := h
  funext key
  rw [shown, shown, hstore, hmanifest, hremote]

/-- A file that is shown is one of the blobs of the store. -/
theorem blobs_ne_none_of_shown {s : Session Memory} {key : String} {data : Bytes}
    (h : s.shown key = some data) : s.store.blobs.get? (s.remote.bucket, key) ≠ none := by
  obtain ⟨r, hr, -⟩ := Option.map_eq_some_iff.1 h
  exact Memory.blobs_ne_none_of_find? hr

/-- A session that differs in other keys only shows the same file. -/
theorem shown_of_ne {s s' : Session Memory} {key : String}
    (hversioned : s'.store.versioned = s.store.versioned) (hlag : s'.store.lag = s.store.lag)
    (hremote : s'.remote = s.remote)
    (hhistory : s'.store.history s.remote.bucket key = s.store.history s.remote.bucket key)
    (hversion : s'.manifest.version? key = s.manifest.version? key) :
    s'.shown key = s.shown key := by
  rw [shown, shown, hremote, hversion, Memory.find?_congr hversioned hlag hhistory]

/-! ### Writing -/

variable {s key}

/-- **A file that was written is shown**, and no other one changes. -/
theorem shown_withFile (h : Memory.Made true lag s.store) (data : Bytes) (k : String) :
    (s.withFile key data).shown k = if key = k then some data else s.shown k := by
  split
  · next hk =>
    subst hk
    have hversion : (s.withFile key data).manifest.version? key =
        some (s.store.nextRevision data).version := by
      change (s.manifest.track key _).version? key = _
      rw [Manifest.version?_track, if_pos rfl, Memory.told_of_versioned h.versioned_eq]
      rfl
    rw [shown, hversion]
    change ((s.store.put s.remote.bucket key data).find? s.remote.bucket key _).map _ = _
    rw [h.find?_put]
    rfl
  · next hk =>
    refine shown_of_ne rfl rfl rfl ?_ ?_
    · change (s.store.put s.remote.bucket key data).history s.remote.bucket k = _
      rw [Memory.history_put, if_neg fun he => hk (Prod.mk.inj he).2]
    · change (s.manifest.track key _).version? k = _
      rw [Manifest.version?_track, if_neg hk]

theorem mem_list_withFile {directory n : String} (data : Bytes) :
    n ∈ (s.withFile key data).store.list s.remote.bucket directory ↔
      key = directory ++ "/" ++ n ∨ n ∈ s.store.list s.remote.bucket directory := by
  rw [Memory.mem_list_iff, Memory.mem_list_iff]
  change (s.store.put s.remote.bucket key data).blobs.get? _ ≠ none ↔ _
  rw [Memory.blobs_put]
  by_cases hk : key = directory ++ "/" ++ n
  · rw [if_pos (congrArg (s.remote.bucket, ·) hk)]
    exact iff_of_true (Option.some_ne_none _) (Or.inl hk)
  · rw [if_neg fun he => hk (Prod.mk.inj he).2]
    exact (or_iff_right hk).symm

/-! ### Deleting -/

/-- **A file that was deleted is not shown**, and no other one changes. -/
theorem shown_withoutFile (k : String) :
    (s.withoutFile key).shown k = if key = k then none else s.shown k := by
  split
  · next hk =>
    subst hk
    rw [shown]
    change ((s.store.delete s.remote.bucket key).find? s.remote.bucket key _).map _ = _
    rw [Memory.find?_of_none (by rw [Memory.blobs_delete, if_pos rfl]), Option.map_none]
  · next hk =>
    refine shown_of_ne rfl rfl rfl ?_ ?_
    · change (s.store.delete s.remote.bucket key).history s.remote.bucket k = _
      rw [Memory.history_delete, if_neg fun he => hk (Prod.mk.inj he).2]
    · change (s.manifest.untrack key).version? k = _
      rw [Manifest.version?_untrack, if_neg hk]

theorem mem_list_of_withoutFile {directory n : String}
    (h : n ∈ (s.withoutFile key).store.list s.remote.bucket directory) :
    n ∈ s.store.list s.remote.bucket directory := by
  rw [Memory.mem_list_iff] at h ⊢
  change (s.store.delete s.remote.bucket key).blobs.get? _ ≠ none at h
  rw [Memory.blobs_delete] at h
  split at h
  · exact absurd rfl h
  · exact h

end Session

namespace Database

variable (d : Database) (path : String) (s : Session Memory)

/-- Writing a file to a store in memory fails only if its path climbs too high. -/
theorem write_memory_apply (data : Bytes) :
    d.write path data s =
      match Key.resolve d.objectsKey path with
      | .error climb => .error (Reason.climb climb).alone s
      | .ok key => .ok () (s.withFile key data) := by
  rw [write_apply]
  cases Key.resolve d.objectsKey path <;> rfl

/-- Deleting a file of a store in memory fails only if its path climbs too high. -/
theorem delete_memory_apply :
    d.delete path s =
      match Key.resolve d.objectsKey path with
      | .error climb => .error (Reason.climb climb).alone s
      | .ok key => .ok () (s.withoutFile key) := by
  rw [delete_apply]
  cases Key.resolve d.objectsKey path <;> rfl

end Database

end BlobRemote
