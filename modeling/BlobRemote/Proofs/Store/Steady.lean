import Mathlib
import BlobRemote.Proofs.Store.History
import BlobRemote.Proofs.Store.Watched

/-!
# Stores whose contents are fixed

A store of any kind is *steady* (`BlobRemote.Steady`) if its reads are answered by one dictionary of
blobs and do not fail, for as long as nothing but reads is asked of it. Watching a store leaves it
steady (`BlobRemote.Steady.watched`), and a store in memory is steady with the blobs that
reads of it find, however far they lag behind and whatever versions they name
(`BlobRemote.Memory.steady`).
-/

namespace BlobRemote

variable {σ : Type}

/-- **A store with fixed contents whose reads do not fail**, in every world that is calm: a blob that
is there arrives, one that is not there is not found, and the world is as calm as before. A blob is
asked for in the version that is given for its key, if one is. -/
structure Steady [Store σ] (calm : World σ → Prop) (bucket : String)
    (version? : String → Option String) (blobs : Dict String Bytes) : Prop where
  /-- What is there arrives. -/
  found : ∀ {key data w}, calm w → blobs.get? key = some data →
    ∃ stream told w', Store.get bucket key (version? key) w = .ok (stream, told) w' ∧
      stream.content = .ok data ∧ calm w'
  /-- What is not there is not found. -/
  missing : ∀ {key w}, calm w → blobs.get? key = none →
    ∃ f w', Store.get bucket key (version? key) w = .error f w' ∧
      f.reason.isNotFound = true ∧ calm w'
  /-- The store knows a bound on the number of its blobs. -/
  size_le : ∀ {w}, calm w → blobs.size ≤ Store.extent w.store

namespace Watched

/-- A world without the watch on its store. -/
def unwatched (w : World (Watched σ)) : World σ := ⟨w.store.inner, w.log⟩

variable [Store σ] {bucket key : String} {version : Option String} {w : World (Watched σ)}
  {w' : World σ}

/-- **A read that is answered** is answered under the watch as well. -/
theorem get_of_ok {answer : Stream × Option String}
    (h : Store.get bucket key version (unwatched w) = .ok answer w') :
    Store.get bucket key version w =
      .ok answer
        ⟨⟨w'.store, .get bucket key version (.ok answer) :: w.store.calls⟩, w'.log⟩ := by
  rw [unwatched] at h
  change noting _ _ w = _
  rw [noting, h]

/-- **A read that fails** fails under the watch as well. -/
theorem get_of_error {f : Failure}
    (h : Store.get bucket key version (unwatched w) = .error f w') :
    Store.get bucket key version w =
      .error f
        ⟨⟨w'.store, .get bucket key version (.error f) :: w.store.calls⟩, w'.log⟩ := by
  rw [unwatched] at h
  change noting _ _ w = _
  rw [noting, h]

end Watched

/-- **Watching a store** leaves it steady. -/
theorem Steady.watched [Store σ] {calm : World σ → Prop} {bucket : String}
    {version? : String → Option String} {blobs : Dict String Bytes}
    (h : Steady calm bucket version? blobs) :
    Steady (fun w => calm (Watched.unwatched w)) bucket version? blobs where
  found {key data w} hw hdata := by
    obtain ⟨stream, told, w', hget, hcontent, hw'⟩ := h.found hw hdata
    exact ⟨stream, told, _, Watched.get_of_ok hget, hcontent, hw'⟩
  missing {key w} hw hnone := by
    obtain ⟨f, w', hget, hf, hw'⟩ := h.missing hw hnone
    exact ⟨f, _, Watched.get_of_error hget, hf, hw'⟩
  size_le hw := h.size_le hw

namespace Memory

section Files

variable (m : Memory) (bucket : String) (version? : String → Option String)

/-- The blob under a key of any bucket, if it is one of this bucket and a read finds it. -/
def file? (k : String × String) : Option (String × Bytes) :=
  if k.1 = bucket then (m.find? bucket k.2 (version? k.2)).map fun r => (k.2, r.data) else none

variable {m bucket version?}

theorem file?_eq_some_iff {k : String × String} {key : String} {data : Bytes} :
    m.file? bucket version? k = some (key, data) ↔
      k = (bucket, key) ∧ (m.find? bucket key (version? key)).map Revision.data = some data := by
  obtain ⟨b, k⟩ := k
  rw [file?]
  constructor
  · intro h
    split at h
    · next hb =>
      obtain ⟨r, hr, hpair⟩ := Option.map_eq_some_iff.1 h
      cases hpair
      exact ⟨congrArg (·, k) hb, Option.map_eq_some_iff.2 ⟨r, hr, rfl⟩⟩
    · cases h
  · rintro ⟨hk, h⟩
    obtain ⟨r, hr, rfl⟩ := Option.map_eq_some_iff.1 h
    cases hk
    rw [if_pos rfl, hr]
    rfl

variable (m bucket version?)

/-- **The blobs of a bucket**, as reads find them that name a version for a key or none. -/
def files : Dict String Bytes where
  entries := m.blobs.keys.filterMap (m.file? bucket version?)
  nodup := by
    rw [List.map_filterMap]
    refine m.blobs.nodup.filterMap ?_
    have hkey : ∀ {k : String × String} {key : String},
        (m.file? bucket version? k).map Prod.fst = some key → k = (bucket, key) := by
      intro k key h
      obtain ⟨⟨_, data⟩, hk, rfl⟩ := Option.map_eq_some_iff.1 h
      exact (file?_eq_some_iff.1 hk).1
    exact fun k k' key hk hk' => (hkey hk).trans (hkey hk').symm

theorem mem_files_iff {key : String} {data : Bytes} :
    (key, data) ∈ (m.files bucket version?).entries ↔
      (m.find? bucket key (version? key)).map Revision.data = some data := by
  rw [files, List.mem_filterMap]
  constructor
  · rintro ⟨k, -, hk⟩
    exact (file?_eq_some_iff.1 hk).2
  · intro h
    obtain ⟨r, hr, -⟩ := Option.map_eq_some_iff.1 h
    exact ⟨(bucket, key), Dict.mem_keys_iff.2 (blobs_ne_none_of_find? hr),
      file?_eq_some_iff.2 ⟨rfl, h⟩⟩

/-- **A read finds what is listed.** -/
theorem get?_files (key : String) :
    (m.files bucket version?).get? key =
      (m.find? bucket key (version? key)).map Revision.data := by
  refine Option.ext fun data => ?_
  rw [Dict.get?, Dict.find_eq_some_iff (m.files bucket version?).nodup, mem_files_iff]

theorem size_files_le : (m.files bucket version?).size ≤ m.blobs.size := by
  rw [Dict.size, Dict.size, files]
  exact (List.length_filterMap_le _ _).trans_eq (List.length_map _)

end Files

/-- **A store in memory is steady.** -/
theorem steady (m : Memory) (bucket : String) (version? : String → Option String) :
    Steady (fun w => w.store = m) bucket version? (m.files bucket version?) where
  found {key data w} hw hdata := by
    rw [get?_files] at hdata
    obtain ⟨r, hr, rfl⟩ := Option.map_eq_some_iff.1 hdata
    refine ⟨.buffered r.data, m.told r.version, w, ?_, rfl, hw⟩
    rw [get_apply, hw, hr]
  missing {key w} hw hnone := by
    rw [get?_files, Option.map_eq_none_iff] at hnone
    refine ⟨(Reason.notFound bucket key).alone, w, ?_, rfl, hw⟩
    rw [get_apply, hw, hnone]
  size_le hw := hw ▸ size_files_le m bucket version?

end Memory

end BlobRemote
