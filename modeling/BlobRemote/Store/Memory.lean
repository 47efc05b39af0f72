import BlobRemote.Data.Dict
import BlobRemote.Data.Names
import BlobRemote.Store.Basic

/-!
# Stores in memory

A store that keeps all versions of its blobs. Versions are numbered in the order of the writes,
whatever their keys are. A read that names no version may lag behind: it is answered with the version
that was the newest some writes to the key ago, as an eventually consistent store would do.
-/

namespace BlobRemote

/-- A version of a blob, and what the blob holds in it. -/
structure Revision where
  /-- The version. -/
  version : String
  /-- What the blob holds. -/
  data : Bytes
  deriving DecidableEq

/-- A store in memory. -/
structure Memory where
  /-- Whether reads and writes tell versions. -/
  versioned : Bool
  /-- How many writes to a key a read may lag behind. -/
  lag : Nat
  /-- The versions of each blob, by bucket and key, the oldest first. -/
  blobs : Dict (String × String) (List Revision)
  /-- The number of writes so far. -/
  writes : Nat

namespace Memory

/-- A store without blobs. -/
def empty (versioned : Bool) (lag : Nat) : Memory := ⟨versioned, lag, Dict.empty, 0⟩

/-- The version that the `n`-th write makes. -/
def versionName (n : Nat) : String := s!"v{n}"

/-- The versions of a blob, the oldest first. -/
def history (m : Memory) (bucket key : String) : List Revision :=
  (m.blobs.get? (bucket, key)).getD []

/-- The revision that a read without a version finds. -/
def visible? (m : Memory) (bucket key : String) : Option Revision :=
  let h := m.history bucket key
  h[h.length - 1 - m.lag]?

/-- The revision that a read finds. A version counts only if the store tells versions. -/
def find? (m : Memory) (bucket key : String) (version : Option String) : Option Revision :=
  match version with
  | some v =>
    if m.versioned then (m.history bucket key).find? fun r => r.version == v
    else m.visible? bucket key
  | none => m.visible? bucket key

/-- The version of a revision as the store tells it. -/
def told (m : Memory) (version : String) : Option String :=
  if m.versioned then some version else none

/-- The revision that the next write makes. -/
def nextRevision (m : Memory) (data : Bytes) : Revision := ⟨versionName (m.writes + 1), data⟩

/-- The store after a write. -/
def put (m : Memory) (bucket key : String) (data : Bytes) : Memory :=
  { m with
    blobs := m.blobs.insert (bucket, key) (m.history bucket key ++ [m.nextRevision data])
    writes := m.writes + 1 }

/-- The store without a blob and all its versions. -/
def delete (m : Memory) (bucket key : String) : Memory :=
  { m with blobs := m.blobs.erase (bucket, key) }

/-- The keys of a bucket. -/
def keysIn (m : Memory) (bucket : String) : List String :=
  m.blobs.keys.filterMap fun k => if k.1 = bucket then some k.2 else none

/-- The keys of a bucket below a directory, relative to it. -/
def list (m : Memory) (bucket directory : String) : List String :=
  Names.below directory (m.keysIn bucket)

/-- The store in one line. -/
def describe (m : Memory) : String :=
  let versioned := if m.versioned then "True" else "False"
  s!"MemoryBlobStore(versioned={versioned}, lag={m.lag})"

instance : Store Memory where
  get bucket key version := fun w =>
    match w.store.find? bucket key version with
    | some r => .ok (.buffered r.data, w.store.told r.version) w
    | none => .error (Reason.notFound bucket key).alone w
  put bucket key data _ := fun w =>
    .ok (w.store.told (w.store.nextRevision data).version)
      { w with store := w.store.put bucket key data }
  delete bucket key := fun w => .ok () { w with store := w.store.delete bucket key }
  list bucket directory := fun w => .ok (w.store.list bucket directory) w
  describe := describe
  extent m := m.blobs.size

end Memory

end BlobRemote
