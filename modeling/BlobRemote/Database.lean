import BlobRemote.Pack
import BlobRemote.Ref.Content
import BlobRemote.Ref.Packed
import BlobRemote.Session
import BlobRemote.Store.Upload

/-!
# Object databases

The files of a repository, as a session reads and writes them. Paths are relative to the directory of
the objects and may climb out of it, which is how the references are reached. Every write and every
deletion is told to the manifest, and every read is pinned to the version that the manifest knows.
-/

namespace BlobRemote

/-- A session, and a file that it writes piece by piece. -/
structure Writing (σ : Type) extends Session σ where
  /-- The file. -/
  upload : Upload

namespace Writing

variable {σ : Type}

/-- The manifest after an upload was closed: a version is tracked once the store took the file. -/
def told (m : Manifest) (key : String) : Completion → Manifest
  | .nothing => m
  | .stored version => m.track key version

/-- **An operation on the upload** of a session. What it did, which `completion` reads off its
result, is told to the manifest. -/
def onUpload {α : Type} (completion : α → Completion) (x : Act (Uploading σ) α) :
    Act (Writing σ) α := fun s =>
  match x ⟨s.toWorld, s.upload⟩ with
  | .error f u => .error f { s with toWorld := u.toWorld, upload := u.upload }
  | .ok a u =>
    .ok a { s with
      toWorld := u.toWorld, upload := u.upload
      manifest := told s.manifest s.upload.key (completion a) }

/-- An operation with an upload of its own. -/
def within {α : Type} (upload : Upload) (x : Act (Writing σ) α) : Act (Session σ) α := fun s =>
  match x ⟨s, upload⟩ with
  | .ok a w => .ok a w.toSession
  | .error f w => .error f w.toSession

end Writing

/-- The files around a directory of objects. -/
structure Database where
  /-- The key of the directory. -/
  objectsKey : String
  deriving DecidableEq

namespace Database

variable {σ : Type}

/-- The path of the file of packed references. -/
def packedRefsPath : String := "../packed-refs"

/-- The path of the file that names other databases. -/
def alternatesPath : String := "info/alternates"

/-- The path of the file that lists packs. -/
def infoPacksPath : String := "info/packs"

/-- The path of a reference. -/
def refPath (name : String) : String := "../" ++ name

/-- The URL of a database. -/
def uri (d : Database) (r : Remote) : String := r.uriOf d.objectsKey

/-- A database in one line. -/
def describe (d : Database) (r : Remote) : String :=
  "BlobStoreDatabase(" ++ Quoted.text (d.uri r) ++ ")"

/-- The key of a path. -/
def resolve {s : Type} (d : Database) (path : String) : Act s String :=
  Act.ofExcept .climb (Key.resolve d.objectsKey path)

/-! ### Reading -/

/-- **Opens a file** for reading, pinned to the version that the manifest knows. -/
def «open» [Store σ] (d : Database) (path : String) : Act (Session σ) Stream := do
  let key ← d.resolve path
  let s ← get
  let (stream, _) ← Session.onWorld
    (Store.get s.remote.bucket key (s.manifest.version? key))
  return stream

/-- The contents of a file. -/
def read [Store σ] (d : Database) (path : String) : Act (Session σ) Bytes := do
  let stream ← d.open path
  stream.read

/-- The files below a directory, relative to it. -/
def list [Store σ] (d : Database) (path : String) : Act (Session σ) (List String) := do
  let key ← d.resolve path
  let s ← get
  Session.onWorld (Store.list s.remote.bucket key)

/-- The packs that have an index. -/
def packNames [Store σ] (d : Database) : Act (Session σ) (List String) := do
  let names ← d.list "pack"
  return Pack.complete names

/-- The lines of a file, each with what ends it. -/
def splitLines : Bytes → List Bytes
  | [] => []
  | b :: rest =>
    if b = 0x0A then [b] :: splitLines rest
    else
      match splitLines rest with
      | [] => [[b]]
      | line :: more => (b :: line) :: more

/-! ### Other databases -/

/-- **Opens another database**, whose location is relative to this one. -/
def alternate {s : Type} (d : Database) (location : String) : Act s Database := do
  let key ← d.resolve location
  return ⟨key⟩

/-- The database that a line names, if the line is not empty. -/
def alternateOf (d : Database) (line : Bytes) : Act (Session σ) (Option Database) := do
  let location ← Act.ofExcept .undecodable (Utf8.decodeText (dropEndWhile Ref.isLineEnd line))
  if location = "" then return none
  let location := String.ofList (Key.dropEndSlash location.toList)
  let s ← get
  Session.onWorld (World.note (.alternate (d.uri s.remote) location))
  let other ← d.alternate location
  return some other

/-- **The databases that a file names**, one on each line that is not empty. -/
def readAlternates [Store σ] (d : Database) (path : String) : Act (Session σ) (List Database) := do
  let data ← d.read path
  let found ← Act.each d.alternateOf (splitLines data)
  return found.filterMap id

/-- The databases that this one names, unless the file that would name them is missing. -/
def alternates [Store σ] (d : Database) : Act (Session σ) (Option (List Database)) := do
  match ← Act.attempt (d.readAlternates alternatesPath) with
  | .ok found => return some found
  | .error f => if f.reason.isNotFound then return none else Act.fail f

/-! ### Writing -/

/-- **Creates or replaces a file.** -/
def write [Store σ] (d : Database) (path : String) (data : Bytes) : Act (Session σ) Unit := do
  let key ← d.resolve path
  let s ← get
  let version ← Session.onWorld (Store.put s.remote.bucket key data none)
  Session.onTracking (Tracking.track key version)

/-- **Begins to write a file** piece by piece. -/
def beginWrite (d : Database) (path : String) : Act (Session σ) Upload := do
  let key ← d.resolve path
  let s ← get
  return Upload.start s.remote.bucket key

/-- **Deletes a file.** -/
def delete [Store σ] (d : Database) (path : String) : Act (Session σ) Unit := do
  let key ← d.resolve path
  let s ← get
  Session.onWorld (Store.delete s.remote.bucket key)
  Session.onTracking (Tracking.untrack key)

/-- The path of a reference, whose name has to be text. -/
def pathOfRef {s : Type} (name : Bytes) : Act s String := do
  let text ← Act.ofExcept .undecodable (Utf8.decodeText name)
  return refPath text

/-- Writes a reference into a blob of its own. -/
def writeRef [Store σ] (d : Database) (name objectId : Bytes) : Act (Session σ) Unit := do
  let path ← pathOfRef name
  d.write path (Ref.objectBlob objectId)

/-- Deletes the blob of a reference. -/
def deleteRef [Store σ] (d : Database) (name : Bytes) : Act (Session σ) Unit := do
  let path ← pathOfRef name
  d.delete path

/-- Writes the file that lists packs. -/
def writeInfoPacks [Store σ] (d : Database) (names : List String) : Act (Session σ) Unit :=
  d.write infoPacksPath (Pack.infoFile names)

/-- Replaces the file of packed references. -/
def writePackedRefs [Store σ] (d : Database) (objectIds : Dict Bytes Bytes)
    (peeled : Option (Dict Bytes Bytes)) : Act (Session σ) Unit := do
  let upload ← d.beginWrite packedRefsPath
  let file := Packed.write objectIds peeled
  let _ ← Writing.within upload (Writing.onUpload id (Upload.writeAll [file] false))

end Database

end BlobRemote
