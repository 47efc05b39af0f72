import BlobRemote.Store.Basic
import BlobRemote.Store.Buffer

/-!
# Uploads

A blob that is written piece by piece is stored when its upload is closed, and only then. An upload
ends once: by closing it, whether the store takes the blob or not, or by aborting it. After that it
takes no further piece, and closing or aborting it again does nothing.
-/

namespace BlobRemote

/-- A blob that is being written. -/
structure Upload where
  /-- The bucket. -/
  bucket : String
  /-- The key. -/
  key : String
  /-- What is written so far. -/
  buffer : Buffer
  /-- Whether the upload has ended. -/
  ended : Bool

/-- What closing an upload did. -/
inductive Completion where
  /-- Nothing: the upload had ended before. -/
  | nothing
  /-- The store took the blob, and told this version. -/
  | stored (version : Option String)
  deriving DecidableEq

/-- A store and an upload to it. -/
structure Uploading (σ : Type) extends World σ where
  /-- The upload. -/
  upload : Upload

namespace Upload

/-- An upload that has just begun. -/
def start (bucket key : String) : Upload := ⟨bucket, key, Buffer.empty, false⟩

variable {σ : Type}

/-- An operation on the store of an upload. -/
def onWorld {α : Type} (x : Act (World σ) α) : Act (Uploading σ) α :=
  x.focus Uploading.toWorld (fun w u => { u with toWorld := w })

/-- Refuses an upload that has ended. -/
def ensureOpen : Act (Uploading σ) Unit := do
  let u ← get
  if u.upload.ended then Act.refuse (.buffer .closed)

/-- Puts another buffer in place of the old one. -/
def setBuffer (b : Buffer) : Act (Uploading σ) Unit :=
  modify fun u => { u with upload := { u.upload with buffer := b } }

/-- Writes a piece, and says how many bytes it has. -/
def write (piece : Bytes) : Act (Uploading σ) Nat := do
  ensureOpen
  let u ← get
  setBuffer (u.upload.buffer.write piece)
  return piece.length

/-- Moves the place of the next write. -/
def seek (n : Int) : Act (Uploading σ) Nat := do
  ensureOpen
  let u ← get
  let b ← Act.ofExcept .buffer (u.upload.buffer.seek n)
  setBuffer b
  return b.position

/-- Drops what lies beyond a size, or beyond the place of the next write. -/
def truncate (size : Option Int) : Act (Uploading σ) Nat := do
  ensureOpen
  let u ← get
  let (b, n) ← Act.ofExcept .buffer (u.upload.buffer.truncate size)
  setBuffer b
  return n

/-- What is written so far. -/
def contents : Act (Uploading σ) Bytes := do
  ensureOpen
  let u ← get
  return u.upload.buffer.data

/-- Marks the upload as ended. -/
def markEnded : Act (Uploading σ) Unit :=
  modify fun u => { u with upload := { u.upload with ended := true } }

/-- **Aborts the upload**: nothing is stored. -/
def abort : Act (Uploading σ) Unit := markEnded

/-- **Closes the upload**: the store is asked to take the blob, unless the upload has ended. It ends
before the store is asked, so that a refusal is final. -/
def close [Store σ] : Act (Uploading σ) Completion := do
  let u ← get
  if u.upload.ended then return .nothing
  markEnded
  let version ← onWorld (Store.put u.upload.bucket u.upload.key u.upload.buffer.data none)
  return .stored version

/-- **Leaves the block** in which an upload is written: a failure that leaves it aborts the upload and
goes on, otherwise the upload is closed. -/
def leave [Store σ] : Option Failure → Act (Uploading σ) Completion
  | none => close
  | some f => do
    abort
    Act.fail f

/-- Drops an upload, which aborts it unless it has ended. -/
def drop : Act (Uploading σ) Unit := do
  let u ← get
  if !u.upload.ended then abort

/-- Writes pieces one after another in a block, which a failure leaves if the caller is
`interrupted`. -/
def writeAll [Store σ] (pieces : List Bytes) (interrupted : Bool) :
    Act (Uploading σ) Completion := do
  ensureOpen
  let _ ← Act.each write pieces
  leave (if interrupted then some (Reason.internal "interrupted").alone else none)

end Upload

end BlobRemote
