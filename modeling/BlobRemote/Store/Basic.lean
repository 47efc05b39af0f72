import BlobRemote.Act
import BlobRemote.Number.Binary64

/-!
# Stores

A store holds blobs under keys in buckets. It may be eventually consistent: a read may answer with
what was there some writes ago. A store that versions its blobs answers a write with a version, and a
read that names a version is answered with that one.
-/

namespace BlobRemote

/-- A blob that is open for reading. -/
inductive Stream where
  /-- All of it is at hand. -/
  | buffered (data : Bytes)
  /-- It arrives while it is read, or fails to. -/
  | sequential (content : Except Failure Bytes)

namespace Stream

/-- The number of bytes, if it is known before reading. -/
def length? : Stream → Option Nat
  | buffered data => some data.length
  | sequential _ => none

/-- What reading to the end gives. -/
def content : Stream → Except Failure Bytes
  | buffered data => .ok data
  | sequential content => content

/-- Reads to the end. -/
def read {s : Type} (stream : Stream) : Act s Bytes :=
  match stream.content with
  | .ok data => pure data
  | .error f => Act.fail f

end Stream

/-- What can be asked of a store. -/
class Store (σ : Type) where
  /-- Opens the blob under a key, or that version of it, and says which version it is. -/
  get (bucket key : String) (version : Option String) : Act (World σ) (Stream × Option String)
  /-- Stores a blob under a key and says which version it has become. -/
  put (bucket key : String) (data : Bytes) (timeout : Option Binary64) :
    Act (World σ) (Option String)
  /-- Deletes the blob under a key, if there is one. -/
  delete (bucket key : String) : Act (World σ) Unit
  /-- Lists the keys below a directory, relative to it. -/
  list (bucket directory : String) : Act (World σ) (List String)
  /-- The store in one line. -/
  describe (store : σ) : String
  /-- A bound on the number of blobs that reads in a row can find. -/
  extent (store : σ) : Nat

end BlobRemote
