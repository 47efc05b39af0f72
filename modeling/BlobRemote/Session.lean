import BlobRemote.Manifest
import BlobRemote.Remote.Location

/-!
# Sessions

A session works on one repository in a store. It loads the version manifest when it is opened and
writes it back, if an entry has changed, when it is closed for the first time.
-/

namespace BlobRemote

/-- The repository that a session works on. -/
structure Remote where
  /-- The bucket. -/
  bucket : String
  /-- The key under which all keys of the repository lie. -/
  keyPrefix : String
  /-- How long the last write may take, in seconds. -/
  flushTimeout : Option Binary64

namespace Remote

/-- A repository, the slashes around whose key do not count. -/
def make (bucket keyPrefix : String) (flushTimeout : Option Binary64) : Remote :=
  ⟨bucket, Key.normalize keyPrefix, flushTimeout⟩

/-- The URL of a key in the bucket, without credentials. -/
def uriOf (r : Remote) (key : String) : String := s!"{Location.scheme}://{r.bucket}/{key}"

/-- The URL of the repository, without credentials. -/
def uri (r : Remote) : String := r.uriOf r.keyPrefix

/-- The key of the manifest, next to the repository. -/
def manifestKey (r : Remote) : String := r.keyPrefix ++ Manifest.suffix

/-- The key of the directory with the objects. -/
def objectsKey (r : Remote) : String := r.keyPrefix ++ "/objects"

end Remote

/-- A session. -/
structure Session (σ : Type) extends Tracking σ where
  /-- The repository. -/
  remote : Remote
  /-- Whether the session has been closed. -/
  closed : Bool

namespace Session

variable {σ : Type}

/-- An operation on the store and the manifest of a session. -/
def onTracking {α : Type} (x : Act (Tracking σ) α) : Act (Session σ) α :=
  x.focus Session.toTracking (fun t s => { s with toTracking := t })

/-- An operation on the store of a session. -/
def onWorld {α : Type} (x : Act (World σ) α) : Act (Session σ) α :=
  onTracking (Tracking.onWorld x)

/-- A session on a store that has loaded nothing yet. -/
def start (w : World σ) (remote : Remote) : Session σ := ⟨⟨w, Manifest.empty⟩, remote, false⟩

/-- **Opens the session**: loads the manifest. -/
def «open» [Store σ] : Act (Session σ) Unit := do
  let s ← get
  onTracking (Tracking.load s.remote.bucket s.remote.manifestKey)

/-- Opens a session on a store. -/
def openOn [Store σ] (remote : Remote) : Act (World σ) (Session σ) := fun w =>
  match Session.open (start w remote) with
  | .ok () s => .ok s s.toWorld
  | .error f s => .error f s.toWorld

/-- Opens a session on the repository that a URL names. The settings, if there are any, say how long
the last write may take. -/
def openUrl [Store σ] (url : String) (ini : Option Ini) : Act (World σ) (Session σ) := do
  let l ← Act.ofExcept .location (Location.parse url)
  let timeout ←
    match ini with
    | none => pure none
    | some ini => do
      let t ← Act.ofExcept .settings (Settings.flushTimeout ini)
      pure (some t)
  openOn (Remote.make l.bucket l.keyPrefix timeout)

/-- **Closes the session**: the first time, the manifest is written back, with the date in its head,
if an entry has changed. -/
def close [Store σ] (stamp : Property.Stamp) : Act (Session σ) Unit := do
  let s ← get
  if s.closed then return
  set { s with closed := true }
  if s.manifest.dirty then
    let _ ← onTracking
      (Tracking.flush s.remote.bucket s.remote.manifestKey s.remote.flushTimeout stamp)

/-- **An operation in a session of its own**, which is closed whatever becomes of the operation. -/
def during [Store σ] {α : Type} (remote : Remote) (stamp : Property.Stamp) (x : Act (Session σ) α) :
    Act (World σ) α :=
  Act.focus (start · remote) (fun s _ => s.toWorld) do
    Session.open
    let result ← Act.attempt x
    close stamp
    match result with
    | .ok a => return a
    | .error f => Act.fail f

/-- The session in one line. -/
def describe [Store σ] (s : Session σ) : String :=
  "BlobStoreTransport(" ++ Store.describe s.store ++ ", " ++ Quoted.text s.remote.bucket ++ ", " ++
    Quoted.text s.remote.keyPrefix ++ ")"

end Session

end BlobRemote
