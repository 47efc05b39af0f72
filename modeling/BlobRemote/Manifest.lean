import BlobRemote.Property.File
import BlobRemote.Store.Basic

/-!
# Version manifests

A store that is only eventually consistent may answer a read with what was there before the last
write. The manifest remembers which version the last write to each key has become, so that reads can
be pinned to it, and it is itself a blob next to the repository, so that later sessions pin their
reads as well. It is *dirty* once an entry has changed since it was loaded.
-/

namespace BlobRemote

/-- Versions by key. -/
structure Manifest where
  /-- The version of each key that is tracked. -/
  versions : Dict String String
  /-- Whether an entry has changed since the manifest was loaded. -/
  dirty : Bool

namespace Manifest

/-- The manifest without entries. -/
def empty : Manifest := ⟨Dict.empty, false⟩

/-- How the key of a manifest ends. -/
def suffix : String := ".manifest"

/-- The version of a key, if it is tracked. -/
def version? (m : Manifest) (key : String) : Option String := m.versions.get? key

/-- The entries in ascending order of their keys. -/
def items (m : Manifest) : List (String × String) := m.versions.sorted

/-- The manifest in one line, its entries in the order in which they came. -/
def describe (m : Manifest) : String :=
  let entry (e : String × String) : String := Quoted.text e.1 ++ ": " ++ Quoted.text e.2
  "VersionManifest(\x7b" ++ ", ".intercalate (m.versions.entries.map entry) ++ "\x7d)"

/-- **The manifest after a write** to a key, where the store told a version or none. -/
def track (m : Manifest) (key : String) (version : Option String) : Manifest :=
  match version with
  | none => m
  | some v => if m.version? key = some v then m else ⟨m.versions.insert key v, true⟩

/-- **The manifest after a key was deleted.** -/
def untrack (m : Manifest) (key : String) : Manifest :=
  if m.versions.contains key then ⟨m.versions.erase key, true⟩ else m

end Manifest

/-- A store, and the manifest of a session on it. -/
structure Tracking (σ : Type) extends World σ where
  /-- The manifest. -/
  manifest : Manifest

namespace Tracking

variable {σ : Type}

/-- An operation on the store of a manifest. -/
def onWorld {α : Type} (x : Act (World σ) α) : Act (Tracking σ) α :=
  x.focus Tracking.toWorld (fun w t => { t with toWorld := w })

/-- Records which version a key was written as. -/
def track (key : String) (version : Option String) : Act (Tracking σ) Unit :=
  modify fun t => { t with manifest := t.manifest.track key version }

/-- Forgets the version of a key. -/
def untrack (key : String) : Act (Tracking σ) Unit :=
  modify fun t => { t with manifest := t.manifest.untrack key }

/-- The entries that a blob holds. -/
def parse (stream : Stream) : Except Failure (Dict String String) :=
  match stream.content with
  | .error f => .error f
  | .ok data => (Property.read data).mapError fun fault => (Reason.property fault).alone

/-- Whether a blob that cannot be read is taken for a broken manifest: the system failed, or some
value in it is not as it should be. -/
def isUnreadable (f : Failure) : Bool := f.reason.isSystem || f.reason.isValue

/-- **Loads the manifest** from its blob: the entries there overlay those at hand. A manifest that is
not there is an empty one. -/
def load [Store σ] (bucket key : String) : Act (Tracking σ) Unit := do
  let answer ← Act.attempt (onWorld (Store.get bucket key none))
  match answer with
  | .error f =>
    if f.reason.isNotFound then
      onWorld (World.note (.manifestAbsent key))
    else
      onWorld (World.note (.manifestUnread key))
      Act.fail (f.behind (.manifestLoad key))
  | .ok (stream, _) =>
    match parse stream with
    | .error f =>
      Act.fail (if isUnreadable f then f.behind (.manifestLoad key) else f)
    | .ok versions =>
      modify fun t =>
        { t with manifest := { t.manifest with versions := t.manifest.versions.overlay versions } }
      onWorld (World.note (.manifestLoaded versions.size key))

/-- **Writes the manifest** to its blob if it is dirty, and says whether the store took it. A refusal
is logged and not passed on, for the blobs that the manifest tells of are written already. -/
def flush [Store σ] (bucket key : String) (timeout : Option Binary64) (stamp : Property.Stamp) :
    Act (Tracking σ) Bool := do
  let t ← get
  if !t.manifest.dirty then return false
  let file := Property.write stamp none t.manifest.versions
  let answer ← Act.attempt (onWorld (Store.put bucket key file timeout))
  match answer with
  | .error _ =>
    onWorld (World.note (.manifestUnwritten key))
    return false
  | .ok _ =>
    onWorld (World.note (.manifestWritten t.manifest.versions.size key))
    return true

end Tracking

end BlobRemote
