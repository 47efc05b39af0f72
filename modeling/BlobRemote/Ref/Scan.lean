import BlobRemote.Database

/-!
# Scanning references

The references that a repository advertises. The packed ones are read first, then the loose ones in
ascending order of their names, so that a loose reference knows whether it hides a packed one, and
`HEAD` last. The references read so far are part of the state and are filled in as they are found; a
symbolic reference is filed once the reference that it names is known.
-/

namespace BlobRemote

/-- A session, and the references read so far. -/
structure Scan (σ : Type) extends Session σ where
  /-- The references read so far. -/
  refs : Refs

namespace Scan

variable {σ : Type}

/-- An operation on the session of a scan. -/
def onSession {α : Type} (x : Act (Session σ) α) : Act (Scan σ) α :=
  x.focus Scan.toSession (fun s t => { t with toSession := s })

/-- Files a reference under its name. -/
def file (r : Ref) : Act (Scan σ) Unit :=
  modify fun t => { t with refs := t.refs.insert r.name r }

/-- The failure to blame on the repository, if the store or the system is behind it. -/
def blame (d : Database) (r : Remote) (trouble : Trouble) (f : Failure) : Failure :=
  if f.reason.isSystem || f.reason.isTransport then
    f.behind (.transport (some (d.uri r)) trouble)
  else f

/-! ### Packed references -/

/-- A packed reference. -/
def packedRef (e : Packed.Entry) : Ref := .direct e.name .packed (some e.objectId) e.peeled

/-- **Reads the packed references**, if there is a file of them. What stands before a fault is
filed. -/
def readPacked [Store σ] (d : Database) : Act (Scan σ) Unit := do
  let s ← get
  match ← Act.attempt (onSession (d.open Database.packedRefsPath)) with
  | .error f =>
    if f.reason.isNotFound then return
    Act.fail (blame d s.remote .packedRefs f)
  | .ok stream =>
    let trouble := Reason.transport (some (d.uri s.remote)) .packedRefs
    match stream.content with
    -- the store has handed out the blob, and only the system is behind what happens to it then
    | .error f => Act.fail (if f.reason.isSystem then f.behind trouble else f)
    | .ok data =>
      let parse := Packed.read data
      let _ ← Act.each (fun e => file (packedRef e)) parse.entries
      match parse.fault with
      | none => return
      | some fault => Act.fail ((Reason.packedRefs fault).alone.behind trouble)

/-! ### Loose references -/

/-- Where a loose reference is, given what is filed under its name. -/
def looseStorage (old : Option Ref) : Storage :=
  if old.any fun r => r.storage = .packed then .loosePacked else .loose

/-- The blob of a loose reference, if there is one. -/
def blob [Store σ] (d : Database) (name : Bytes) : Act (Scan σ) (Option Bytes) := do
  let path ← Database.pathOfRef name
  let s ← get
  match ← Act.attempt (onSession (d.read path)) with
  | .error f =>
    if f.reason.isNotFound then return none
    Act.fail (blame d s.remote (.unreadable path) f)
  | .ok data => return some data

/-- Files a loose reference to an object. -/
def fileDirect (name objectId : Bytes) : Act (Scan σ) (Option Ref) := do
  let t ← get
  let r := Ref.direct name (looseStorage (t.refs.get? name)) (some objectId) none
  file r
  return some r

/-- Files a loose reference to another one, which is new unless it was found. -/
def fileSymbolic (name target : Bytes) (found : Option Ref) : Act (Scan σ) (Option Ref) := do
  let r := Ref.symbolic name (found.getD (.direct target .new none none))
  onSession (Session.onWorld (World.note (.symbolicRef name target)))
  file r
  return some r

/-- Reads a loose reference and files it. Of a symbolic one, the reference that it names is read
first unless it is filed; `resolving` holds the names that led here, the outermost first, and `fuel`
bounds how many more there can be. There is no reference if there is no blob. -/
def readWithin [Store σ] (d : Database) : Nat → List Bytes → Bytes → Act (Scan σ) (Option Ref)
  | 0, _, _ => Act.refuse .endless
  | fuel + 1, resolving, name =>
    if resolving.contains name then Act.refuse (.cyclicRef name resolving)
    else do
      match ← blob d name with
      | none => return none
      | some data =>
        match Ref.contentOf data with
        | .malformed line => Act.refuse (.malformedRef name line)
        | .object objectId => fileDirect name objectId
        | .symbolic target =>
          let t ← get
          match t.refs.get? target with
          | some r => fileSymbolic name target (some r)
          | none =>
            let found ← readWithin d fuel (resolving ++ [name]) target
            fileSymbolic name target found

/-- A bound on the length of a chain of symbolic references. A blob is reached under at most two
names for each number of segments that a name climbs. -/
def chainBound [Store σ] (d : Database) (store : σ) : Nat :=
  2 * ((Cut.fields '/' d.objectsKey.toList).length + 1) * Store.extent store + 2

/-- **Reads a loose reference** and files it, and the references that it leads to. -/
def read [Store σ] (d : Database) (name : Bytes) : Act (Scan σ) (Option Ref) := do
  let s ← get
  readWithin d (chainBound d s.store) [] name

/-- The path of the directory of references. -/
def refsPath : String := "../refs"

/-- The name of the reference whose blob is listed under a name. -/
def listedName (listed : String) : Bytes := Utf8.encodeText ("refs/" ++ listed)

/-- The name of the reference that stands for the repository's current branch. -/
def headName : Bytes := Utf8.encodeText "HEAD"

/-- **Reads the loose references** that a listing shows, in ascending order. -/
def readLoose [Store σ] (d : Database) : Act (Scan σ) Unit := do
  let s ← get
  match ← Act.attempt (onSession (d.list refsPath)) with
  | .error f => Act.fail (blame d s.remote .listing f)
  | .ok names =>
    let _ ← Act.each (fun n => read d (listedName n)) (Names.sorted names)
    return

/-- Reads all references: packed ones, loose ones, and the current branch. -/
def readAll [Store σ] (d : Database) : Act (Scan σ) Unit := do
  readPacked d
  readLoose d
  let _ ← read d headName

end Scan

namespace Database

variable {σ : Type}

/-- **The references that the repository advertises**, in ascending order of their names. -/
def advertised [Store σ] (d : Database) : Act (Session σ) Refs := fun s =>
  match Scan.readAll d ⟨s, Dict.empty⟩ with
  | .ok () t => .ok t.refs.sort t.toSession
  | .error f t => .error f t.toSession

/-- The database of a session's own repository, and the references that it advertises. -/
def connect [Store σ] : Act (Session σ) (Database × Refs) := do
  let s ← get
  let d : Database := ⟨s.remote.objectsKey⟩
  let refs ← d.advertised
  return (d, refs)

end Database

end BlobRemote
