import Mathlib
import BlobRemote.Proofs.Session.Client
import BlobRemote.Proofs.Session.Reading

/-!
# What a session can do to its store and its manifest

A client can be told more than it can be asked for (`BlobRemote.Client.Command`): to track and
untrack keys, to write and delete references and the files around them, and to read in all the ways
in which a database can be read. However much a command does, there are only five things that it can
do to the blobs and the manifest taken together (`BlobRemote.Moves`), and it does one of them at the
most, whatever fails in it. An invariant of the two has to be checked for these five and for no
command. If the client does not track keys itself, three of the five remain: the manifest then tells
of nothing that the store was not told of.
-/

namespace BlobRemote

/-! ### Moves -/

/-- **What can become of the blobs and the manifest** of a session in a single step, if only some
keys of a bucket can be written. That keys are tracked and untracked without a write is admitted if
`tracks` is so. -/
inductive Moves (bucket : String) (writable : String → Prop) (tracks : Prop) :
    Memory × Manifest → Memory × Manifest → Prop where
  /-- Nothing happens. -/
  | idle (m : Memory) (f : Manifest) : Moves bucket writable tracks (m, f) (m, f)
  /-- A blob is written, and tracked. -/
  | write (m : Memory) (f : Manifest) (key : String) (data : Bytes) (h : writable key) :
    Moves bucket writable tracks (m, f)
      (m.put bucket key data, f.track key (m.told (m.nextRevision data).version))
  /-- A blob is deleted, and untracked. -/
  | delete (m : Memory) (f : Manifest) (key : String) (h : writable key) :
    Moves bucket writable tracks (m, f) (m.delete bucket key, f.untrack key)
  /-- A key is tracked. -/
  | track (m : Memory) (f : Manifest) (key : String) (version : Option String) (h : tracks) :
    Moves bucket writable tracks (m, f) (m, f.track key version)
  /-- A key is untracked. -/
  | untrack (m : Memory) (f : Manifest) (key : String) (h : tracks) :
    Moves bucket writable tracks (m, f) (m, f.untrack key)

/-- Reads and listings leave the blobs of a store in memory as they are. -/
theorem Unreliable.readsLeave_inner :
    ReadsLeave (fun w : World (Unreliable Memory) => w.store.inner) where
  get bucket key version w := by
    rw [Unreliable.get_apply]
    cases w.store.next with
    | some f => rfl
    | none => cases w.store.inner.find? bucket key version <;> rfl
  list bucket directory w := by
    rw [Unreliable.list_apply]
    cases w.store.next <;> rfl
  note e w := rfl

namespace Session

/-- The blobs and the manifest of a session. -/
def contents (s : Session (Unreliable Memory)) : Memory × Manifest := (s.store.inner, s.manifest)

/-- **A session moves to another one** on the same repository. -/
structure Moved (writable : String → Prop) (tracks : Prop) (s s' : Session (Unreliable Memory)) :
    Prop where
  /-- The repository is the same. -/
  remote : s'.remote = s.remote
  /-- It is closed if it was. -/
  closed : s'.closed = s.closed
  /-- The blobs and the manifest move. -/
  moves : Moves s.remote.bucket writable tracks s.contents s'.contents

namespace Moved

variable {writable : String → Prop} {tracks : Prop}

theorem refl (s : Session (Unreliable Memory)) : Moved writable tracks s s := ⟨rfl, rfl, .idle _ _⟩

variable (d : Database) (path : String) (s : Session (Unreliable Memory))

theorem write (data : Bytes) (h : ∀ key, Key.resolve d.objectsKey path = .ok key → writable key) :
    Moved writable tracks s (Act.stateOf (d.write path data s)) := by
  rw [Database.write_apply]
  cases hkey : Key.resolve d.objectsKey path with
  | error climb => exact refl s
  | ok key =>
    dsimp only
    rw [Unreliable.put_apply]
    cases s.store.next with
    | some f => exact ⟨rfl, rfl, .idle _ _⟩
    | none => exact ⟨rfl, rfl, .write s.store.inner s.manifest key data (h key hkey)⟩

theorem delete (h : ∀ key, Key.resolve d.objectsKey path = .ok key → writable key) :
    Moved writable tracks s (Act.stateOf (d.delete path s)) := by
  rw [Database.delete_apply]
  cases hkey : Key.resolve d.objectsKey path with
  | error climb => exact refl s
  | ok key =>
    dsimp only
    rw [Unreliable.delete_apply]
    cases s.store.next with
    | some f => exact ⟨rfl, rfl, .idle _ _⟩
    | none => exact ⟨rfl, rfl, .delete s.store.inner s.manifest key (h key hkey)⟩

end Moved

end Session

namespace Client

/-! ### Commands -/

/-- What a client can be told to do. -/
inductive Command where
  /-- What it can be asked for. -/
  | request (request : Request)
  /-- Tracking a version of a key. -/
  | track (key : String) (version : Option String)
  /-- Untracking a key. -/
  | untrack (key : String)
  /-- Writing a reference. -/
  | writeRef (d : Database) (name objectId : Bytes)
  /-- Deleting a reference. -/
  | deleteRef (d : Database) (name : Bytes)
  /-- Replacing the file of packed references. -/
  | writePackedRefs (d : Database) (objectIds : Dict Bytes Bytes)
    (peeled : Option (Dict Bytes Bytes))
  /-- Replacing the file that lists packs. -/
  | writeInfoPacks (d : Database) (names : List String)
  /-- Reading a file. -/
  | read (d : Database) (path : String)
  /-- Looking for packs. -/
  | packNames (d : Database)
  /-- Looking for other databases in a file. -/
  | readAlternates (d : Database) (path : String)
  /-- Looking for other databases. -/
  | alternates (d : Database)
  /-- Scanning references. -/
  | advertised (d : Database)
  /-- Scanning the references of the repository itself. -/
  | connect

variable {σ α : Type}

/-- An operation of the session whose result nobody asks for. -/
def doing (x : Act (Session σ) α) : Act (Client σ) Unit := do
  let _ ← onSession x

/-- **What a client does at a command.** -/
def obey [Store σ] : Command → Act (Client σ) Unit
  | .request request => do
    let _ ← perform request
  | .track key version => doing (Session.onTracking (Tracking.track key version))
  | .untrack key => doing (Session.onTracking (Tracking.untrack key))
  | .writeRef d name objectId => doing (d.writeRef name objectId)
  | .deleteRef d name => doing (d.deleteRef name)
  | .writePackedRefs d objectIds peeled => doing (d.writePackedRefs objectIds peeled)
  | .writeInfoPacks d names => doing (d.writeInfoPacks names)
  | .read d path => doing (d.read path)
  | .packNames d => doing d.packNames
  | .readAlternates d path => doing (d.readAlternates path)
  | .alternates d => doing d.alternates
  | .advertised d => doing d.advertised
  | .connect => doing Database.connect

/-- Whether a request only reads. -/
def Request.reads : Request → Bool
  | .open .. => true
  | .list .. => true
  | .alternate .. => true
  | _ => false

/-- Whether a command only reads. -/
def Command.reads : Command → Bool
  | .request asked => asked.reads
  | .read .. => true
  | .packNames _ => true
  | .readAlternates .. => true
  | .alternates _ => true
  | .advertised _ => true
  | .connect => true
  | _ => false

/-- Whether a command tracks or untracks a key itself. -/
def Command.tracks : Command → Bool
  | .track .. => true
  | .untrack _ => true
  | _ => false

section Reading

variable {γ : Type} {part : World σ → γ}

/-- What a client is, but for the rest of its store. -/
def around (part : World σ → γ) (c : Client σ) : (γ × Manifest × Remote × Bool) × List Upload :=
  (c.session.around part, c.uploads)

theorem leaves_onSession_bind {β : Type} {x : Act (Session σ) α} (g : α → β)
    (hx : Act.Leaves (Session.around part) x) :
    Act.Leaves (around part) (onSession x >>= fun a => pure (g a)) := by
  have hsession : Act.Leaves (around part) (onSession x) :=
    hx.focus fun _ c hs => congrArg (·, c.uploads) hs
  exact hsession.bind fun _ => Act.Leaves.pure _

variable [Store σ] (h : ReadsLeave part)
include h

theorem leaves_perform {request : Request} (hr : request.reads = true) :
    Act.Leaves (around part) (perform request) := by
  cases request with
  | «open» d path => exact leaves_onSession_bind _ (Database.leaves_open h d path)
  | list d path => exact leaves_onSession_bind _ (Database.leaves_list h d path)
  | alternate d location => exact leaves_onSession_bind _ (Database.leaves_alternate d location)
  | _ => cases hr

/-- **A command that only reads** leaves what reads and listings leave. -/
theorem leaves_obey {command : Command} (hr : command.reads = true) :
    Act.Leaves (around part) (obey command) := by
  cases command with
  | request request => exact (leaves_perform h hr).bind fun _ => Act.Leaves.pure _
  | read d path => exact leaves_onSession_bind _ (Database.leaves_read h d path)
  | packNames d => exact leaves_onSession_bind _ (Database.leaves_packNames h d)
  | readAlternates d path => exact leaves_onSession_bind _ (Database.leaves_readAlternates h d path)
  | alternates d => exact leaves_onSession_bind _ (Database.leaves_alternates h d)
  | advertised d => exact leaves_onSession_bind _ (Database.leaves_advertised h d)
  | connect => exact leaves_onSession_bind _ (Database.leaves_connect h)
  | _ => cases hr

end Reading

/-- The path of a reference, if its name is text. -/
def refPath? (name : Bytes) : Option String := (Utf8.decodeText name).toOption.map Database.refPath

/-- The path that a command writes to or deletes, and the database that it is relative to. -/
def Command.target? : Command → Option (Database × String)
  | .request (.write d path _) => some (d, path)
  | .request (.delete d path) => some (d, path)
  | .request (.begin d path) => some (d, path)
  | .writeRef d name _ => (refPath? name).map (d, ·)
  | .deleteRef d name => (refPath? name).map (d, ·)
  | .writePackedRefs d _ _ => some (d, Database.packedRefsPath)
  | .writeInfoPacks d _ => some (d, Database.infoPacksPath)
  | _ => none

/-- **A command writes and deletes at some keys only**: its path leads to none of the others. -/
def Command.Within (writable : String → Prop) (command : Command) : Prop :=
  ∀ d path, command.target? = some (d, path) →
    ∀ key, Key.resolve d.objectsKey path = .ok key → writable key

/-- All uploads of a client go to the bucket of the repository, to keys that can be written. -/
def Holds (writable : String → Prop) (c : Client σ) : Prop :=
  ∀ u ∈ c.uploads, u.bucket = c.session.remote.bucket ∧ writable u.key

/-- **A client moves to another one**: its session does, and its uploads keep to the keys that can
be written. -/
def Moved (writable : String → Prop) (tracks : Prop) (c c' : Client (Unreliable Memory)) : Prop :=
  c.session.Moved writable tracks c'.session ∧ c'.Holds writable

namespace Moved

variable {writable : String → Prop} {tracks : Prop} {c : Client (Unreliable Memory)}

/-- What only reads writes nothing. -/
theorem of_leaves {α : Type} (hc : c.Holds writable) {x : Act (Client (Unreliable Memory)) α}
    (hx : Act.Leaves (around fun w => w.store.inner) x) :
    Moved writable tracks c (Act.stateOf (x c)) := by
  have h := hx c
  simp only [around, Session.around, Prod.mk.injEq] at h
  obtain ⟨⟨hstore, hmanifest, hremote, hclosed⟩, huploads⟩ := h
  refine ⟨⟨hremote, hclosed, ?_⟩, fun u hu => ?_⟩
  · rw [Session.contents, Session.contents, hstore, hmanifest]
    exact .idle _ _
  · rw [huploads] at hu
    rw [hremote]
    exact hc u hu

theorem onSession_bind {α β : Type} (hc : c.Holds writable)
    {x : Act (Session (Unreliable Memory)) α} (g : α → β)
    (h : c.session.Moved writable tracks (Act.stateOf (x c.session))) :
    Moved writable tracks c (Act.stateOf ((onSession x >>= fun a => pure (g a)) c)) := by
  rw [Act.stateOf_bind_pure, stateOf_onSession]
  exact ⟨h, fun u hu => h.remote ▸ hc u hu⟩

/-- Another upload, to the same key, in the place of one. -/
theorem holds_set (hc : c.Holds writable) {number : Nat} {u u' : Upload}
    (hu : c.uploads[number]? = some u) (hb : u'.bucket = u.bucket) (hk : u'.key = u.key)
    {s : Session (Unreliable Memory)} (hs : s.remote = c.session.remote) :
    Holds writable ⟨s, c.uploads.set number u'⟩ := by
  intro v hv
  rcases List.mem_or_eq_of_mem_set hv with hv | rfl
  · exact hs ▸ hc v hv
  · rw [hb, hk, hs]
    exact hc u (List.mem_of_getElem? hu)

/-- **An upload that goes on** without a call of the store changes nothing else. -/
theorem of_set (hc : c.Holds writable) {number : Nat} {u u' : Upload}
    (hu : c.uploads[number]? = some u) (hb : u'.bucket = u.bucket) (hk : u'.key = u.key) :
    Moved writable tracks c ⟨c.session, c.uploads.set number u'⟩ :=
  ⟨.refl _, holds_set hc hu hb hk rfl⟩

/-- **A request that keeps to the keys that can be written** moves a client, whatever fails in it.
-/
theorem perform (hc : c.Holds writable) (request : Request)
    (hw : Command.Within writable (.request request)) :
    Moved writable tracks c (Act.stateOf (perform request c)) := by
  by_cases hr : request.reads = true
  · exact of_leaves hc (leaves_perform Unreliable.readsLeave_inner hr)
  cases request with
  | write d path data => exact onSession_bind hc _ (.write d path _ data (hw d path rfl))
  | delete d path => exact onSession_bind hc _ (.delete d path _ (hw d path rfl))
  | begin d path =>
    rw [begin_apply]
    cases hkey : Key.resolve d.objectsKey path with
    | error climb => exact ⟨.refl _, hc⟩
    | ok key =>
      refine ⟨.refl _, ?_⟩
      intro u hu
      rcases List.mem_append.1 hu with hu | hu
      · exact hc u hu
      · rw [List.mem_singleton.1 hu]
        exact ⟨rfl, hw d path rfl key hkey⟩
  | feed number piece =>
    rw [Client.perform, onUpload_bind_pure_apply]
    cases hu : c.uploads[number]? with
    | none => exact ⟨.refl _, hc⟩
    | some u =>
      dsimp only
      rw [Upload.write_apply]
      by_cases he : u.ended
      · rw [if_pos he]
        exact of_set hc hu (by rfl) (by rfl)
      · rw [if_neg he]
        exact of_set hc hu (by rfl) (by rfl)
  | close number =>
    rw [Client.perform, onUpload_bind_pure_apply]
    cases hu : c.uploads[number]? with
    | none => exact ⟨.refl _, hc⟩
    | some u =>
      obtain ⟨hb, hk⟩ := hc u (List.mem_of_getElem? hu)
      dsimp only
      -- only closing calls the store, and only the first time
      rw [Upload.close_apply]
      by_cases he : u.ended
      · rw [if_pos he]
        exact of_set hc hu (by rfl) (by rfl)
      · rw [if_neg he, Unreliable.put_apply, hb]
        cases c.session.store.next with
        | some f =>
          exact ⟨⟨rfl, rfl, .idle _ _⟩, holds_set hc hu (by rfl) (by rfl) (by rfl)⟩
        | none =>
          exact ⟨⟨rfl, rfl, .write c.session.store.inner c.session.manifest u.key u.buffer.data hk⟩,
            holds_set hc hu (by rfl) (by rfl) (by rfl)⟩
  | abort number =>
    rw [Client.perform, onUpload_bind_pure_apply]
    cases hu : c.uploads[number]? with
    | none => exact ⟨.refl _, hc⟩
    | some u => exact of_set hc hu (by rfl) (by rfl)
  | _ => exact absurd rfl hr

/-- **A command that keeps to the keys that can be written** moves a client, whatever fails in it. -/
theorem obey (hc : c.Holds writable) (command : Command) (ht : command.tracks = true → tracks)
    (hw : command.Within writable) : Moved writable tracks c (Act.stateOf (obey command c)) := by
  by_cases hr : command.reads = true
  · exact of_leaves hc (leaves_obey Unreliable.readsLeave_inner hr)
  cases command with
  | request request =>
    have hsame : Act.stateOf (Client.obey (.request request) c) =
        Act.stateOf (Client.perform request c) := Act.stateOf_bind_pure _ _ c
    exact hsame ▸ perform hc request hw
  | writeRef d name objectId =>
    refine onSession_bind hc _ ?_
    rw [Database.writeRef_apply]
    cases hname : Utf8.decodeText name with
    | error fault => exact .refl _
    | ok text => exact .write d _ _ _ (hw d _ (by rw [Command.target?, refPath?, hname]; rfl))
  | deleteRef d name =>
    refine onSession_bind hc _ ?_
    rw [Database.deleteRef_apply]
    cases hname : Utf8.decodeText name with
    | error fault => exact .refl _
    | ok text => exact .delete d _ _ (hw d _ (by rw [Command.target?, refPath?, hname]; rfl))
  | writePackedRefs d objectIds peeled =>
    refine onSession_bind hc _ ?_
    rw [Database.writePackedRefs_apply]
    exact .write d _ _ _ (hw d _ rfl)
  | writeInfoPacks d names => exact onSession_bind hc _ (.write d _ _ _ (hw d _ rfl))
  | track key version =>
    exact onSession_bind hc _
      ⟨rfl, rfl, .track c.session.store.inner c.session.manifest key version (ht rfl)⟩
  | untrack key =>
    exact onSession_bind hc _
      ⟨rfl, rfl, .untrack c.session.store.inner c.session.manifest key (ht rfl)⟩
  | _ => exact absurd rfl hr

end Moved

/-! ### Runs of commands -/

/-- A turn: a command, and the fates of the calls in it. -/
structure Turn where
  /-- The fates. -/
  fates : List (Option Failure)
  /-- The command. -/
  command : Command

/-- A client after a turn. -/
def turned [Store σ] (c : Client (Unreliable σ)) (turn : Turn) : Client (Unreliable σ) :=
  Act.stateOf (obey turn.command (c.facing turn.fates))

/-- **A client after some turns.** -/
def follow [Store σ] (c : Client (Unreliable σ)) (turns : List Turn) : Client (Unreliable σ) :=
  turns.foldl turned c

/-- **A run of commands that keep to the keys that can be written is a sequence of moves** of the
session. -/
theorem follow_moved {writable : String → Prop} {c : Client (Unreliable Memory)}
    (hc : c.Holds writable) (turns : List Turn)
    (hw : ∀ turn ∈ turns, turn.command.Within writable) :
    (c.follow turns).session.remote = c.session.remote ∧
      (c.follow turns).session.closed = c.session.closed ∧
      Relation.ReflTransGen (Moves c.session.remote.bucket writable True) c.session.contents
        (c.follow turns).session.contents := by
  induction turns generalizing c with
  | nil => exact ⟨rfl, rfl, .refl⟩
  | cons turn rest ih =>
    have hwrest : ∀ turn ∈ rest, turn.command.Within writable :=
      fun turn hturn => hw turn (List.mem_cons_of_mem _ hturn)
    -- what becomes of a call is decided anew at every turn
    obtain ⟨hmoved, hholds⟩ : Moved writable True (c.facing turn.fates) (c.turned turn) :=
      Moved.obey (c := c.facing turn.fates) hc turn.command (fun _ => trivial)
        (hw turn List.mem_cons_self)
    obtain ⟨hremote, hclosed, hmoves⟩ := ih hholds hwrest
    rw [hmoved.remote] at hremote hmoves
    rw [hmoved.closed] at hclosed
    exact ⟨hremote, hclosed, .head hmoved.moves hmoves⟩

end Client

end BlobRemote
