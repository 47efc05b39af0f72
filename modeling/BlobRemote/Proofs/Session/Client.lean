import Mathlib
import BlobRemote.Proofs.Session.Operation
import BlobRemote.Proofs.Store.Unreliable

/-!
# Clients

A *client* (`BlobRemote.Client`) is a session together with the files that it is writing piece by
piece. It is asked for one thing after another (`BlobRemote.Client.Request`): to write, delete, open
or list files of any database, to open another database, and to begin, feed, close or abort any of
the files that it writes piece by piece, in any order. A *step* of a run is a request and the fates
of the calls that it makes.
-/

namespace BlobRemote

/-- A session, and the files that it writes piece by piece, the first begun first. -/
structure Client (σ : Type) where
  /-- The session. -/
  session : Session σ
  /-- The files. -/
  uploads : List Upload

namespace Client

/-- What a client can be asked for. A database is any one: the repository's own, or one that was
opened from it. -/
inductive Request where
  /-- Creating or replacing a file. -/
  | write (d : Database) (path : String) (data : Bytes)
  /-- Deleting a file. -/
  | delete (d : Database) (path : String)
  /-- Opening a file for reading. -/
  | «open» (d : Database) (path : String)
  /-- Listing the files below a directory. -/
  | list (d : Database) (path : String)
  /-- Opening another database. -/
  | alternate (d : Database) (location : String)
  /-- Beginning to write a file piece by piece. -/
  | begin (d : Database) (path : String)
  /-- Writing a piece to the file with a number. -/
  | feed (number : Nat) (piece : Bytes)
  /-- Closing the file with a number. -/
  | close (number : Nat)
  /-- Aborting the file with a number. -/
  | abort (number : Nat)

/-- What a client answers. -/
inductive Answer where
  /-- It is done. -/
  | done
  /-- The file, open for reading. -/
  | stream (stream : Stream)
  /-- The names of files. -/
  | names (names : List String)
  /-- Another database. -/
  | database (d : Database)
  /-- What closing a file did. -/
  | closed (completion : Completion)
  /-- There is no file with the number. -/
  | unknown

variable {σ α : Type}

/-- An operation of the session. -/
def onSession (x : Act (Session σ) α) : Act (Client σ) α :=
  x.focus Client.session (fun s c => { c with session := s })

/-- An operation on the file with a number, what it did being told to the manifest. -/
def onUpload (number : Nat) (completion : α → Completion) (x : Act (Uploading σ) α) :
    Act (Client σ) (Option α) := fun c =>
  match c.uploads[number]? with
  | none => .ok none c
  | some u =>
    match Writing.onUpload completion x ⟨c.session, u⟩ with
    | .ok a w => .ok (some a) ⟨w.toSession, c.uploads.set number w.upload⟩
    | .error f w => .error f ⟨w.toSession, c.uploads.set number w.upload⟩

/-- **What a client does with a request.** -/
def perform [Store σ] : Request → Act (Client σ) Answer
  | .write d path data => do
    onSession (d.write path data)
    return .done
  | .delete d path => do
    onSession (d.delete path)
    return .done
  | .open d path => do
    let stream ← onSession (d.open path)
    return .stream stream
  | .list d path => do
    let names ← onSession (d.list path)
    return .names names
  | .alternate d location => do
    let other ← onSession (d.alternate location)
    return .database other
  | .begin d path => do
    let upload ← onSession (d.beginWrite path)
    modify fun c => { c with uploads := c.uploads ++ [upload] }
    return .done
  | .feed number piece => do
    let fed ← onUpload number (fun _ => .nothing) (Upload.write piece)
    return fed.elim .unknown fun _ => .done
  | .close number => do
    let completion ← onUpload number id Upload.close
    return completion.elim .unknown .closed
  | .abort number => do
    let aborted ← onUpload number (fun _ => .nothing) Upload.abort
    return aborted.elim .unknown fun _ => .done

theorem onSession_apply (x : Act (Session σ) α) (c : Client σ) :
    onSession x c =
      match x c.session with
      | .ok a s => .ok a { c with session := s }
      | .error f s => .error f { c with session := s } := by
  rw [onSession, Act.focus_apply]
  cases x c.session <;> rfl

theorem stateOf_onSession (x : Act (Session σ) α) (c : Client σ) :
    Act.stateOf (onSession x c) = { c with session := Act.stateOf (x c.session) } := by
  rw [onSession_apply]
  cases x c.session <;> rfl

/-- An operation of the session whose result is the answer. -/
theorem onSession_bind_pure_apply (x : Act (Session σ) α) (g : α → Answer) (c : Client σ) :
    (onSession x >>= fun a => pure (g a)) c =
      match x c.session with
      | .ok a s => .ok (g a) { c with session := s }
      | .error f s => .error f { c with session := s } := by
  rw [Act.bind_apply, onSession_apply]
  cases x c.session <;> rfl

/-- An operation on a file whose result is the answer. -/
theorem onUpload_bind_pure_apply [Store σ] (number : Nat) (completion : α → Completion)
    (x : Act (Uploading σ) α) (g : Option α → Answer) (c : Client σ) :
    (onUpload number completion x >>= fun a => pure (g a)) c =
      match c.uploads[number]? with
      | none => .ok (g none) c
      | some u =>
        match x ⟨c.session.toWorld, u⟩ with
        | .ok a w =>
          .ok (g (some a))
            { session := { c.session with
                toWorld := w.toWorld
                manifest := Writing.told c.session.manifest u.key (completion a) }
              uploads := c.uploads.set number w.upload }
        | .error f w =>
          .error f
            { session := { c.session with toWorld := w.toWorld }
              uploads := c.uploads.set number w.upload } := by
  rw [Act.bind_apply, onUpload]
  cases c.uploads[number]? with
  | none => rfl
  | some u =>
    dsimp only
    rw [Writing.onUpload]
    cases x ⟨c.session.toWorld, u⟩ <;> rfl

/-- **Beginning to write a file** begins an upload to the key of its path. -/
theorem begin_apply [Store σ] (d : Database) (path : String) (c : Client σ) :
    perform (.begin d path) c =
      match Key.resolve d.objectsKey path with
      | .error climb => .error (Reason.climb climb).alone c
      | .ok key =>
        .ok .done { c with
          uploads := c.uploads ++ [Upload.start c.session.remote.bucket key] } := by
  rw [perform, Act.bind_apply, onSession_apply, Database.beginWrite_apply]
  cases Key.resolve d.objectsKey path <;> rfl

/-! ### Runs -/

/-- A client whose calls have other fates from now on. -/
def facing (fates : List (Option Failure)) (c : Client (Unreliable σ)) : Client (Unreliable σ) :=
  { c with session.store.fates := fates }

/-- A step of a run. -/
structure Step where
  /-- The fates of the calls in it. -/
  fates : List (Option Failure)
  /-- What the client is asked for. -/
  request : Request

/-- The failure of the first call of a step, if it is to fail. -/
def Step.fate (step : Step) : Option Failure := step.fates.head?.join

variable [Store σ]

/-- What a client answers in a step. -/
def answer (c : Client (Unreliable σ)) (step : Step) : Except Failure Answer :=
  Act.answerOf (perform step.request (c.facing step.fates))

/-- A client after a step. -/
def after (c : Client (Unreliable σ)) (step : Step) : Client (Unreliable σ) :=
  Act.stateOf (perform step.request (c.facing step.fates))

/-- **A client after a run.** -/
def run (c : Client (Unreliable σ)) (steps : List Step) : Client (Unreliable σ) :=
  steps.foldl after c

end Client

end BlobRemote
