import Mathlib
import BlobRemote.Proofs.Act
import BlobRemote.Ref.Scan

/-!
# Reading changes nothing

What reads and listings of a store leave as it is, all operations that only read leave as it is, and
they leave the manifest alone: opening and listing files, looking for packs and for other databases,
and scanning references, however far the scan comes before it fails. The part of a store that reads
and listings leave is a parameter (`BlobRemote.ReadsLeave`), because a store may well change with
them: it may count them, or use up what it was given to answer them with.
-/

namespace BlobRemote

variable {σ γ : Type}

/-- **The part of a store that reads and listings leave as it is.** -/
structure ReadsLeave [Store σ] (part : World σ → γ) : Prop where
  /-- Reads leave it. -/
  get : ∀ bucket key version, Act.Leaves part (Store.get bucket key version)
  /-- Listings leave it. -/
  list : ∀ bucket directory, Act.Leaves part (Store.list bucket directory)
  /-- It has nothing to do with what is logged. -/
  note : ∀ e, Act.Leaves part (World.note e)

/-- Reads and listings leave the part of a store in which there is nothing. -/
theorem ReadsLeave.nothing [Store σ] : ReadsLeave (fun _ : World σ => ()) :=
  ⟨fun _ _ _ _ => rfl, fun _ _ _ => rfl, fun _ _ => rfl⟩

namespace Session

/-- What a session is, but for the rest of its store. -/
def around (part : World σ → γ) (s : Session σ) : γ × Manifest × Remote × Bool :=
  (part s.toWorld, s.manifest, s.remote, s.closed)

theorem leaves_onWorld {part : World σ → γ} {α : Type} {x : Act (World σ) α}
    (h : Act.Leaves part x) : Act.Leaves (around part) (onWorld x) := by
  refine Act.Leaves.focus (p := fun t : Tracking σ => (part t.toWorld, t.manifest)) ?_ ?_
  · exact h.focus fun w t hw => congrArg (·, t.manifest) hw
  · intro t s ht
    rw [Prod.mk.injEq] at ht
    rw [around, ht.1, ht.2]
    rfl

end Session

variable [Store σ] {part : World σ → γ} (h : ReadsLeave part)
include h

namespace Database

open Session (around)

theorem leaves_open (d : Database) (path : String) : Act.Leaves (around part) (d.open path) := by
  refine (Act.Leaves.ofExcept _ _).bind fun key => Act.Leaves.get.bind fun s => ?_
  exact (Session.leaves_onWorld (h.get _ _ _)).bind fun answer => Act.Leaves.pure _

theorem leaves_read (d : Database) (path : String) : Act.Leaves (around part) (d.read path) := by
  refine (leaves_open h d path).bind fun stream => ?_
  unfold Stream.read
  cases stream.content with
  | ok data => exact Act.Leaves.pure data
  | error f => exact Act.Leaves.fail f

theorem leaves_list (d : Database) (path : String) : Act.Leaves (around part) (d.list path) := by
  refine (Act.Leaves.ofExcept _ _).bind fun key => Act.Leaves.get.bind fun s => ?_
  exact Session.leaves_onWorld (h.list _ _)

theorem leaves_packNames (d : Database) : Act.Leaves (around part) d.packNames :=
  (leaves_list h d "pack").bind fun _ => Act.Leaves.pure _

omit [Store σ] h in
theorem leaves_alternate (d : Database) (location : String) {s : Type} {part : s → γ} :
    Act.Leaves part (d.alternate location) :=
  (Act.Leaves.ofExcept _ _).bind fun _ => Act.Leaves.pure _

theorem leaves_alternateOf (d : Database) (line : Bytes) :
    Act.Leaves (around part) (d.alternateOf line) := by
  refine (Act.Leaves.ofExcept _ _).bind fun location => ?_
  dsimp only
  split
  · exact Act.Leaves.pure none
  · refine Act.Leaves.get.bind fun s => (Session.leaves_onWorld (h.note _)).bind fun _ => ?_
    exact (leaves_alternate d _).bind fun other => Act.Leaves.pure _

theorem leaves_readAlternates (d : Database) (path : String) :
    Act.Leaves (around part) (d.readAlternates path) := by
  refine (leaves_read h d path).bind fun data => ?_
  exact (Act.Leaves.each (leaves_alternateOf h d) _).bind fun found => Act.Leaves.pure _

theorem leaves_alternates (d : Database) : Act.Leaves (around part) d.alternates := by
  refine (leaves_readAlternates h d _).attempt.bind fun answer => ?_
  cases answer with
  | ok found => exact Act.Leaves.pure _
  | error f =>
    dsimp only
    split
    · exact Act.Leaves.pure none
    · exact Act.Leaves.fail f

end Database

namespace Scan

/-- What a scan is, but for the references read so far and the rest of the store. -/
def around (part : World σ → γ) (t : Scan σ) : γ × Manifest × Remote × Bool :=
  Session.around part t.toSession

omit [Store σ] h in
theorem leaves_onSession {α : Type} {x : Act (Session σ) α}
    (hx : Act.Leaves (Session.around part) x) : Act.Leaves (around part) (onSession x) :=
  hx.focus fun _ _ hs => hs

omit [Store σ] h in
theorem leaves_file (r : Ref) : Act.Leaves (around part) (file r) := fun _ => rfl

theorem leaves_readPacked (d : Database) : Act.Leaves (around part) (readPacked d) := by
  refine Act.Leaves.get.bind fun s => ?_
  refine (leaves_onSession (Database.leaves_open h d _)).attempt.bind fun answer => ?_
  cases answer with
  | error f =>
    dsimp only
    split
    · exact Act.Leaves.pure ()
    · exact Act.Leaves.fail _
  | ok stream =>
    dsimp only
    cases stream.content with
    | error f => exact Act.Leaves.fail _
    | ok data =>
      refine (Act.Leaves.each (fun e => leaves_file _) _).bind fun _ => ?_
      cases (Packed.read data).fault with
      | none => exact Act.Leaves.pure ()
      | some fault => exact Act.Leaves.fail _

omit h in
/-- Reading a blob leaves what reading a file leaves. -/
theorem leaves_blob_of_read {δ : Type} {part : Scan σ → δ} {d : Database}
    (hread : ∀ path, Act.Leaves part (onSession (d.read path))) (name : Bytes) :
    Act.Leaves part (blob d name) := by
  have hpath : Act.Leaves part (Database.pathOfRef name) :=
    (Act.Leaves.ofExcept _ _).bind fun text => Act.Leaves.pure _
  refine hpath.bind fun path => Act.Leaves.get.bind fun s => ?_
  refine (hread path).attempt.bind fun answer => ?_
  cases answer with
  | ok data => exact Act.Leaves.pure _
  | error f =>
    dsimp only
    split
    · exact Act.Leaves.pure none
    · exact Act.Leaves.fail _

theorem leaves_blob (d : Database) (name : Bytes) : Act.Leaves (around part) (blob d name) :=
  leaves_blob_of_read (fun path => leaves_onSession (Database.leaves_read h d path)) name

omit [Store σ] h in
theorem leaves_fileDirect (name objectId : Bytes) :
    Act.Leaves (around part) (fileDirect name objectId) :=
  Act.Leaves.get.bind fun _ => (leaves_file _).bind fun _ => Act.Leaves.pure _

theorem leaves_fileSymbolic (name target : Bytes) (found : Option Ref) :
    Act.Leaves (around part) (fileSymbolic name target found) :=
  (leaves_onSession (Session.leaves_onWorld (h.note _))).bind fun _ =>
    (leaves_file _).bind fun _ => Act.Leaves.pure _

theorem leaves_readWithin (d : Database) (fuel : Nat) (resolving : List Bytes) (name : Bytes) :
    Act.Leaves (around part) (readWithin d fuel resolving name) := by
  induction fuel generalizing resolving name with
  | zero => exact Act.Leaves.refuse _
  | succ fuel ih =>
    rw [readWithin]
    split
    · exact Act.Leaves.refuse _
    · refine (leaves_blob h d name).bind fun data => ?_
      cases data with
      | none => exact Act.Leaves.pure none
      | some data =>
        dsimp only
        cases Ref.contentOf data with
        | malformed line => exact Act.Leaves.refuse _
        | object objectId => exact leaves_fileDirect name objectId
        | symbolic target =>
          refine Act.Leaves.get.bind fun t => ?_
          cases t.refs.get? target with
          | some r => exact leaves_fileSymbolic h name target (some r)
          | none => exact (ih _ _).bind fun found => leaves_fileSymbolic h name target found

theorem leaves_read (d : Database) (name : Bytes) : Act.Leaves (around part) (read d name) :=
  Act.Leaves.get.bind fun _ => leaves_readWithin h d _ _ _

theorem leaves_readLoose (d : Database) : Act.Leaves (around part) (readLoose d) := by
  refine Act.Leaves.get.bind fun s => ?_
  refine (leaves_onSession (Database.leaves_list h d _)).attempt.bind fun answer => ?_
  cases answer with
  | error f => exact Act.Leaves.fail _
  | ok names =>
    exact (Act.Leaves.each (fun n => leaves_read h d _) _).bind fun _ => Act.Leaves.pure ()

theorem leaves_readAll (d : Database) : Act.Leaves (around part) (readAll d) :=
  (leaves_readPacked h d).bind fun _ => (leaves_readLoose h d).bind fun _ =>
    (leaves_read h d _).bind fun _ => Act.Leaves.pure ()

end Scan

namespace Database

theorem leaves_advertised (d : Database) :
    Act.Leaves (Session.around part) (d.advertised : Act (Session σ) Refs) := by
  intro s
  have hs := Scan.leaves_readAll h d ⟨s, Dict.empty⟩
  rw [advertised]
  cases hr : Scan.readAll d ⟨s, Dict.empty⟩ with
  | ok a t =>
    rw [hr] at hs
    exact hs
  | error f t =>
    rw [hr] at hs
    exact hs

theorem leaves_connect :
    Act.Leaves (Session.around part) (connect : Act (Session σ) (Database × Refs)) :=
  Act.Leaves.get.bind fun _ => (leaves_advertised h _).bind fun _ => Act.Leaves.pure _

end Database

end BlobRemote
