import Mathlib
import BlobRemote.Http.Scripted
import BlobRemote.Http.Store
import BlobRemote.Proofs.Manifest
import BlobRemote.Proofs.Session.Client
import BlobRemote.Proofs.Store.Recorded

/-!
# Which version a session reads

A session reads a file in the version that its manifest knows. Over a store that keeps a record,
whatever the store is and whatever it answers, the manifest knows of each key what the record leaves
it with (`BlobRemote.Session.Tells`). So a file that was written is read in the version that the
store told of the write (`BlobRemote.Client.open_pinned_iff`), with one exception: a write of which
the store tells no version leaves the key with the version that it had before, and that is the one
that is read (`BlobRemote.Client.open_pinned_before_write`).
-/

namespace BlobRemote

variable {σ : Type} [Store σ]

/-! ### One session -/

namespace Session

/-- **The manifest knows what the record tells**: what a session has asked of its store since it was
`s` leaves each key with the version that the manifest has for it. -/
structure Tells (s s' : Session (Recorded σ)) : Prop where
  /-- The repository is the same. -/
  remote : s'.remote = s.remote
  /-- The record has grown, and the manifest with it. -/
  record : ∃ deeds, s'.store.record = deeds ++ s.store.record ∧
    ∀ key, s'.manifest.version? key =
      Recorded.leaves s.remote.bucket key (s.manifest.version? key) deeds

namespace Tells

variable {s s' s'' : Session (Recorded σ)}

omit [Store σ] in
theorem refl (s : Session (Recorded σ)) : Tells s s := ⟨rfl, [], rfl, fun _ => rfl⟩

omit [Store σ] in
theorem trans (h : Tells s s') (h' : Tells s' s'') : Tells s s'' := by
  obtain ⟨hremote, deeds, hrecord, hversion⟩ := h
  obtain ⟨hremote', deeds', hrecord', hversion'⟩ := h'
  refine ⟨hremote'.trans hremote, deeds' ++ deeds, ?_, fun key => ?_⟩
  · rw [hrecord', hrecord, List.append_assoc]
  · rw [hversion', hremote, hversion, Recorded.leaves_append]

omit [Store σ] in
/-- A call that is not recorded. -/
theorem of_unrecorded {w : World (Recorded σ)} (hrecord : w.store.record = s.store.record) :
    Tells s { s with toWorld := w } := ⟨rfl, [], hrecord, fun _ => rfl⟩

omit [Store σ] in
/-- A read, of which the manifest need not be told. -/
theorem of_read {w : World (Recorded σ)} {key : String} {version : Option String}
    (hrecord : w.store.record = .read s.remote.bucket key version :: s.store.record) :
    Tells s { s with toWorld := w } :=
  ⟨rfl, [.read s.remote.bucket key version], hrecord, fun _ => rfl⟩

omit [Store σ] in
/-- A write that the manifest is told of. -/
theorem of_stored {w : World (Recorded σ)} {key : String} {version : Option String}
    (hrecord : w.store.record = .stored s.remote.bucket key version :: s.store.record) :
    Tells s { s with toWorld := w, manifest := s.manifest.track key version } := by
  refine ⟨rfl, [.stored s.remote.bucket key version], hrecord, fun k => ?_⟩
  rw [Recorded.leaves, Recorded.leaves]
  refine (Manifest.version?_track s.manifest key k version).trans ?_
  by_cases hk : key = k
  · subst hk
    rw [if_pos rfl, if_pos rfl]
  · have hp : ¬ (s.remote.bucket, key) = (s.remote.bucket, k) := by simpa using hk
    rw [if_neg hk, if_neg hp]

omit [Store σ] in
/-- A deletion that the manifest is told of. -/
theorem of_deleted {w : World (Recorded σ)} {key : String}
    (hrecord : w.store.record = .deleted s.remote.bucket key :: s.store.record) :
    Tells s { s with toWorld := w, manifest := s.manifest.untrack key } := by
  refine ⟨rfl, [.deleted s.remote.bucket key], hrecord, fun k => ?_⟩
  rw [Recorded.leaves, Recorded.leaves]
  refine (Manifest.version?_untrack s.manifest key k).trans ?_
  by_cases hk : key = k
  · subst hk
    rw [if_pos rfl, if_pos rfl]
  · have hp : ¬ (s.remote.bucket, key) = (s.remote.bucket, k) := by simpa using hk
    rw [if_neg hk, if_neg hp]

variable (s)

/-- Storing a blob and telling the manifest of it, or failing to. -/
theorem put (key : String) (data : Bytes) (timeout : Option Binary64) :
    match Store.put s.remote.bucket key data timeout s.toWorld with
    | .ok version w => Tells s { s with toWorld := w, manifest := s.manifest.track key version }
    | .error _ w => Tells s { s with toWorld := w } := by
  have hrecord := Recorded.record_put s.remote.bucket key s.toWorld data timeout
  cases hput : Store.put s.remote.bucket key data timeout s.toWorld with
  | ok version w =>
    rw [hput] at hrecord
    exact of_stored hrecord
  | error f w =>
    rw [hput] at hrecord
    exact of_unrecorded hrecord

theorem write (d : Database) (path : String) (data : Bytes) :
    Tells s (Act.stateOf (d.write path data s)) := by
  rw [Database.write_apply]
  cases Key.resolve d.objectsKey path with
  | error climb => exact refl s
  | ok key =>
    have h := put s key data none
    dsimp only
    cases hput : Store.put s.remote.bucket key data none s.toWorld with
    | ok version w =>
      rw [hput] at h
      exact h
    | error f w =>
      rw [hput] at h
      exact h

theorem delete (d : Database) (path : String) : Tells s (Act.stateOf (d.delete path s)) := by
  rw [Database.delete_apply]
  cases Key.resolve d.objectsKey path with
  | error climb => exact refl s
  | ok key =>
    have hrecord := Recorded.record_delete s.remote.bucket key s.toWorld
    dsimp only
    cases hdelete : Store.delete s.remote.bucket key s.toWorld with
    | ok u w =>
      rw [hdelete] at hrecord
      exact of_deleted hrecord
    | error f w =>
      rw [hdelete] at hrecord
      exact of_unrecorded hrecord

/-- **Opening a file** adds one read to the record, in the version that the manifest knows. -/
theorem record_open {d : Database} {path key : String}
    (hkey : Key.resolve d.objectsKey path = .ok key) :
    (Act.stateOf (d.open path s)).store.record =
      .read s.remote.bucket key (s.manifest.version? key) :: s.store.record := by
  have hrecord := Recorded.record_get s.remote.bucket key s.toWorld (s.manifest.version? key)
  rw [Database.open_apply, hkey]
  dsimp only
  cases hget : Store.get s.remote.bucket key (s.manifest.version? key) s.toWorld with
  | ok answer w =>
    rw [hget] at hrecord
    exact hrecord
  | error f w =>
    rw [hget] at hrecord
    exact hrecord

theorem «open» (d : Database) (path : String) : Tells s (Act.stateOf (d.open path s)) := by
  rw [Database.open_apply]
  cases Key.resolve d.objectsKey path with
  | error climb => exact refl s
  | ok key =>
    have hrecord := Recorded.record_get s.remote.bucket key s.toWorld (s.manifest.version? key)
    dsimp only
    cases hget : Store.get s.remote.bucket key (s.manifest.version? key) s.toWorld with
    | ok answer w =>
      rw [hget] at hrecord
      exact of_read (w := w) hrecord
    | error f w =>
      rw [hget] at hrecord
      exact of_read (w := w) hrecord

theorem list (d : Database) (path : String) : Tells s (Act.stateOf (d.list path s)) := by
  rw [Database.list_apply]
  cases Key.resolve d.objectsKey path with
  | error climb => exact refl s
  | ok key =>
    have hrecord := Recorded.record_list s.remote.bucket s.toWorld key
    dsimp only
    cases hlist : Store.list s.remote.bucket key s.toWorld with
    | ok names w =>
      rw [hlist] at hrecord
      exact of_unrecorded (w := w) hrecord
    | error f w =>
      rw [hlist] at hrecord
      exact of_unrecorded (w := w) hrecord

end Tells

end Session

/-! ### Runs of a client -/

namespace Client

/-- **A client after some requests.** -/
def serve (c : Client σ) (requests : List Request) : Client σ :=
  requests.foldl (fun c request => Act.stateOf (perform request c)) c

theorem serve_concat (c : Client σ) (requests : List Request) (request : Request) :
    c.serve (requests ++ [request]) = Act.stateOf (perform request (c.serve requests)) :=
  List.foldl_concat ..

/-- **A client's manifest knows what the record tells**, and its uploads go to the bucket of the
repository. -/
structure Tells (c c' : Client (Recorded σ)) : Prop where
  /-- The session's manifest does. -/
  session : c.session.Tells c'.session
  /-- The uploads go to the bucket. -/
  uploads : ∀ u ∈ c'.uploads, u.bucket = c'.session.remote.bucket

namespace Tells

variable {c : Client (Recorded σ)} (hc : ∀ u ∈ c.uploads, u.bucket = c.session.remote.bucket)
include hc

omit [Store σ] in
theorem of_session {s : Session (Recorded σ)} (h : c.session.Tells s) :
    Tells c { c with session := s } :=
  ⟨h, fun u hu => (hc u hu).trans (congrArg Remote.bucket h.remote.symm)⟩

omit [Store σ] in
/-- An operation of the session. -/
theorem onSession_bind {α : Type} {x : Act (Session (Recorded σ)) α} (g : α → Answer)
    (h : c.session.Tells (Act.stateOf (x c.session))) :
    Tells c (Act.stateOf ((onSession x >>= fun a => pure (g a)) c)) := by
  rw [Act.stateOf_bind_pure, stateOf_onSession]
  exact of_session hc h

omit [Store σ] in
/-- Another upload, to the same bucket, in the place of one. -/
theorem of_upload {number : Nat} {u u' : Upload} (hu : c.uploads[number]? = some u)
    (hb : u'.bucket = u.bucket) {s : Session (Recorded σ)} (h : c.session.Tells s) :
    Tells c ⟨s, c.uploads.set number u'⟩ := by
  refine ⟨h, fun v hv => ?_⟩
  rcases List.mem_or_eq_of_mem_set hv with hv | rfl
  · exact (hc v hv).trans (congrArg Remote.bucket h.remote.symm)
  · rw [hb, hc u (List.mem_of_getElem? hu)]
    exact congrArg Remote.bucket h.remote.symm

/-- **Every request** keeps the manifest in step with the record. -/
theorem perform (request : Request) : Tells c (Act.stateOf (Client.perform request c)) := by
  cases request with
  | write d path data => exact onSession_bind hc _ (.write c.session d path data)
  | delete d path => exact onSession_bind hc _ (.delete c.session d path)
  | «open» d path => exact onSession_bind hc _ (.open c.session d path)
  | list d path => exact onSession_bind hc _ (.list c.session d path)
  | alternate d location =>
    refine onSession_bind hc _ ?_
    rw [Database.alternate_apply]
    cases Key.resolve d.objectsKey location <;> exact .refl _
  | begin d path =>
    rw [begin_apply]
    cases Key.resolve d.objectsKey path with
    | error climb => exact ⟨.refl _, hc⟩
    | ok key =>
      refine ⟨.refl _, fun u hu => ?_⟩
      rcases List.mem_append.1 hu with hu | hu
      · exact hc u hu
      · rw [List.mem_singleton.1 hu]
        rfl
  | feed number piece =>
    rw [Client.perform, onUpload_bind_pure_apply]
    cases hu : c.uploads[number]? with
    | none => exact ⟨.refl _, hc⟩
    | some u =>
      dsimp only
      rw [Upload.write_apply]
      by_cases he : u.ended
      · rw [if_pos he]
        exact of_upload hc hu (by rfl) (.refl _)
      · rw [if_neg he]
        exact of_upload hc hu (by rfl) (.refl _)
  | close number =>
    rw [Client.perform, onUpload_bind_pure_apply]
    cases hu : c.uploads[number]? with
    | none => exact ⟨.refl _, hc⟩
    | some u =>
      have hput := Session.Tells.put c.session u.key u.buffer.data none
      rw [← hc u (List.mem_of_getElem? hu)] at hput
      dsimp only
      rw [Upload.close_apply]
      by_cases he : u.ended
      · rw [if_pos he]
        exact of_upload hc hu (by rfl) (.refl _)
      · rw [if_neg he]
        dsimp only
        cases hstored : Store.put u.bucket u.key u.buffer.data none c.session.toWorld with
        | ok version w =>
          rw [hstored] at hput
          exact of_upload hc hu (by rfl) hput
        | error f w =>
          rw [hstored] at hput
          exact of_upload hc hu (by rfl) hput
  | abort number =>
    rw [Client.perform, onUpload_bind_pure_apply]
    cases hu : c.uploads[number]? with
    | none => exact ⟨.refl _, hc⟩
    | some u => exact of_upload hc hu (by rfl) (.refl _)

/-- **Every run** keeps the manifest in step with the record. -/
theorem serve (requests : List Request) : Tells c (c.serve requests) := by
  induction requests generalizing c with
  | nil => exact ⟨.refl _, hc⟩
  | cons request rest ih =>
    have hfirst := perform hc request
    have hrest := ih hfirst.uploads
    exact ⟨hfirst.session.trans hrest.session, hrest.uploads⟩

end Tells

/-- **In which version a file that was written is opened.** Take any store that keeps a record, any
entries of the manifest, and any run in which the last successful write or deletion of a key is a
write of which the store told `told`. A path of the key is then opened in the version that the store
told, if it told one, and in the version that the key had before the write, if it told none. So it
is opened in the version that the store told exactly if the store told one or the key had none. -/
theorem open_pinned_iff {s : Session (Recorded σ)} (hs : s.store.record = [])
    (requests : List Request) {key : String} {told : Option String} {between earlier : List Deed}
    (hrecord : ((⟨s, []⟩ : Client _).serve requests).session.store.record =
      between ++ .stored s.remote.bucket key told :: earlier)
    (hbetween : ∀ deed ∈ between, ¬ deed.Changes s.remote.bucket key) {d : Database}
    {path : String} (hkey : Key.resolve d.objectsKey path = .ok key) :
    ∃ version,
      ((⟨s, []⟩ : Client _).serve (requests ++ [.open d path])).session.store.record =
        .read s.remote.bucket key version ::
          ((⟨s, []⟩ : Client _).serve requests).session.store.record ∧
      version = told.or
        (Recorded.leaves s.remote.bucket key (s.manifest.version? key) earlier) ∧
      (version = told ↔ told ≠ none ∨
        Recorded.leaves s.remote.bucket key (s.manifest.version? key) earlier = none) := by
  obtain ⟨⟨hremote, deeds, hdeeds, hversion⟩, -⟩ :=
    Tells.serve (c := ⟨s, []⟩) (fun u hu => by cases hu) requests
  dsimp only at hremote hdeeds hversion
  rw [serve_concat]
  generalize (⟨s, []⟩ : Client _).serve requests = c at *
  -- the record is all that was asked since the session began
  rw [hs, List.append_nil] at hdeeds
  have hknown : c.session.manifest.version? key =
      told.or (Recorded.leaves s.remote.bucket key (s.manifest.version? key) earlier) := by
    rw [hversion, ← hdeeds, hrecord, Recorded.leaves_append,
      Recorded.leaves_of_not_changes hbetween, Recorded.leaves, if_pos rfl]
  refine ⟨c.session.manifest.version? key, ?_, hknown, ?_⟩
  · have hopen := Session.Tells.record_open c.session hkey
    rw [perform, Act.stateOf_bind_pure, stateOf_onSession, hopen, hremote]
  · rw [hknown]
    cases told with
    | none => simp
    | some v => simp

/-- A file that was written twice is opened in its second version, whatever the manifest knew of it
before the run and however far reads lag behind. -/
theorem open_pinned_iff_of_rewrite :
    ∃ version,
      ((⟨⟨⟨⟨⟨Memory.empty true 3, []⟩, []⟩, Manifest.empty.track "p/objects/x" (some "v0")⟩,
          ⟨"b", "p", none⟩, false⟩, []⟩ : Client (Recorded Memory)).serve
        [.write ⟨"p/objects"⟩ "x" [1], .write ⟨"p/objects"⟩ "../objects/x" [2],
          .open ⟨"p/objects"⟩ "y", .open ⟨"p/objects"⟩ "x"]).session.store.record =
        [.read "b" "p/objects/x" version, .read "b" "p/objects/y" none,
          .stored "b" "p/objects/x" (some "v2"), .stored "b" "p/objects/x" (some "v1")] ∧
      version = some "v2" := by
  have hbetween : ∀ deed ∈ [Deed.read "b" "p/objects/y" none],
      ¬ deed.Changes "b" "p/objects/x" := by
    intro deed hdeed
    rw [List.mem_singleton.1 hdeed]
    exact not_false
  obtain ⟨version, hrecord, hversion, -⟩ :=
    @open_pinned_iff Memory _ ⟨⟨⟨⟨Memory.empty true 3, []⟩, []⟩,
        Manifest.empty.track "p/objects/x" (some "v0")⟩, ⟨"b", "p", none⟩, false⟩ rfl
      [.write ⟨"p/objects"⟩ "x" [1], .write ⟨"p/objects"⟩ "../objects/x" [2],
        .open ⟨"p/objects"⟩ "y"]
      "p/objects/x" (some "v2") [.read "b" "p/objects/y" none]
      [.stored "b" "p/objects/x" (some "v1")] (by rfl) hbetween ⟨"p/objects"⟩ "x" rfl
  exact ⟨version, hrecord, hversion⟩

/-- A server on which a manifest tells that a blob has the version `v1`, which takes another blob in
its place without telling a version, and which hands out the old one in the end. -/
def forgetfulServer : Recorded (HttpStore Script) :=
  let answer (text : String) : Reply := .answered ⟨200, [], Utf8.encodeText text⟩
  { inner :=
      { access := ⟨"https://s3.example.com", none, Pool.bare⟩
        parser := fun _ => .malformed
        peer := ⟨[answer "p/objects/x=v1\n", answer "", answer "old"], []⟩ }
    record := [] }

set_option maxRecDepth 10000 in
/-- **A file may be opened in a version older than its last write**: if the server tells no version
of the write, the entry of the manifest stays, and the file that was there before is read. -/
theorem open_pinned_before_write :
    ∃ s w, Session.openOn ⟨"b", "p", none⟩ ⟨forgetfulServer, []⟩ = .ok s w ∧
      ((⟨s, []⟩ : Client _).serve [.write ⟨"p/objects"⟩ "x" (Utf8.encodeText "new"),
          .open ⟨"p/objects"⟩ "x"]).session.store.record =
        [.read "b" "p/objects/x" (some "v1"), .stored "b" "p/objects/x" none,
          .read "b" "p.manifest" none] := by
  refine ⟨_, _, rfl, ?_⟩
  decide +kernel

end Client

end BlobRemote
