import Mathlib
import BlobRemote.Database
import BlobRemote.Proofs.Act

/-!
# What the operations of a database do

Each operation on the files of a repository resolves a path, makes one call of the store, and tells
the manifest. The equations here say that for each of them at every state of a session, the failures
included: a path that climbs too high reaches neither the store nor the manifest, and a call that
fails leaves the manifest as it was. Everything that is proved about runs of a session rests on
these equations and does not look into the operations again.
-/

namespace BlobRemote

variable {σ α : Type}

/-! ### Parts of a state -/

theorem Tracking.onWorld_apply (x : Act (World σ) α) (t : Tracking σ) :
    Tracking.onWorld x t =
      match x t.toWorld with
      | .ok a w => .ok a { t with toWorld := w }
      | .error f w => .error f { t with toWorld := w } := by
  rw [Tracking.onWorld, Act.focus_apply]
  cases x t.toWorld <;> rfl

theorem Session.onTracking_apply (x : Act (Tracking σ) α) (s : Session σ) :
    Session.onTracking x s =
      match x s.toTracking with
      | .ok a t => .ok a { s with toTracking := t }
      | .error f t => .error f { s with toTracking := t } := by
  rw [Session.onTracking, Act.focus_apply]
  cases x s.toTracking <;> rfl

theorem Session.onWorld_apply (x : Act (World σ) α) (s : Session σ) :
    Session.onWorld x s =
      match x s.toWorld with
      | .ok a w => .ok a { s with toWorld := w }
      | .error f w => .error f { s with toWorld := w } := by
  rw [Session.onWorld, Session.onTracking_apply, Tracking.onWorld_apply]
  cases x s.toWorld <;> rfl

namespace Database

variable [Store σ] (d : Database) (path : String) (s : Session σ)

/-- An operation at the key of a path is refused if the path climbs too high. -/
theorem resolve_bind_apply {st : Type} (k : String → Act st α) (c : st) :
    (d.resolve path >>= k) c =
      match Key.resolve d.objectsKey path with
      | .error climb => .error (Reason.climb climb).alone c
      | .ok key => k key c := by
  rw [resolve]
  cases Key.resolve d.objectsKey path with
  | error climb => rfl
  | ok key => rfl

/-! ### Reading -/

/-- **Opening a file** is one read, pinned to the version that the manifest knows. -/
theorem open_apply :
    d.open path s =
      match Key.resolve d.objectsKey path with
      | .error climb => .error (Reason.climb climb).alone s
      | .ok key =>
        match Store.get s.remote.bucket key (s.manifest.version? key) s.toWorld with
        | .ok (stream, _) w => .ok stream { s with toWorld := w }
        | .error f w => .error f { s with toWorld := w } := by
  rw [Database.open, resolve_bind_apply]
  cases Key.resolve d.objectsKey path with
  | error climb => rfl
  | ok key =>
    dsimp only
    rw [Act.bind_apply_of_ok (Act.get_apply s), Act.bind_apply, Session.onWorld_apply]
    cases Store.get s.remote.bucket key (s.manifest.version? key) s.toWorld <;> rfl

/-- **Listing a directory** is one listing. -/
theorem list_apply :
    d.list path s =
      match Key.resolve d.objectsKey path with
      | .error climb => .error (Reason.climb climb).alone s
      | .ok key =>
        match Store.list s.remote.bucket key s.toWorld with
        | .ok names w => .ok names { s with toWorld := w }
        | .error f w => .error f { s with toWorld := w } := by
  rw [Database.list, resolve_bind_apply]
  cases Key.resolve d.objectsKey path with
  | error climb => rfl
  | ok key =>
    dsimp only
    rw [Act.bind_apply_of_ok (Act.get_apply s), Session.onWorld_apply]
    cases Store.list s.remote.bucket key s.toWorld <;> rfl

omit [Store σ] in
/-- **Opening another database** calls no store. -/
theorem alternate_apply :
    (d.alternate path : Act (Session σ) Database) s =
      match Key.resolve d.objectsKey path with
      | .error climb => .error (Reason.climb climb).alone s
      | .ok key => .ok ⟨key⟩ s := by
  rw [alternate, resolve_bind_apply]
  cases Key.resolve d.objectsKey path <;> rfl

/-! ### Writing -/

/-- **Writing a file** tracks the version that the store told, once the store took the file. -/
theorem write_apply (data : Bytes) :
    d.write path data s =
      match Key.resolve d.objectsKey path with
      | .error climb => .error (Reason.climb climb).alone s
      | .ok key =>
        match Store.put s.remote.bucket key data none s.toWorld with
        | .ok version w =>
          .ok () { s with toWorld := w, manifest := s.manifest.track key version }
        | .error f w => .error f { s with toWorld := w } := by
  rw [write, resolve_bind_apply]
  cases Key.resolve d.objectsKey path with
  | error climb => rfl
  | ok key =>
    dsimp only
    rw [Act.bind_apply_of_ok (Act.get_apply s), Act.bind_apply, Session.onWorld_apply]
    cases Store.put s.remote.bucket key data none s.toWorld <;> rfl

/-- **Deleting a file** untracks its key, once the store has deleted it. -/
theorem delete_apply :
    d.delete path s =
      match Key.resolve d.objectsKey path with
      | .error climb => .error (Reason.climb climb).alone s
      | .ok key =>
        match Store.delete s.remote.bucket key s.toWorld with
        | .ok () w => .ok () { s with toWorld := w, manifest := s.manifest.untrack key }
        | .error f w => .error f { s with toWorld := w } := by
  rw [delete, resolve_bind_apply]
  cases Key.resolve d.objectsKey path with
  | error climb => rfl
  | ok key =>
    dsimp only
    rw [Act.bind_apply_of_ok (Act.get_apply s), Act.bind_apply, Session.onWorld_apply]
    cases Store.delete s.remote.bucket key s.toWorld <;> rfl

omit [Store σ] in
/-- **Beginning to write a file** calls no store. -/
theorem beginWrite_apply :
    d.beginWrite path s =
      match Key.resolve d.objectsKey path with
      | .error climb => .error (Reason.climb climb).alone s
      | .ok key => .ok (Upload.start s.remote.bucket key) s := by
  rw [beginWrite, resolve_bind_apply]
  cases Key.resolve d.objectsKey path <;> rfl

/-! ### References and packs -/

omit [Store σ] in
/-- An operation on the blob of a reference is refused if the name of the reference is not text. -/
theorem pathOfRef_bind_apply {st : Type} (name : Bytes) (k : String → Act st α) (c : st) :
    (pathOfRef name >>= k) c =
      match Utf8.decodeText name with
      | .error fault => .error (Reason.undecodable fault).alone c
      | .ok text => k (refPath text) c := by
  rw [pathOfRef]
  cases Utf8.decodeText name <;> rfl

/-- **Writing a reference** is writing its blob. -/
theorem writeRef_apply (name objectId : Bytes) :
    d.writeRef name objectId s =
      match Utf8.decodeText name with
      | .error fault => .error (Reason.undecodable fault).alone s
      | .ok text => d.write (refPath text) (Ref.objectBlob objectId) s := by
  rw [writeRef, pathOfRef_bind_apply]

/-- **Deleting a reference** is deleting its blob. -/
theorem deleteRef_apply (name : Bytes) :
    d.deleteRef name s =
      match Utf8.decodeText name with
      | .error fault => .error (Reason.undecodable fault).alone s
      | .ok text => d.delete (refPath text) s := by
  rw [deleteRef, pathOfRef_bind_apply]

end Database

namespace Upload

variable (u : Uploading σ)

theorem write_apply (piece : Bytes) :
    write piece u =
      if u.upload.ended then .error (Reason.buffer .closed).alone u
      else .ok piece.length
        { u with upload := { u.upload with buffer := u.upload.buffer.write piece } } := by
  rw [write, Act.bind_apply, ensureOpen, Act.bind_apply_of_ok (Act.get_apply u)]
  by_cases h : u.upload.ended
  · rw [if_pos h, if_pos h]
    rfl
  · rw [if_neg h, if_neg h]
    rfl

/-- **Closing an upload** is one write of all that was written to it, the first time. -/
theorem close_apply [Store σ] :
    close u =
      if u.upload.ended then .ok .nothing u
      else
        match Store.put u.upload.bucket u.upload.key u.upload.buffer.data none u.toWorld with
        | .ok version w =>
          .ok (.stored version) { toWorld := w, upload := { u.upload with ended := true } }
        | .error f w => .error f { toWorld := w, upload := { u.upload with ended := true } } := by
  rw [close, Act.bind_apply_of_ok (Act.get_apply u)]
  by_cases h : u.upload.ended
  · rw [if_pos h, if_pos h]
    rfl
  · rw [if_neg h, if_neg h]
    change (onWorld _ >>= fun version => pure (Completion.stored version)) _ = _
    rw [Act.bind_apply, onWorld, Act.focus_apply]
    cases Store.put u.upload.bucket u.upload.key u.upload.buffer.data none u.toWorld <;> rfl

theorem close_apply_of_open [Store σ] (h : u.upload.ended = false) :
    close u =
      match Store.put u.upload.bucket u.upload.key u.upload.buffer.data none u.toWorld with
      | .ok version w =>
        .ok (.stored version) { toWorld := w, upload := { u.upload with ended := true } }
      | .error f w => .error f { toWorld := w, upload := { u.upload with ended := true } } := by
  rw [close_apply, if_neg (by rw [h]; decide)]

/-- Pieces are written one after another. -/
theorem each_write_apply (h : u.upload.ended = false) (pieces : List Bytes) :
    Act.each write pieces u =
      .ok (pieces.map List.length)
        { u with
          upload := { u.upload with buffer := pieces.foldl Buffer.write u.upload.buffer } } := by
  induction pieces generalizing u with
  | nil => rfl
  | cons piece rest ih =>
    rw [Act.each, Act.bind_apply, write_apply, if_neg (by rw [h]; decide)]
    dsimp only
    have hrest := ih { u with
      upload := { u.upload with buffer := u.upload.buffer.write piece } } h
    rw [Act.bind_apply_of_ok hrest]
    rfl

/-- **Writing an upload as a whole** is closing it with all pieces written to it. -/
theorem writeAll_apply [Store σ] (h : u.upload.ended = false) (pieces : List Bytes) :
    writeAll pieces false u =
      close { u with
        upload := { u.upload with buffer := pieces.foldl Buffer.write u.upload.buffer } } := by
  have hopen : ensureOpen u = .ok () u := by
    rw [ensureOpen, Act.bind_apply_of_ok (Act.get_apply u), if_neg (by rw [h]; decide)]
    rfl
  rw [writeAll, Act.bind_apply_of_ok hopen, Act.bind_apply_of_ok (each_write_apply u h pieces)]
  rfl

end Upload

namespace Database

variable [Store σ] (d : Database) (s : Session σ)

/-- **Writing the file of packed references** piece by piece, in one piece, is writing it at once.
-/
theorem writePackedRefs_apply (objectIds : Dict Bytes Bytes) (peeled : Option (Dict Bytes Bytes)) :
    d.writePackedRefs objectIds peeled s =
      d.write packedRefsPath (Packed.write objectIds peeled) s := by
  rw [writePackedRefs, Act.bind_apply, beginWrite_apply, write_apply]
  cases Key.resolve d.objectsKey packedRefsPath with
  | error climb => rfl
  | ok key =>
    dsimp only
    rw [Act.bind_apply, Writing.within, Writing.onUpload, Upload.writeAll_apply _ rfl,
      Upload.close_apply_of_open _ rfl]
    have hdata : (Buffer.empty.write (Packed.write objectIds peeled)).data =
        Packed.write objectIds peeled := Buffer.data_write_at_end rfl _
    dsimp only [Upload.start, List.foldl]
    rw [hdata]
    cases Store.put s.remote.bucket key (Packed.write objectIds peeled) none s.toWorld <;> rfl

end Database

end BlobRemote
