import Mathlib
import BlobRemote.Proofs.Manifest
import BlobRemote.Proofs.Session.Client
import BlobRemote.Proofs.Session.Lifetime

/-!
# A session sees its own writes

A store may answer a read with what was there some writes ago. A session on such a store does not
show it: what a client is answered is what a strongly consistent map of files would answer
(`BlobRemote.Client.admits_answer`), in every run, whatever calls fail in it.

The map is `BlobRemote.Client.Ideal`. A write, a deletion and the closing of a file change it at
once, if they succeed, and nothing else does. What ties a session to it is an invariant of each key
(`BlobRemote.Client.Reflects`): either there is no blob, no entry of the manifest and no file, or
the newest revision of the blob holds the file, the manifest knows its version, and no older
revision has that version. A read pinned by the manifest then finds the newest revision, however far
a read without a version may lag behind. The versions of older revisions are other ones because
versions count the writes of the whole store (`BlobRemote.Client.Mirrors.fresh`).
-/

namespace BlobRemote

namespace Client

/-! ### The ideal -/

/-- A file that is written piece by piece: its key, what was written to it, and whether it was
closed or aborted. -/
structure Draft where
  /-- The key. -/
  key : String
  /-- What was written. -/
  written : Bytes
  /-- Whether it was closed or aborted. -/
  ended : Bool

/-- **A strongly consistent map** of the files of a bucket by key, and the files that are written
piece by piece. -/
structure Ideal where
  /-- The files. -/
  files : String → Option Bytes
  /-- The files that are written piece by piece, the first begun first. -/
  drafts : List Draft

namespace Ideal

/-- There are no files. -/
def empty : Ideal := ⟨fun _ => none, []⟩

/-- The map with another file, or none, under a key. -/
def put (i : Ideal) (key : String) (file : Option Bytes) : Ideal :=
  { i with files := Function.update i.files key file }

/-- The map with another draft in the place of the one with a number. -/
def redraft (i : Ideal) (number : Nat) (draft : Draft) : Ideal :=
  { i with drafts := i.drafts.set number draft }

/-- The map after a change at the key of a path, which takes place if the path does not climb too
high and the call does not fail. -/
def changed (i : Ideal) (d : Database) (path : String) (fate : Option Failure)
    (change : String → Ideal) : Ideal :=
  match Key.resolve d.objectsKey path, fate with
  | .ok key, none => change key
  | _, _ => i

/-- **The map after a step.** -/
def after (i : Ideal) (step : Step) : Ideal :=
  match step.request with
  | .write d path data => i.changed d path step.fate fun key => i.put key (some data)
  | .delete d path => i.changed d path step.fate fun key => i.put key none
  | .begin d path =>
    i.changed d path none fun key => { i with drafts := i.drafts ++ [⟨key, [], false⟩] }
  | .feed number piece =>
    match i.drafts[number]? with
    | some draft =>
      if draft.ended then i
      else i.redraft number { draft with written := draft.written ++ piece }
    | none => i
  | .close number =>
    match i.drafts[number]? with
    | some draft =>
      if draft.ended then i
      else
        let ended := i.redraft number { draft with ended := true }
        if step.fate = none then ended.put draft.key (some draft.written) else ended
    | none => i
  | .abort number =>
    match i.drafts[number]? with
    | some draft => i.redraft number { draft with ended := true }
    | none => i
  | .open .. | .list .. | .alternate .. => i

/-- The map after a run. -/
def run (i : Ideal) (steps : List Step) : Ideal := steps.foldl after i

/-- What is answered at the key of a path: a path that climbs too high is refused, a call that fails
is a failure. -/
def outcome (d : Database) (path : String) (fate : Option Failure)
    (answer : String → Except Failure Answer) : Except Failure Answer :=
  match Key.resolve d.objectsKey path with
  | .error climb => .error (Reason.climb climb).alone
  | .ok key =>
    match fate with
    | some f => .error f
    | none => answer key

/-- The file under a key, or the failure that tells that there is none. -/
def opened (i : Ideal) (bucket key : String) : Except Failure Answer :=
  match i.files key with
  | some data => .ok (.stream (.buffered data))
  | none => .error (Reason.notFound bucket key).alone

/-- **Whether an answer in a step is the one that the map gives.** A file that is opened is the one
in the map, and the names that are listed are those of the files in the map. Which version a file
has become when it was closed is left open. -/
def Admits (i : Ideal) (bucket : String) (step : Step) (answer : Except Failure Answer) : Prop :=
  match step.request with
  | .write d path _ => answer = outcome d path step.fate fun _ => .ok .done
  | .delete d path => answer = outcome d path step.fate fun _ => .ok .done
  | .open d path => answer = outcome d path step.fate fun key => i.opened bucket key
  | .list d path =>
    ∃ names : List String, names.Nodup ∧
      answer = outcome d path step.fate (fun _ => .ok (.names names)) ∧
      ∀ key, Key.resolve d.objectsKey path = .ok key →
        ∀ n, n ∈ names ↔ i.files (key ++ "/" ++ n) ≠ none
  | .alternate d location => answer = outcome d location none fun key => .ok (.database ⟨key⟩)
  | .begin d path => answer = outcome d path none fun _ => .ok .done
  | .feed number _ =>
    match i.drafts[number]? with
    | none => answer = .ok .unknown
    | some draft =>
      answer = if draft.ended then .error (Reason.buffer .closed).alone else .ok .done
  | .close number =>
    match i.drafts[number]? with
    | none => answer = .ok .unknown
    | some draft =>
      if draft.ended then answer = .ok (.closed .nothing)
      else
        match step.fate with
        | some f => answer = .error f
        | none => ∃ version, answer = .ok (.closed (.stored (some version)))
  | .abort number => answer = .ok (if number < i.drafts.length then .done else .unknown)

end Ideal

/-! ### One key -/

/-- **What a history and an entry of the manifest have to do with a file**: there is none of them,
or the newest revision holds the file, the entry is its version, and no older revision has that
version. -/
def Reflects (history : Option (List Revision)) (entry : Option String) : Option Bytes → Prop
  | none => history = none ∧ entry = none
  | some data => ∃ older version, history = some (older ++ [⟨version, data⟩]) ∧
      entry = some version ∧ ∀ r ∈ older, r.version ≠ version

/-- **A pinned read finds the file**, whatever the lag. -/
theorem Reflects.find? {m : Memory} (hm : m.versioned = true) {bucket key : String}
    {entry : Option String} {file : Option Bytes}
    (h : Reflects (m.blobs.get? (bucket, key)) entry file) :
    (m.find? bucket key entry).map Revision.data = file := by
  cases file with
  | none => rw [Memory.find?_of_none h.1, Option.map_none]
  | some data =>
    obtain ⟨older, version, hhist, rfl, hother⟩ := h
    have hnone : older.find? (fun r => r.version == version) = none :=
      List.find?_eq_none.2 fun r hr => by simpa using hother r hr
    rw [Memory.find?, if_pos hm, Memory.history_of_some hhist, List.find?_append, hnone]
    simp

theorem Reflects.history_ne_none_iff {history : Option (List Revision)} {entry : Option String}
    {file : Option Bytes} (h : Reflects history entry file) : history ≠ none ↔ file ≠ none := by
  cases file with
  | none => simp [h.1]
  | some data =>
    obtain ⟨older, version, hhist, -, -⟩ := h
    simp [hhist]

/-! ### All keys of a bucket -/

/-- **A store and a manifest stand for a map of files**: they do so for each key, and the versions
that the store has given so far are not those of the writes to come. -/
structure Mirrors (bucket : String) (m : Memory) (manifest : Manifest)
    (files : String → Option Bytes) : Prop where
  /-- The store tells versions. -/
  versioned : m.versioned = true
  /-- No revision has the version of a write to come. -/
  fresh : ∀ key, ∀ r ∈ m.history bucket key, ∀ n, m.writes < n → r.version ≠ Memory.versionName n
  /-- Each key stands for its file. -/
  reflects : ∀ key, Reflects (m.blobs.get? (bucket, key)) (manifest.version? key) (files key)

namespace Mirrors

variable {bucket : String} {m : Memory} {manifest : Manifest} {files : String → Option Bytes}

/-- **A write that is tracked** changes the file of its key. -/
theorem put (h : Mirrors bucket m manifest files) (key : String) (data : Bytes) :
    Mirrors bucket (m.put bucket key data)
      (manifest.track key (m.told (m.nextRevision data).version))
      (Function.update files key (some data)) where
  versioned := h.versioned
  fresh k r hr n hn := by
    rw [Memory.writes_put] at hn
    rw [Memory.history_put] at hr
    split at hr
    · rcases List.mem_append.1 hr with hr | hr
      · exact h.fresh key r hr n (by omega)
      · -- the new revision has the number of this write, and `n` is that of a later one
        rw [List.mem_singleton] at hr
        subst hr
        intro he
        have hnumber := Memory.versionName_injective he
        omega
    · exact h.fresh k r hr n (by omega)
  reflects k := by
    rw [Memory.blobs_put, Manifest.version?_track, Memory.told_of_versioned h.versioned]
    by_cases hk : key = k
    · subst hk
      rw [if_pos rfl, if_pos rfl, Function.update_self]
      exact ⟨m.history bucket key, (m.nextRevision data).version, rfl, rfl,
        fun r hr => h.fresh key r hr _ (by omega)⟩
    · have hp : ¬ (bucket, key) = (bucket, k) := by simpa using hk
      rw [if_neg hp, if_neg hk, Function.update_of_ne (Ne.symm hk)]
      exact h.reflects k

/-- **A deletion that is told to the manifest** removes the file of its key. -/
theorem delete (h : Mirrors bucket m manifest files) (key : String) :
    Mirrors bucket (m.delete bucket key) (manifest.untrack key)
      (Function.update files key none) where
  versioned := h.versioned
  fresh k r hr n hn := by
    rw [Memory.history_delete] at hr
    split at hr
    · simp at hr
    · exact h.fresh k r hr n hn
  reflects k := by
    rw [Memory.blobs_delete, Manifest.version?_untrack]
    by_cases hk : key = k
    · subst hk
      rw [if_pos rfl, if_pos rfl, Function.update_self]
      exact ⟨rfl, rfl⟩
    · have hp : ¬ (bucket, key) = (bucket, k) := by simpa using hk
      rw [if_neg hp, if_neg hk, Function.update_of_ne (Ne.symm hk)]
      exact h.reflects k

theorem mem_list_iff (h : Mirrors bucket m manifest files) {directory n : String} :
    n ∈ m.list bucket directory ↔ files (directory ++ "/" ++ n) ≠ none :=
  (Memory.mem_list_iff _ _).trans (h.reflects _).history_ne_none_iff

end Mirrors

/-! ### A session -/

/-- What an upload is in the ideal. -/
def Draft.ofUpload (u : Upload) : Draft := ⟨u.key, u.buffer.data, u.ended⟩

/-- **A client stands for an ideal**: its store and its manifest do, and its uploads, which go to
its bucket and are written at their end, are the drafts. -/
structure Agrees (bucket : String) (c : Client (Unreliable Memory)) (i : Ideal) : Prop where
  /-- The client works on the bucket. -/
  bucket_eq : c.session.remote.bucket = bucket
  /-- The store and the manifest stand for the files. -/
  mirrors : Mirrors bucket c.session.store.inner c.session.manifest i.files
  /-- The uploads are the drafts. -/
  drafts_eq : i.drafts = c.uploads.map Draft.ofUpload
  /-- The uploads go to the bucket, and what comes next is written at their end. -/
  uploads : ∀ u ∈ c.uploads, u.bucket = bucket ∧ u.buffer.position = u.buffer.data.length

/-- **A result conforms to an ideal** in a step: it leaves a client that stands for the ideal after
the step, and its answer is the one that the ideal gives. -/
def Conforms (bucket : String) (i : Ideal) (step : Step)
    (result : EStateM.Result Failure (Client (Unreliable Memory)) Answer) : Prop :=
  Agrees bucket (Act.stateOf result) (i.after step) ∧ i.Admits bucket step (Act.answerOf result)

namespace Agrees

variable {bucket : String} {c : Client (Unreliable Memory)} {i : Ideal}
  {fates : List (Option Failure)}

/-- The calls to come have nothing to do with it. -/
theorem facing (h : Agrees bucket c i) (fates : List (Option Failure)) :
    Agrees bucket (c.facing fates) i :=
  ⟨h.bucket_eq, h.mirrors, h.drafts_eq, h.uploads⟩

/-- A call that leaves the store as it is leaves a client in agreement. -/
theorem idle (h : Agrees bucket c i) {w : World (Unreliable Memory)}
    (hw : w.store.inner = c.session.store.inner) :
    Agrees bucket { c with session := { c.session with toWorld := w } } i :=
  ⟨h.bucket_eq, hw ▸ h.mirrors, h.drafts_eq, h.uploads⟩

/-! ### Requests of files -/

theorem write (h : Agrees bucket c i) (hf : c.session.store.next = fates.head?.join)
    (d : Database) (path : String) (data : Bytes) :
    Conforms bucket i ⟨fates, .write d path data⟩ (perform (.write d path data) c) := by
  rw [perform, onSession_bind_pure_apply, Database.write_apply]
  simp only [Conforms, Ideal.after, Ideal.changed, Ideal.Admits, Ideal.outcome, Step.fate, ← hf]
  cases Key.resolve d.objectsKey path with
  | error climb => exact ⟨h, rfl⟩
  | ok key =>
    dsimp only
    rw [Unreliable.put_apply, h.bucket_eq]
    cases c.session.store.next with
    | some f => exact ⟨h.idle rfl, rfl⟩
    | none => exact ⟨⟨h.bucket_eq, h.mirrors.put key data, h.drafts_eq, h.uploads⟩, rfl⟩

theorem delete (h : Agrees bucket c i) (hf : c.session.store.next = fates.head?.join)
    (d : Database) (path : String) :
    Conforms bucket i ⟨fates, .delete d path⟩ (perform (.delete d path) c) := by
  rw [perform, onSession_bind_pure_apply, Database.delete_apply]
  simp only [Conforms, Ideal.after, Ideal.changed, Ideal.Admits, Ideal.outcome, Step.fate, ← hf]
  cases Key.resolve d.objectsKey path with
  | error climb => exact ⟨h, rfl⟩
  | ok key =>
    dsimp only
    rw [Unreliable.delete_apply, h.bucket_eq]
    cases c.session.store.next with
    | some f => exact ⟨h.idle rfl, rfl⟩
    | none => exact ⟨⟨h.bucket_eq, h.mirrors.delete key, h.drafts_eq, h.uploads⟩, rfl⟩

theorem «open» (h : Agrees bucket c i) (hf : c.session.store.next = fates.head?.join)
    (d : Database) (path : String) :
    Conforms bucket i ⟨fates, .open d path⟩ (perform (.open d path) c) := by
  rw [perform, onSession_bind_pure_apply, Database.open_apply]
  simp only [Conforms, Ideal.after, Ideal.Admits, Ideal.outcome, Step.fate, ← hf]
  cases Key.resolve d.objectsKey path with
  | error climb => exact ⟨h, rfl⟩
  | ok key =>
    dsimp only
    rw [Unreliable.get_apply, h.bucket_eq]
    cases c.session.store.next with
    | some f => exact ⟨h.idle rfl, rfl⟩
    | none =>
      -- the manifest's entry is the version that the read asks for
      have hfile := (h.mirrors.reflects key).find? h.mirrors.versioned
      dsimp only
      rw [Ideal.opened, ← hfile]
      cases c.session.store.inner.find? bucket key (c.session.manifest.version? key) with
      | none => exact ⟨h.idle rfl, rfl⟩
      | some r => exact ⟨h.idle rfl, rfl⟩

theorem list (h : Agrees bucket c i) (hf : c.session.store.next = fates.head?.join)
    (d : Database) (path : String) :
    Conforms bucket i ⟨fates, .list d path⟩ (perform (.list d path) c) := by
  rw [perform, onSession_bind_pure_apply, Database.list_apply]
  simp only [Conforms, Ideal.after, Ideal.Admits, Ideal.outcome, Step.fate, ← hf]
  cases Key.resolve d.objectsKey path with
  | error climb => exact ⟨h, [], List.nodup_nil, rfl, by simp⟩
  | ok key =>
    dsimp only
    rw [Unreliable.list_apply, h.bucket_eq]
    refine ⟨?_, c.session.store.inner.list bucket key, Names.nodup_below _ _, ?_, ?_⟩
    · cases c.session.store.next <;> exact h.idle rfl
    · cases c.session.store.next <;> rfl
    · rintro k hk n
      cases hk
      exact h.mirrors.mem_list_iff

theorem alternate (h : Agrees bucket c i) (d : Database) (location : String) :
    Conforms bucket i ⟨fates, .alternate d location⟩ (perform (.alternate d location) c) := by
  rw [perform, onSession_bind_pure_apply, Database.alternate_apply]
  simp only [Conforms, Ideal.after, Ideal.Admits, Ideal.outcome]
  cases Key.resolve d.objectsKey location with
  | error climb => exact ⟨h, rfl⟩
  | ok key => exact ⟨h, rfl⟩

/-! ### Requests of files that are written piece by piece -/

theorem drafts_getElem? (h : Agrees bucket c i) (number : Nat) :
    i.drafts[number]? = c.uploads[number]?.map Draft.ofUpload := by
  rw [h.drafts_eq, List.getElem?_map]

/-- A call that leaves the store as it is, and another upload, written at its end, in the place of
the one with a number: the draft with the number is another one, too. -/
theorem redraft (h : Agrees bucket c i) (number : Nat) {u : Upload} (hb : u.bucket = bucket)
    (hu : u.buffer.position = u.buffer.data.length) {w : World (Unreliable Memory)}
    (hw : w.store.inner = c.session.store.inner) :
    Agrees bucket
      { session := { c.session with toWorld := w }, uploads := c.uploads.set number u }
      (i.redraft number (Draft.ofUpload u)) where
  bucket_eq := h.bucket_eq
  mirrors := hw ▸ h.mirrors
  drafts_eq := by
    rw [Ideal.redraft, h.drafts_eq]
    exact List.map_set.symm
  uploads v hv := by
    rcases List.mem_or_eq_of_mem_set hv with hv | rfl
    · exact h.uploads v hv
    · exact ⟨hb, hu⟩

/-- Putting an upload in its own place changes nothing. -/
theorem set_self {number : Nat} {u : Upload} (hu : c.uploads[number]? = some u) :
    c.uploads.set number u = c.uploads := by
  obtain ⟨hlt, rfl⟩ := List.getElem?_eq_some_iff.1 hu
  exact List.set_getElem_self hlt

theorem begin (h : Agrees bucket c i) (d : Database) (path : String) :
    Conforms bucket i ⟨fates, .begin d path⟩ (perform (.begin d path) c) := by
  rw [begin_apply]
  simp only [Conforms, Ideal.after, Ideal.changed, Ideal.Admits, Ideal.outcome]
  cases Key.resolve d.objectsKey path with
  | error climb => exact ⟨h, rfl⟩
  | ok key =>
    dsimp only
    refine ⟨⟨h.bucket_eq, h.mirrors, ?_, ?_⟩, rfl⟩
    · rw [Act.stateOf, List.map_append, ← h.drafts_eq]
      rfl
    · intro u hu
      rcases List.mem_append.1 hu with hu | hu
      · exact h.uploads u hu
      · rw [List.mem_singleton.1 hu]
        exact ⟨h.bucket_eq, rfl⟩

theorem feed (h : Agrees bucket c i) (number : Nat) (piece : Bytes) :
    Conforms bucket i ⟨fates, .feed number piece⟩ (perform (.feed number piece) c) := by
  rw [perform, onUpload_bind_pure_apply]
  simp only [Conforms, Ideal.after, Ideal.Admits, h.drafts_getElem?]
  cases hu : c.uploads[number]? with
  | none => exact ⟨h, rfl⟩
  | some u =>
    obtain ⟨hb, hend⟩ := h.uploads u (List.mem_of_getElem? hu)
    dsimp only [Option.map_some]
    rw [Upload.write_apply]
    by_cases he : u.ended
    · have hd : (Draft.ofUpload u).ended := he
      rw [if_pos he, if_pos hd, if_pos hd]
      dsimp only
      rw [set_self hu]
      exact ⟨h, rfl⟩
    · have hd : ¬ (Draft.ofUpload u).ended := he
      rw [if_neg he, if_neg hd, if_neg hd]
      have hr := h.redraft number (u := { u with buffer := u.buffer.write piece }) hb
        (Buffer.position_write_at_end hend piece) (w := c.session.toWorld) rfl
      rw [Draft.ofUpload, Buffer.data_write_at_end hend] at hr
      exact ⟨hr, rfl⟩

theorem close (h : Agrees bucket c i) (hf : c.session.store.next = fates.head?.join)
    (number : Nat) : Conforms bucket i ⟨fates, .close number⟩ (perform (.close number) c) := by
  rw [perform, onUpload_bind_pure_apply]
  simp only [Conforms, Ideal.after, Ideal.Admits, Step.fate, ← hf, h.drafts_getElem?]
  cases hu : c.uploads[number]? with
  | none => exact ⟨h, rfl⟩
  | some u =>
    obtain ⟨hb, hend⟩ := h.uploads u (List.mem_of_getElem? hu)
    dsimp only [Option.map_some]
    -- a second closing makes no call, so the fate of the step is not looked at
    rw [Upload.close_apply]
    by_cases he : u.ended
    · have hd : (Draft.ofUpload u).ended := he
      rw [if_pos he, if_pos hd, if_pos hd]
      dsimp only
      rw [set_self hu]
      exact ⟨h, rfl⟩
    · have hd : ¬ (Draft.ofUpload u).ended := he
      rw [if_neg he, if_neg hd, if_neg hd, Unreliable.put_apply, hb]
      cases c.session.store.next with
      | some f =>
        exact ⟨h.redraft number (u := { u with ended := true }) hb hend rfl, rfl⟩
      | none =>
        have hr := h.redraft number (u := { u with ended := true }) hb hend
          (w := c.session.toWorld) rfl
        refine ⟨⟨h.bucket_eq, h.mirrors.put u.key u.buffer.data, hr.drafts_eq, hr.uploads⟩,
          (c.session.store.inner.nextRevision u.buffer.data).version, ?_⟩
        exact congrArg (fun version => Except.ok (Answer.closed (.stored version)))
          (Memory.told_of_versioned h.mirrors.versioned _)

theorem abort (h : Agrees bucket c i) (number : Nat) :
    Conforms bucket i ⟨fates, .abort number⟩ (perform (.abort number) c) := by
  have hlength : i.drafts.length = c.uploads.length := by
    rw [h.drafts_eq, List.length_map]
  rw [perform, onUpload_bind_pure_apply]
  simp only [Conforms, Ideal.after, Ideal.Admits, h.drafts_getElem?, hlength]
  cases hu : c.uploads[number]? with
  | none =>
    have hlt : ¬ number < c.uploads.length := Nat.not_lt.2 (List.getElem?_eq_none_iff.1 hu)
    rw [if_neg hlt]
    exact ⟨h, rfl⟩
  | some u =>
    obtain ⟨hb, hend⟩ := h.uploads u (List.mem_of_getElem? hu)
    have hlt : number < c.uploads.length := (List.getElem?_eq_some_iff.1 hu).1
    rw [if_pos hlt]
    exact ⟨h.redraft number (u := { u with ended := true }) hb hend rfl, rfl⟩

/-! ### Runs -/

/-- **Every step conforms to the ideal.** -/
theorem conforms (h : Agrees bucket c i) (step : Step) :
    Conforms bucket i step (perform step.request (c.facing step.fates)) := by
  have hc := h.facing step.fates
  obtain ⟨fates, request⟩ := step
  cases request with
  | write d path data => exact hc.write rfl d path data
  | delete d path => exact hc.delete rfl d path
  | «open» d path => exact hc.open rfl d path
  | list d path => exact hc.list rfl d path
  | alternate d location => exact hc.alternate d location
  | begin d path => exact hc.begin d path
  | feed number piece => exact hc.feed number piece
  | close number => exact hc.close rfl number
  | abort number => exact hc.abort number

/-- **Agreement lasts** through every run. -/
theorem run (h : Agrees bucket c i) (steps : List Step) :
    Agrees bucket (c.run steps) (i.run steps) := by
  induction steps generalizing c i with
  | nil => exact h
  | cons step steps ih => exact ih (h.conforms step).1

end Agrees

/-- **A session on an empty bucket** begins with an empty manifest, whether the store tells that
there is no manifest or a failure that is one of absence is put in its place. -/
theorem agrees_openOn {remote : Remote} {m : Memory} (hm : m.versioned = true)
    (hempty : ∀ key, m.blobs.get? (remote.bucket, key) = none) {fates : List (Option Failure)}
    {log : List Event} {s : Session (Unreliable Memory)} {w : World (Unreliable Memory)}
    (hopen : Session.openOn remote ⟨⟨m, fates⟩, log⟩ = .ok s w) :
    Agrees remote.bucket ⟨s, []⟩ Ideal.empty := by
  have hs : s.store.inner = m ∧ s.manifest = Manifest.empty ∧ s.remote = remote := by
    rw [Session.openOn_apply, Tracking.load_apply, Unreliable.get_apply,
      Memory.find?_of_none (hempty _)] at hopen
    -- a failure that tells of absence is taken for an empty manifest, and here there is none
    cases hn : Unreliable.next ⟨m, fates⟩ with
    | none =>
      rw [hn] at hopen
      cases hopen
      exact ⟨rfl, rfl, rfl⟩
    | some f =>
      rw [hn] at hopen
      dsimp only at hopen
      by_cases hf : f.reason.isNotFound
      · rw [if_pos hf] at hopen
        cases hopen
        exact ⟨rfl, rfl, rfl⟩
      · rw [if_neg hf] at hopen
        cases hopen
  obtain ⟨hstore, hmanifest, hremote⟩ := hs
  have hmirrors : Mirrors remote.bucket m Manifest.empty fun _ => none :=
    { versioned := hm
      fresh := fun key r hr => by
        rw [Memory.history_of_none (hempty key)] at hr
        cases hr
      reflects := fun key => ⟨hempty key, rfl⟩ }
  exact ⟨congrArg Remote.bucket hremote, hstore ▸ hmanifest ▸ hmirrors, rfl, by simp⟩

/-- **A session shows what a strongly consistent map would show.** On a store that tells versions
and in a bucket that is empty when the session is opened, every answer in every run is the one of
the map, however far reads may lag behind and whatever calls fail. -/
theorem admits_answer {remote : Remote} {m : Memory} (hm : m.versioned = true)
    (hempty : ∀ key, m.blobs.get? (remote.bucket, key) = none) {fates : List (Option Failure)}
    {log : List Event} {s : Session (Unreliable Memory)} {w : World (Unreliable Memory)}
    (hopen : Session.openOn remote ⟨⟨m, fates⟩, log⟩ = .ok s w) (steps : List Step) (step : Step) :
    (Ideal.empty.run steps).Admits remote.bucket step
      (((⟨s, []⟩ : Client (Unreliable Memory)).run steps).answer step) :=
  (((agrees_openOn hm hempty hopen).run steps).conforms step).2

/-- Two writes to one file, by different paths, and a third one that fails: the file is the one of
the second write, though reads lag behind by three. -/
theorem admits_answer_of_lag :
    (run
      ⟨⟨⟨⟨⟨Memory.empty true 3, []⟩, [.manifestAbsent "p.manifest"]⟩, Manifest.empty⟩,
        ⟨"b", "p", none⟩, false⟩, []⟩
      [⟨[], .write ⟨"p/objects"⟩ "x" [1]⟩,
        ⟨[none], .write ⟨"p/objects"⟩ "../objects/x" [2]⟩,
        ⟨[some (Reason.internal "lost").alone], .write ⟨"p/objects"⟩ "x" [3]⟩]).answer
      ⟨[], .open ⟨"p/objects"⟩ "x"⟩ = .ok (.stream (.buffered [2])) :=
  (@admits_answer ⟨"b", "p", none⟩ (Memory.empty true 3) rfl (fun _ => rfl) [] [] _ _ rfl _
    ⟨[], .open ⟨"p/objects"⟩ "x"⟩).trans (by rfl)

end Client

end BlobRemote
