import Mathlib
import BlobRemote.Proofs.Key
import BlobRemote.Proofs.Manifest
import BlobRemote.Proofs.Session.Command
import BlobRemote.Proofs.Store.History

/-!
# Packs that are offered can be read

A pack is offered if its name and that of its index are in the listing of a directory. A listing is
never pinned, and it shows every blob of the store. Reading a file is pinned to the version that the
manifest knows, and fails if the blob is there but that version of it is not. So that the packs that
are offered are the ones that can be read is a matter of the manifest: every version that it knows
must be in the history of its key (`BlobRemote.Anchored`).

This is the invariant of a run. A write adds a revision and tracks it, a deletion drops a history and
untracks it, and others, who only add blobs, make histories longer. An upload that is begun, aborted
or still open has not touched the store. A call that fails has touched neither the store nor the
manifest.

| what happens | what it does to the pins | theorem |
|---|---|---|
| a write or a deletion of the session | they hold | `BlobRemote.Anchored.moves` |
| a blob that others add | they hold | `BlobRemote.Anchored.put` |
| a run | they hold | `BlobRemote.Client.sound_live` |

Where the pins hold, a file can be opened exactly if there is a blob under its key
(`BlobRemote.Anchored.opens_iff`), and this is what a listing shows.
-/

namespace BlobRemote

/-! ### The names of packs -/

namespace Pack

/-- **The name of a pack** and that of its index differ in their ends. -/
theorem index?_eq_some_iff {name index : String} :
    index? name = some index ↔
      "pack-".toList <+: name.toList ∧ ∃ start, name = start ++ ".pack" ∧ index = start ++ ".idx" := by
  rw [index?]
  constructor
  · intro h
    split at h
    · next hname =>
      obtain ⟨hhead, hend⟩ := Bool.and_eq_true_iff.1 hname
      obtain ⟨start, hstart⟩ := List.isSuffixOf_iff_suffix.1 hend
      refine ⟨List.isPrefixOf_iff_prefix.1 hhead, String.ofList start, ?_, ?_⟩
      · rw [← String.toList_inj, String.toList_append, String.toList_ofList]
        exact hstart.symm
      · rw [← hstart, List.length_append, Nat.add_sub_cancel, List.take_left] at h
        rw [← Option.some.inj h, ← String.toList_inj, String.toList_append, String.toList_ofList,
          String.toList_ofList]
        rfl
    · cases h
  · rintro ⟨hhead, start, rfl, rfl⟩
    have hend : packEnd.isSuffixOf (start ++ ".pack").toList = true :=
      List.isSuffixOf_iff_suffix.2 ⟨start.toList, (String.toList_append ..).symm⟩
    have htake : (start ++ ".pack").toList.take ((start ++ ".pack").toList.length - packEnd.length) =
        start.toList := by
      rw [String.toList_append, List.length_append, packEnd, Nat.add_sub_cancel, List.take_left]
    have hhead' : head.isPrefixOf (start ++ ".pack").toList = true :=
      List.isPrefixOf_iff_prefix.2 hhead
    rw [hend, hhead', htake]
    exact congrArg some (String.toList_inj.1 (by rw [String.toList_ofList, String.toList_append]; rfl))

/-- **The packs that are offered** are those whose index is among the names as well. -/
theorem mem_complete_iff {names : List String} {p : String} :
    p ∈ complete names ↔
      "pack-".toList <+: p.toList ∧
        ∃ start, p = start ++ ".pack" ∧ p ∈ names ∧ start ++ ".idx" ∈ names := by
  rw [complete, Names.mem_ofList_iff, List.mem_filter, isComplete]
  constructor
  · rintro ⟨hp, hindex⟩
    cases hname : index? p with
    | none =>
      rw [hname] at hindex
      cases hindex
    | some index =>
      rw [hname] at hindex
      obtain ⟨hhead, start, hstart, rfl⟩ := index?_eq_some_iff.1 hname
      exact ⟨hhead, start, hstart, hp, List.contains_iff_mem.1 hindex⟩
  · rintro ⟨hhead, start, hstart, hp, hindex⟩
    rw [index?_eq_some_iff.2 ⟨hhead, start, hstart, rfl⟩]
    exact ⟨hp, List.contains_iff_mem.2 hindex⟩

end Pack

/-! ### Pins that hold -/

/-- **Every pin holds**: the store tells versions, no history is empty, and every version that the
manifest knows is in the history of its key. -/
structure Anchored (bucket : String) (c : Memory × Manifest) : Prop where
  /-- The store tells versions. -/
  versioned : c.1.versioned = true
  /-- No history is empty. -/
  ne_nil : ∀ k, c.1.blobs.get? k ≠ some []
  /-- Every version that the manifest knows is there. -/
  tracked : ∀ key version, c.2.version? key = some version →
    ∃ r ∈ c.1.history bucket key, r.version = version

namespace Anchored

variable {bucket : String} {m : Memory} {f : Manifest} {c c' : Memory × Manifest}

/-- **A blob that others add** breaks no pin, whatever its key is. -/
theorem put (h : Anchored bucket (m, f)) (bucket' key' : String) (data : Bytes) :
    Anchored bucket (m.put bucket' key' data, f) where
  versioned := h.versioned
  ne_nil := Memory.blobs_put_ne_nil h.ne_nil bucket' key' data
  tracked := by
    intro key version hversion
    obtain ⟨r, hr, hv⟩ := h.tracked key version hversion
    refine ⟨r, ?_, hv⟩
    change r ∈ (m.put bucket' key' data).history bucket key
    rw [Memory.history_put]
    split
    · next hk =>
      cases hk
      exact List.mem_append_left _ hr
    · exact hr

/-- **A write of the session** pins its key to the new revision. -/
theorem write (h : Anchored bucket (m, f)) (key : String) (data : Bytes) :
    Anchored bucket (m.put bucket key data, f.track key (m.told (m.nextRevision data).version)) where
  versioned := h.versioned
  ne_nil := (h.put bucket key data).ne_nil
  tracked := by
    intro k version hversion
    change (f.track key _).version? k = _ at hversion
    rw [Manifest.version?_track] at hversion
    split at hversion
    · next hk =>
      subst hk
      rw [Memory.told_of_versioned h.versioned, Option.some_or] at hversion
      refine ⟨m.nextRevision data, ?_, Option.some.inj hversion⟩
      change _ ∈ (m.put bucket key data).history bucket key
      rw [Memory.history_put, if_pos rfl]
      exact List.mem_append_right _ List.mem_cons_self
    · exact (h.put bucket key data).tracked k version hversion

/-- **A deletion of the session** takes the pin of its key away with the history. -/
theorem delete (h : Anchored bucket (m, f)) (key : String) :
    Anchored bucket (m.delete bucket key, f.untrack key) where
  versioned := h.versioned
  ne_nil := Memory.blobs_delete_ne_nil h.ne_nil bucket key
  tracked := by
    intro k version hversion
    change (f.untrack key).version? k = _ at hversion
    rw [Manifest.version?_untrack] at hversion
    split at hversion
    · cases hversion
    · next hk =>
      obtain ⟨r, hr, hv⟩ := h.tracked k version hversion
      refine ⟨r, ?_, hv⟩
      change r ∈ (m.delete bucket key).history bucket k
      rw [Memory.history_delete, if_neg fun he => hk (Prod.mk.inj he).2]
      exact hr

/-- **Whatever the session writes or deletes**, the pins hold. -/
theorem moves {writable : String → Prop} (h : Anchored bucket c)
    (hm : Moves bucket writable False c c') : Anchored bucket c' := by
  cases hm with
  | idle m f => exact h
  | write m f key data _ => exact h.write key data
  | delete m f key _ => exact h.delete key
  | track m f key version htracks => exact htracks.elim
  | untrack m f key htracks => exact htracks.elim

/-- **A read finds something** exactly if there is a blob. -/
theorem find?_isSome_iff (h : Anchored bucket (m, f)) (key : String) :
    (∃ r, m.find? bucket key (f.version? key) = some r) ↔ m.blobs.get? (bucket, key) ≠ none := by
  constructor
  · rintro ⟨r, hr⟩
    exact Memory.blobs_ne_none_of_find? hr
  · intro hblob
    obtain ⟨revisions, hrevisions⟩ := Option.ne_none_iff_exists'.1 hblob
    have hhistory : m.history bucket key = revisions := Memory.history_of_some hrevisions
    cases hversion : f.version? key with
    | none =>
      -- the place that a lagging read looks at is clamped, so there is one as soon as one is there
      have hlength : 0 < revisions.length :=
        List.length_pos_iff.2 fun hnil => h.ne_nil (bucket, key) (hnil ▸ hrevisions)
      have hplace : revisions.length - 1 - m.lag < revisions.length := by omega
      refine ⟨revisions[revisions.length - 1 - m.lag], ?_⟩
      change m.visible? bucket key = _
      rw [Memory.visible?, hhistory]
      exact List.getElem?_eq_getElem hplace
    | some version =>
      obtain ⟨r, hr, hv⟩ := h.tracked key version hversion
      have hfind : ((m.history bucket key).find? fun r => r.version == version).isSome :=
        List.find?_isSome.2 ⟨r, hr, beq_iff_eq.2 hv⟩
      rw [Memory.find?, if_pos h.versioned]
      exact Option.isSome_iff_exists.1 hfind

end Anchored

/-! ### Files that can be opened -/

/-- **A file can be opened** in a session. -/
def Database.Opens {σ : Type} [Store σ] (d : Database) (path : String) (s : Session σ) : Prop :=
  ∃ stream s', d.open path s = .ok stream s'

/-- Where the pins hold, **a file can be opened** exactly if there is a blob under its key. -/
theorem Anchored.opens_iff {s : Session (Unreliable Memory)}
    (h : Anchored s.remote.bucket s.contents) (hnext : s.store.next = none) {d : Database}
    {path key : String} (hkey : Key.resolve d.objectsKey path = .ok key) :
    d.Opens path s ↔ s.store.inner.blobs.get? (s.remote.bucket, key) ≠ none := by
  rw [← h.find?_isSome_iff, Database.Opens, Database.open_apply, hkey]
  dsimp only
  rw [Unreliable.get_apply, hnext]
  dsimp only
  cases s.store.inner.find? s.remote.bucket key (s.manifest.version? key) with
  | none => simp
  | some r => simp

/-- **Looking for packs** is one listing, which does not fail unless the call does. -/
theorem Database.answerOf_packNames (s : Session (Unreliable Memory)) (hnext : s.store.next = none)
    (d : Database) {key : String} (hkey : Key.resolve d.objectsKey "pack" = .ok key) :
    Act.answerOf (d.packNames s) =
      .ok (Pack.complete (s.store.inner.list s.remote.bucket key)) := by
  rw [packNames, Act.bind_apply, list_apply, hkey]
  dsimp only
  rw [Unreliable.list_apply, hnext]
  rfl

/-- **The packs that are offered** where the pins hold: those that can be read, index included. -/
theorem Anchored.packNames {s : Session (Unreliable Memory)}
    (h : Anchored s.remote.bucket s.contents) (hnext : s.store.next = none) (d : Database) :
    ∃ names, Act.answerOf (d.packNames s) = .ok names ∧ names.Nodup ∧
      ∀ p, p ∈ names ↔
        "pack-".toList <+: p.toList ∧
          ∃ start, p = start ++ ".pack" ∧
            d.Opens ("pack/" ++ p) s ∧ d.Opens ("pack/" ++ (start ++ ".idx")) s := by
  obtain ⟨key, hkey, -⟩ := Key.exists_resolve_file "pack" ".pack" rfl (by decide) (by decide)
    (by decide) (by decide) d.objectsKey
  -- what is listed below the directory can be opened there, unless it ends in a slash
  have hfile : ∀ start ending : String, ending ≠ "" → ending.toList.getLast? ≠ some '/' →
      (start ++ ending ∈ s.store.inner.list s.remote.bucket key ↔
        d.Opens ("pack/" ++ (start ++ ending)) s) := by
    intro start ending hne hlast
    have hne' : ending.toList ≠ [] := fun hnil => hne (String.toList_eq_nil_iff.1 hnil)
    have hlast' : (start ++ ending).toList.getLast? ≠ some '/' := by
      rwa [String.toList_append, List.getLast?_append_of_ne_nil _ hne']
    obtain ⟨key', hkey', hpath⟩ := Key.exists_resolve_file "pack" (start ++ ending) rfl (by decide)
      (by decide) (fun hnil => hne (String.append_eq_empty_iff.1 hnil).2) hlast' d.objectsKey
    cases hkey.symm.trans hkey'
    rw [Memory.mem_list_iff]
    exact (h.opens_iff hnext hpath).symm
  refine ⟨_, d.answerOf_packNames s hnext hkey, Names.nodup_ofList _, fun p => ?_⟩
  rw [Pack.mem_complete_iff]
  refine and_congr_right fun _ => exists_congr fun start => and_congr_right fun hp => ?_
  subst hp
  exact and_congr (hfile start ".pack" (by decide) (by decide))
    (hfile start ".idx" (by decide) (by decide))

/-! ### Runs -/

namespace Client

/-- What happens while a session is open. -/
inductive Happening where
  /-- A step of the client. -/
  | own (step : Step)
  /-- Others add a blob, or a revision of one. -/
  | other (bucket key : String) (data : Bytes)

/-- A client after something happened. -/
def met (c : Client (Unreliable Memory)) : Happening → Client (Unreliable Memory)
  | .own step => c.after step
  | .other bucket key data =>
    { c with session.store.inner := c.session.store.inner.put bucket key data }

/-- **A client after all that happened.** -/
def live (c : Client (Unreliable Memory)) (happenings : List Happening) :
    Client (Unreliable Memory) := happenings.foldl met c

/-- **A client is sound** if the pins hold and its uploads go to the bucket of the repository. -/
def Sound (c : Client (Unreliable Memory)) : Prop :=
  Anchored c.session.remote.bucket c.session.contents ∧ c.Holds fun _ => True

/-- **Nothing that happens** breaks a pin. -/
theorem sound_met {c : Client (Unreliable Memory)} (h : c.Sound) (happening : Happening) :
    (c.met happening).Sound := by
  cases happening with
  | own step =>
    obtain ⟨hmoved, hholds⟩ : Moved (fun _ => True) False (c.facing step.fates) (c.after step) :=
      Moved.perform (c := c.facing step.fates) h.2 step.request fun _ _ _ _ _ => trivial
    refine ⟨?_, hholds⟩
    change Anchored (c.after step).session.remote.bucket _
    rw [hmoved.remote]
    exact h.1.moves hmoved.moves
  | other bucket key data => exact ⟨h.1.put bucket key data, h.2⟩

/-- **No run** breaks a pin. -/
theorem sound_live {c : Client (Unreliable Memory)} (h : c.Sound) (happenings : List Happening) :
    (c.live happenings).Sound := by
  induction happenings generalizing c with
  | nil => exact h
  | cons happening rest ih => exact ih (sound_met h happening)

/-- **Only complete and readable packs are offered**, and all of them, whatever a client has done
to the files of its repository and whatever others have added, for every database of the session. -/
theorem packNames_live {lag : Nat} {c : Client (Unreliable Memory)}
    (hmade : Memory.Made true lag c.session.store.inner) (hc : c.Holds fun _ => True)
    (htracked : ∀ key version, c.session.manifest.version? key = some version →
      ∃ r ∈ c.session.store.inner.history c.session.remote.bucket key, r.version = version)
    (happenings : List Happening) (d : Database) :
    let s := ((c.live happenings).facing []).session
    ∃ names, Act.answerOf (d.packNames s) = .ok names ∧ names.Nodup ∧
      ∀ p, p ∈ names ↔
        "pack-".toList <+: p.toList ∧
          ∃ start, p = start ++ ".pack" ∧
            d.Opens ("pack/" ++ p) s ∧ d.Opens ("pack/" ++ (start ++ ".idx")) s := by
  have hsound : c.Sound := ⟨⟨hmade.versioned_eq, hmade.ne_nil, htracked⟩, hc⟩
  exact (sound_live hsound happenings).1.packNames (s := ((c.live happenings).facing []).session)
    rfl d

/-- A pack whose index was still open is offered once the index is closed, although deleting the pack
has failed. A pack that others add is not offered, for its index is still open. -/
theorem packNames_live_of_unfinished :
    let d : Database := ⟨"r/objects"⟩
    let c : Client (Unreliable Memory) :=
      ⟨⟨⟨⟨⟨(Memory.empty true 1).put "b" "r/objects/pack/pack-1.pack" [1], []⟩, []⟩,
          Manifest.empty.track "r/objects/pack/pack-1.pack" (some "v1")⟩, ⟨"b", "r", none⟩, false⟩,
        [Upload.start "b" "r/objects/pack/pack-1.idx"]⟩
    let happenings : List Happening :=
      [.own ⟨[], .close 0⟩, .other "b" "r/objects/pack/pack-2.pack" [2],
        .own ⟨[], .begin d "pack/pack-2.idx"⟩,
        .own ⟨[some (Reason.internal "lost").alone], .delete d "pack/pack-1.pack"⟩]
    let s := ((c.live happenings).facing []).session
    Act.answerOf (d.packNames s) = .ok ["pack-1.pack"] ∧
      d.Opens "pack/pack-1.pack" s ∧ d.Opens "pack/pack-1.idx" s := by
  intro d c happenings s
  have htracked : ∀ key version, c.session.manifest.version? key = some version →
      ∃ r ∈ c.session.store.inner.history c.session.remote.bucket key, r.version = version := by
    intro key version hversion
    change (Manifest.empty.track _ _).version? key = _ at hversion
    rw [Manifest.version?_track] at hversion
    split at hversion
    · next hk =>
      subst hk
      cases hversion
      exact ⟨⟨"v1", [1]⟩, List.mem_cons_self, rfl⟩
    · cases hversion
  have huploads : c.Holds fun _ => True := by
    intro u hu
    rw [List.mem_singleton.1 hu]
    exact ⟨rfl, trivial⟩
  have hvalue : Act.answerOf (d.packNames s) = .ok ["pack-1.pack"] := by
    simp only [s, c, d, happenings]
    rfl
  obtain ⟨names, hnames, -, hmem⟩ :=
    packNames_live (.put .empty _ _ _) huploads htracked happenings d
  cases hvalue.symm.trans hnames
  obtain ⟨-, start, hstart, hpack, hindex⟩ := (hmem "pack-1.pack").1 List.mem_cons_self
  obtain rfl : start = "pack-1" := (String.append_left_inj ".pack").1 hstart.symm
  exact ⟨hvalue, hpack, hindex⟩

end Client

end BlobRemote
