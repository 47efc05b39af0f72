import Mathlib
import BlobRemote.Proofs.Manifest
import BlobRemote.Proofs.Property.RoundTrip
import BlobRemote.Proofs.Session.Command
import BlobRemote.Proofs.Session.Lifetime

/-!
# The manifest outlasts a session

What a session knows of versions when it is closed, the next one on the same repository knows when
it is opened (`BlobRemote.Session.version?_reopened`). This is so for every run of commands of the
first session that leaves the blob of the manifest alone, whatever fails in it, if the store shows
that blob without a lag.

What carries it is that the manifest is written back only if it is dirty: as long as it is not, the
manifest is still the one that was loaded, and the blob it was loaded from is still the one in the
store (`BlobRemote.Clean`).
-/

namespace BlobRemote

/-! ### Opening -/

/-- The entries that a session finds in the blob of its manifest, unless they cannot be read. There
are none if there is no blob. -/
def Memory.entries? (m : Memory) (bucket key : String) : Option (Dict String String) :=
  match m.find? bucket key none with
  | none => some Dict.empty
  | some r => (Property.read r.data).toOption

theorem Memory.entries?_congr {m m' : Memory} {bucket key : String} (hlag : m'.lag = m.lag)
    (h : m'.history bucket key = m.history bucket key) :
    m'.entries? bucket key = m.entries? bucket key := by
  rw [entries?, entries?, find?_none_congr hlag h]

/-- **A store without a lag** shows the entries that were written last. -/
theorem Memory.entries?_put {m : Memory} (h : m.lag = 0) (bucket key : String)
    (stamp : Property.Stamp) (versions : Dict String String) :
    (m.put bucket key (Property.write stamp none versions)).entries? bucket key =
      some (Dict.ofList versions.sorted) := by
  rw [entries?, find?_put_of_lag h, nextRevision]
  dsimp only
  rw [Property.read_write]
  rfl

/-- Entries that are loaded into an empty manifest are the ones that it has. -/
theorem Manifest.version?_overlay (found : Dict String String) (dirty : Bool) (key : String) :
    (Manifest.mk (Dict.empty.overlay found) dirty).version? key = found.get? key := by
  rw [version?, Dict.get?_overlay, Dict.get?_empty, Option.or_none]

namespace Session

variable {remote : Remote} {m : Memory}

/-- **Opening a session** on a store whose calls do not fail succeeds if the entries of the manifest
can be read, and only then. -/
theorem openOn_apply_of_entries (log : List Event) :
    match m.entries? remote.bucket remote.manifestKey with
    | some found => ∃ log', openOn (σ := Unreliable Memory) remote ⟨⟨m, []⟩, log⟩ =
        .ok ⟨⟨⟨⟨m, []⟩, log'⟩, ⟨Dict.empty.overlay found, false⟩⟩, remote, false⟩ ⟨⟨m, []⟩, log'⟩
    | none => ∃ f w, openOn (σ := Unreliable Memory) remote ⟨⟨m, []⟩, log⟩ = .error f w := by
  rw [openOn_apply, Tracking.load_apply, Unreliable.get_apply, Memory.entries?]
  cases m.find? remote.bucket remote.manifestKey none with
  | none => exact ⟨_, rfl⟩
  | some r =>
    have hnext : Unreliable.next ⟨m, []⟩ = none := rfl
    rw [hnext]
    dsimp only [Tracking.parse, Stream.content]
    cases Property.read r.data with
    | ok found => exact ⟨_, rfl⟩
    | error fault => exact ⟨_, _, rfl⟩

/-- A session that was opened has the entries of the manifest, which could be read. -/
theorem entries?_of_openOn {log : List Event} {s : Session (Unreliable Memory)}
    {w : World (Unreliable Memory)} (hopen : openOn remote ⟨⟨m, []⟩, log⟩ = .ok s w) :
    ∃ found, m.entries? remote.bucket remote.manifestKey = some found ∧
      s.contents = (m, ⟨Dict.empty.overlay found, false⟩) ∧ s.remote = remote ∧
      s.closed = false := by
  have h := @openOn_apply_of_entries remote m log
  cases hfound : m.entries? remote.bucket remote.manifestKey with
  | none =>
    rw [hfound] at h
    obtain ⟨f, w', hfail⟩ := h
    rw [hfail] at hopen
    cases hopen
  | some found =>
    rw [hfound] at h
    obtain ⟨log', hfirst⟩ := h
    rw [hfirst] at hopen
    cases hopen
    exact ⟨found, rfl, rfl, rfl, rfl⟩

/-- A session can be opened if the entries of the manifest can be read. -/
theorem exists_openOn {found : Dict String String}
    (h : m.entries? remote.bucket remote.manifestKey = some found) (log : List Event) :
    ∃ s w, openOn (σ := Unreliable Memory) remote ⟨⟨m, []⟩, log⟩ = .ok s w ∧
      s.manifest = ⟨Dict.empty.overlay found, false⟩ := by
  have hopen := @openOn_apply_of_entries remote m log
  rw [h] at hopen
  obtain ⟨log', hopen⟩ := hopen
  exact ⟨_, _, hopen, rfl⟩

end Session

/-! ### What a run keeps -/

/-- **A clean manifest is the one that was loaded**, and the blob that it was loaded from is still
in the store. -/
structure Clean (bucket key : String) (m₀ : Memory) (f₀ : Manifest) (c : Memory × Manifest) :
    Prop where
  /-- The store shows blobs as it did. -/
  lag_eq : c.1.lag = m₀.lag
  /-- The blob has not changed. -/
  history_eq : c.1.history bucket key = m₀.history bucket key
  /-- The manifest has not changed, unless it is dirty. -/
  manifest_eq : c.2.dirty = false → c.2 = f₀

namespace Clean

variable {bucket key : String} {m₀ : Memory} {f₀ : Manifest} {c c' : Memory × Manifest}

/-- A manifest that is clean after tracking is the one that was loaded. -/
theorem track_eq (h : Clean bucket key m₀ f₀ c) {k : String} {version : Option String}
    (hd : (c.2.track k version).dirty = false) : c.2.track k version = f₀ := by
  have he := Manifest.track_eq_of_clean hd
  exact he.trans (h.manifest_eq (he ▸ hd))

theorem untrack_eq (h : Clean bucket key m₀ f₀ c) {k : String}
    (hd : (c.2.untrack k).dirty = false) : c.2.untrack k = f₀ := by
  have he := Manifest.untrack_eq_of_clean hd
  exact he.trans (h.manifest_eq (he ▸ hd))

/-- **No move that leaves the blob of the manifest alone** changes an entry without making the
manifest dirty. -/
theorem move (h : Clean bucket key m₀ f₀ c) (hm : Moves bucket (· ≠ key) True c c') :
    Clean bucket key m₀ f₀ c' := by
  cases hm with
  | idle m f => exact h
  | write m f k data hk =>
    -- the blob is another one than that of the manifest
    have hp : ¬ (bucket, k) = (bucket, key) := by simpa using hk
    refine ⟨h.lag_eq, ?_, h.track_eq⟩
    rw [Memory.history_put, if_neg hp]
    exact h.history_eq
  | delete m f k hk =>
    have hp : ¬ (bucket, k) = (bucket, key) := by simpa using hk
    refine ⟨h.lag_eq, ?_, h.untrack_eq⟩
    rw [Memory.history_delete, if_neg hp]
    exact h.history_eq
  | track m f k version _ => exact ⟨h.lag_eq, h.history_eq, h.track_eq⟩
  | untrack m f k _ => exact ⟨h.lag_eq, h.history_eq, h.untrack_eq⟩

theorem moves (h : Clean bucket key m₀ f₀ c)
    (hm : Relation.ReflTransGen (Moves bucket (· ≠ key) True) c c') : Clean bucket key m₀ f₀ c' := by
  induction hm with
  | refl => exact h
  | tail _ hstep ih => exact ih.move hstep

end Clean

/-! ### Closing -/

namespace Session

/-- **Closing a session** whose last write does not fail leaves a store whose blob of the manifest
holds the entries of the session. -/
theorem close_of_clean (stamp : Property.Stamp) {s : Session (Unreliable Memory)} {m₀ : Memory}
    {found : Dict String String} (hclosed : s.closed = false) (hnext : s.store.next = none)
    (hlag : m₀.lag = 0)
    (hfound : m₀.entries? s.remote.bucket s.remote.manifestKey = some found)
    (hclean : Clean s.remote.bucket s.remote.manifestKey m₀
      ⟨Dict.empty.overlay found, false⟩ s.contents) :
    ∃ s', close stamp s = .ok () s' ∧ ∃ found',
      s'.store.inner.entries? s.remote.bucket s.remote.manifestKey = some found' ∧
      ∀ key, found'.get? key = s.manifest.version? key := by
  rw [close_apply, if_neg (by rw [hclosed]; decide)]
  cases hd : s.manifest.dirty with
  | false =>
    rw [if_neg (by decide)]
    refine ⟨_, rfl, found, ?_, fun key => ?_⟩
    · exact (Memory.entries?_congr hclean.lag_eq hclean.history_eq).trans hfound
    · rw [show s.manifest = _ from hclean.manifest_eq hd]
      exact (Manifest.version?_overlay ..).symm
  | true =>
    rw [if_pos rfl, Tracking.flush_apply, if_pos (show s.toTracking.manifest.dirty from hd),
      Unreliable.put_apply, hnext]
    refine ⟨_, rfl, Dict.ofList s.manifest.versions.sorted, ?_, fun key => ?_⟩
    · exact Memory.entries?_put (hclean.lag_eq.trans hlag) _ _ _ _
    · exact Dict.get?_ofList_sorted ..

/-- **The manifest outlasts a session**: if a session is opened on a store without a lag, follows
commands that leave the blob of the manifest alone, whatever fails in them, and is closed, on
whatever date and the last write not failing, then another session on the same repository can be
opened, which has the entries that the first one had at its end and is not dirty. -/
theorem version?_reopened {remote : Remote} {m : Memory} (hlag : m.lag = 0) {log : List Event}
    {s : Session (Unreliable Memory)} {w : World (Unreliable Memory)}
    (hopen : openOn remote ⟨⟨m, []⟩, log⟩ = .ok s w) (turns : List Client.Turn)
    (hkeep : ∀ turn ∈ turns, turn.command.Within (· ≠ remote.manifestKey))
    (stamp : Property.Stamp) :
    ∃ s', close stamp (((⟨s, []⟩ : Client _).follow turns).facing []).session = .ok () s' ∧
      ∀ (timeout : Option Binary64) (log' : List Event), ∃ s'' w'',
        openOn (σ := Unreliable Memory) ⟨remote.bucket, remote.keyPrefix, timeout⟩
            ⟨⟨s'.store.inner, []⟩, log'⟩ = .ok s'' w'' ∧
          (∀ key, s''.manifest.version? key =
            ((⟨s, []⟩ : Client _).follow turns).session.manifest.version? key) ∧
          s''.manifest.dirty = false := by
  obtain ⟨found, hfound, hcontents, rfl, hclosed⟩ := entries?_of_openOn hopen
  -- the run keeps the blob of the manifest, and the manifest as long as it is clean
  obtain ⟨hremote, hclosed', hmoves⟩ :=
    Client.follow_moved (c := ⟨s, []⟩) (fun u hu => by cases hu) turns hkeep
  have hfirst : Clean s.remote.bucket s.remote.manifestKey m
      ⟨Dict.empty.overlay found, false⟩ s.contents := by
    rw [hcontents]
    exact ⟨rfl, rfl, fun _ => rfl⟩
  have hclean := hfirst.moves hmoves
  generalize Client.follow ⟨s, []⟩ turns = last at *
  dsimp only at hremote hclosed'
  rw [← hremote] at hfound hclean
  obtain ⟨s', hclose, found', hfound', hentries⟩ :=
    close_of_clean stamp (s := (last.facing []).session) (hclosed'.trans hclosed) rfl hlag hfound
      hclean
  refine ⟨s', hclose, fun timeout log' => ?_⟩
  obtain ⟨s'', w'', hsecond, hmanifest⟩ :=
    @exists_openOn ⟨s.remote.bucket, s.remote.keyPrefix, timeout⟩ s'.store.inner found'
      (hremote ▸ hfound') log'
  refine ⟨s'', w'', hsecond, fun key => ?_, congrArg Manifest.dirty hmanifest⟩
  rw [hmanifest, Manifest.version?_overlay]
  exact hentries key

/-- A version that was tracked outlasts the session, also when a later write to its key failed. -/
theorem version?_reopened_of_write :
    ∃ s', close (.ofText "Fri Jan 02 15:04:05 UTC 2026")
        (((⟨⟨⟨⟨⟨Memory.empty true 0, []⟩, [.manifestAbsent "p.manifest"]⟩,
        Manifest.empty⟩, ⟨"b", "p", none⟩, false⟩, []⟩ : Client (Unreliable Memory)).follow
          [⟨[], .request (.write ⟨"p/objects"⟩ "x" [1])⟩,
            ⟨[some (Reason.internal "lost").alone], .request (.write ⟨"p/objects"⟩ "x" [2])⟩,
            ⟨[], .track "a=b" (some "c\n")⟩]).facing []).session = .ok () s' ∧
      ∃ s'' w'', openOn (σ := Unreliable Memory) ⟨"b", "p", none⟩ ⟨⟨s'.store.inner, []⟩, []⟩ =
          .ok s'' w'' ∧
        s''.manifest.version? "p/objects/x" = some "v1" ∧
        s''.manifest.version? "a=b" = some "c\n" ∧ s''.manifest.dirty = false := by
  have hkeep : ∀ turn ∈ ([⟨[], .request (.write ⟨"p/objects"⟩ "x" [1])⟩,
      ⟨[some (Reason.internal "lost").alone], .request (.write ⟨"p/objects"⟩ "x" [2])⟩,
      ⟨[], .track "a=b" (some "c\n")⟩] : List Client.Turn),
      turn.command.Within (· ≠ "p.manifest") := by
    intro turn hturn d path htarget key hkey
    have hd : d = ⟨"p/objects"⟩ ∧ path = "x" := by
      fin_cases hturn <;> cases htarget <;> exact ⟨rfl, rfl⟩
    rw [hd.1, hd.2] at hkey
    cases hkey
    decide
  obtain ⟨s', hclose, h⟩ := @version?_reopened ⟨"b", "p", none⟩ (Memory.empty true 0) rfl [] _ _ rfl
    _ hkeep (.ofText "Fri Jan 02 15:04:05 UTC 2026")
  obtain ⟨s'', w'', hopen, hentries, hclean⟩ := h none []
  exact ⟨s', hclose, s'', w'', hopen, (hentries _).trans (by rfl), (hentries _).trans (by rfl),
    hclean⟩

end Session

end BlobRemote
