import Mathlib
import BlobRemote.Proofs.Ref.Chain
import BlobRemote.Proofs.Ref.Scanning
import BlobRemote.Proofs.Store.Steady

/-!
# Following a chain of symbolic references

On a store of any kind whose contents are fixed and whose reads do not fail, reading a name follows
its chain up to the first event on it. The call answers what that event comes to, seen through the
symbolic references on the way (`BlobRemote.Scan.through`). This is said of every chain and of every
event, and there is one, so there is no other outcome (`BlobRemote.Scan.read_follows`). Each name on
the chain is read once, so the store is called at most once more than it has blobs.

The induction is on the names that are still to come; what it carries is that the scan is at rest
(`BlobRemote.Scan.Rests`), because references are filed only on the way back.
-/

namespace BlobRemote

namespace Scan

/-! ### Reading a blob of a steady store -/

variable {σ : Type} {d : Database} {blobs : Dict String Bytes} {refs : Refs}
  {name start next last : Bytes} {path rest : List Bytes} {data : Bytes}
  {calm : World σ → Prop} {bucket : String} {version? : String → Option String}

/-- **A scan of a store that is at rest**, with these references filed. -/
structure Rests (calm : World σ → Prop) (bucket : String) (version? : String → Option String)
    (refs : Refs) (t : Scan σ) : Prop where
  /-- The world is calm. -/
  calm : calm t.toWorld
  /-- The repository is in the bucket. -/
  bucket_eq : t.remote.bucket = bucket
  /-- The manifest has these versions. -/
  version_eq : t.manifest.version? = version?
  /-- These references are filed. -/
  refs_eq : t.refs = refs

variable [Store σ]

/-- A name that climbs too high has no blob that could be read. -/
theorem blob_of_climb {text : String} {climb : Key.Climb} (t : Scan σ)
    (h : Key.resolve d.objectsKey (Database.refPath text) = .error climb) :
    blob d (Utf8.encodeText text) t = .error (Reason.climb climb).alone t := by
  rw [blob_read_apply, Utf8.decodeText_encodeText]
  dsimp only
  rw [Database.read, Act.bind_apply, Database.open_apply, h]
  rfl

/-- **Reading a file** is one call of the store, if any. -/
theorem calls_read_le (d : Database) (path : String) (s : Session (Watched σ)) :
    (Act.stateOf (d.read path s)).store.calls.length ≤ s.store.calls.length + 1 := by
  rw [Database.read, Act.bind_apply, Database.open_apply]
  rcases Key.resolve d.objectsKey path with climb | key
  · exact Nat.le_succ _
  dsimp only
  have hcalls := congrArg List.length
    (Watched.calls_get s.remote.bucket key s.toWorld (s.manifest.version? key))
  rcases hget : Store.get s.remote.bucket key (s.manifest.version? key) s.toWorld with
    ⟨⟨stream, told⟩, w⟩ | ⟨f, w⟩ <;> rw [hget] at hcalls
  · dsimp only
    rw [Stream.read]
    rcases stream.content <;> exact hcalls.le
  · exact hcalls.le

/-- **Reading a blob** is one call of the store, if any. -/
theorem calls_blob_le (d : Database) (name : Bytes) (t : Scan (Watched σ)) :
    (Act.stateOf (blob d name t)).store.calls.length ≤ t.store.calls.length + 1 := by
  rw [blob_read_apply]
  rcases Utf8.decodeText name with fault | text
  · exact Nat.le_succ _
  dsimp only
  have hcalls := calls_read_le d (Database.refPath text) t.toSession
  rcases hread : d.read (Database.refPath text) t.toSession with ⟨data, s⟩ | ⟨f, s⟩ <;>
    rw [hread] at hcalls
  · exact hcalls
  · dsimp only
    split <;> exact hcalls

/-- **Reading a blob of a steady store** finds what is there. -/
theorem blob_of_key (h : Steady calm bucket version? blobs) {t : Scan σ}
    (ht : Rests calm bucket version? refs t) {key : String} (hkey : keyOf d name = some key) :
    ∃ t', blob d name t = .ok (blobs.get? key) t' ∧ Rests calm bucket version? refs t' := by
  obtain ⟨text, rfl, hresolve⟩ := keyOf_eq_some_iff.1 hkey
  rw [blob_read_apply, Utf8.decodeText_encodeText]
  dsimp only
  rw [Database.read, Act.bind_apply, Database.open_apply, hresolve]
  dsimp only
  rw [ht.bucket_eq, ht.version_eq]
  rcases hget : blobs.get? key with _ | data
  · obtain ⟨f, w', hanswer, hf, hw'⟩ := h.missing ht.calm hget
    rw [hanswer]
    dsimp only
    rw [if_pos hf]
    exact ⟨_, rfl, hw', ht.bucket_eq, ht.version_eq, ht.refs_eq⟩
  · obtain ⟨stream, told, w', hanswer, hcontent, hw'⟩ := h.found ht.calm hget
    rw [hanswer]
    dsimp only
    rw [Stream.read, hcontent]
    exact ⟨_, rfl, hw', ht.bucket_eq, ht.version_eq, ht.refs_eq⟩

/-- **Reading a blob of a steady store that is watched** finds what is there with one call. -/
theorem blob_watched_of_key (h : Steady calm bucket version? blobs) {t : Scan (Watched σ)}
    (ht : Rests (calm ∘ Watched.unwatched) bucket version? refs t) {key : String}
    (hkey : keyOf d name = some key) :
    ∃ t', blob d name t = .ok (blobs.get? key) t' ∧
      Rests (calm ∘ Watched.unwatched) bucket version? refs t' ∧
      t'.store.calls.length ≤ t.store.calls.length + 1 := by
  obtain ⟨t', hblob, ht'⟩ := blob_of_key h.watched ht hkey
  have hcalls := calls_blob_le d name t
  rw [hblob] at hcalls
  exact ⟨t', hblob, ht', hcalls⟩

theorem blob_watched_of_blobAt (h : Steady calm bucket version? blobs) {t : Scan (Watched σ)}
    (ht : Rests (calm ∘ Watched.unwatched) bucket version? refs t)
    (hdata : blobAt d blobs name = some data) :
    ∃ t', blob d name t = .ok (some data) t' ∧
      Rests (calm ∘ Watched.unwatched) bucket version? refs t' ∧
      t'.store.calls.length ≤ t.store.calls.length + 1 := by
  obtain ⟨key, hkey, hget⟩ := exists_key_of_blobAt hdata
  rw [← hget]
  exact blob_watched_of_key h ht hkey

/-! ### Following a chain -/

/-- **What is found at the end of a chain**, seen through the symbolic references on the way. If there
is nothing at the end, the name there is that of a reference that nobody has written yet, unless the
chain begins with it. -/
def through (path : List Bytes) (last : Bytes) (found : Option Ref) : Option Ref :=
  match path with
  | [] => found
  | _ :: _ => some (path.foldr Ref.symbolic (found.getD (unborn last)))

theorem through_cons (name next : Bytes) (found : Option Ref)
    (hnext : (path ++ [last]).head? = some next) :
    through (name :: path) last found = some (symbolicTo name next (through path last found)) := by
  rcases path with _ | ⟨q, rest⟩
  · cases hnext
    rfl
  · rfl

section Following

variable {t : Scan (Watched σ)} {resolving : List Bytes} {fuel : Nat}
  {result : Except Failure (Option Ref)}

/-- **A name that leads nowhere** is read at once. -/
theorem readWithin_of_halts (fuel : Nat) (h : Steady calm bucket version? blobs)
    (ht : Rests (calm ∘ Watched.unwatched) bucket version? refs t) (hnew : name ∉ resolving)
    (hr : Halts d blobs refs name result) :
    Act.answerOf (readWithin d (fuel + 1) resolving name t) = result ∧
      (Act.stateOf (readWithin d (fuel + 1) resolving name t)).store.calls.length ≤
        t.store.calls.length + 1 := by
  -- the blob is read in every case, and what follows calls the store no more
  rw [readWithin_succ_apply, if_neg hnew]
  rcases hr with ⟨rfl, hclimb⟩ | ⟨hkey, hnone⟩ | hempty | ⟨hdata, hne, hid, hname⟩ |
    ⟨hdata, hid⟩ | ⟨hdata, hline, hname, hfiled⟩
  · rw [blob_of_climb t hclimb]
    exact ⟨rfl, Nat.le_succ _⟩
  · obtain ⟨t', hblob, -, hcalls⟩ := blob_watched_of_key h ht hkey
    rw [hblob, hnone]
    exact ⟨rfl, hcalls⟩
  · obtain ⟨t', hblob, -, hcalls⟩ := blob_watched_of_blobAt h ht hempty
    rw [hblob]
    exact ⟨rfl, hcalls⟩
  · obtain ⟨t', hblob, -, hcalls⟩ := blob_watched_of_blobAt h ht hdata
    rw [hblob]
    dsimp only
    rw [Ref.contentOf_eq_malformed_iff.2 (.inr ⟨hne, rfl, hid, hname⟩)]
    exact ⟨rfl, hcalls⟩
  · obtain ⟨t', hblob, ht', hcalls⟩ := blob_watched_of_blobAt h ht hdata
    rw [hblob]
    dsimp only
    rw [Ref.contentOf_eq_object_iff.2 ⟨rfl, hid⟩, ← ht'.refs_eq]
    exact ⟨rfl, hcalls⟩
  · obtain ⟨t', hblob, ht', hcalls⟩ := blob_watched_of_blobAt h ht hdata
    rw [hblob]
    dsimp only
    rw [Ref.contentOf_eq_symbolic_iff.2 ⟨hline, hname⟩]
    dsimp only
    rw [ht'.refs_eq, hfiled]
    exact ⟨rfl, hcalls⟩

/-- **A chain is followed** to its event. The induction is on the names that are still to come. -/
theorem readWithin_follows (h : Steady calm bucket version? blobs)
    (ht : Rests (calm ∘ Watched.unwatched) bucket version? refs t)
    (hhead : (rest ++ [last]).head? = some name)
    (hchain : Chain d blobs refs start (resolving ++ rest) last)
    (hend : Ending d blobs refs (resolving ++ rest) last result) (hfuel : rest.length < fuel) :
    Act.answerOf (readWithin d fuel resolving name t) = result.map (through rest last) ∧
      (Act.stateOf (readWithin d fuel resolving name t)).store.calls.length ≤
        t.store.calls.length + (rest.length + if last ∈ resolving ++ rest then 0 else 1) := by
  induction rest generalizing resolving name t fuel with
  | nil =>
    rcases fuel with _ | fuel
    · exact absurd hfuel (Nat.not_lt_zero _)
    cases hhead
    rw [List.append_nil] at hend ⊢
    rcases hend with hmem | ⟨hnew, hr⟩
    · rw [readWithin_succ_apply, if_pos hmem]
      exact ⟨rfl, Nat.le_add_right _ _⟩
    · obtain ⟨hanswer, hcalls⟩ := readWithin_of_halts fuel h ht hnew hr
      rw [hanswer, if_neg hnew]
      exact ⟨by cases result <;> rfl, hcalls⟩
  | cons q rest ih =>
    rcases fuel with _ | fuel
    · exact absurd hfuel (Nat.not_lt_zero _)
    obtain rfl : q = name := Option.some.inj hhead
    obtain ⟨next, hnext⟩ := exists_head?_append rest last
    obtain ⟨hnew, hpoints⟩ := hchain.points_next hnext
    obtain ⟨data, hdata, hcontent⟩ := hpoints.contentOf
    obtain ⟨t', hblob, ht', hcalls⟩ := blob_watched_of_blobAt h ht hdata
    rw [List.append_cons] at hchain hend ⊢
    obtain ⟨hanswer, hmore⟩ := ih ht' hnext hchain hend (Nat.lt_of_succ_lt_succ hfuel)
    -- nothing has been filed on the way, so the name that comes next is still to be read
    rw [readWithin_succ_apply, if_neg hnew, hblob]
    dsimp only
    rw [hcontent]
    dsimp only
    rw [ht'.refs_eq, hpoints.unfiled]
    dsimp only
    have hsum : t'.store.calls.length +
        (rest.length + if last ∈ resolving ++ [q] ++ rest then 0 else 1) ≤
        t.store.calls.length +
          ((q :: rest).length + if last ∈ resolving ++ [q] ++ rest then 0 else 1) := by
      rw [List.length_cons]
      omega
    rcases hrun : readWithin d fuel (resolving ++ [q]) next t' with ⟨found, t₁⟩ | ⟨f, t₁⟩ <;>
      rw [hrun] at hanswer hmore
    · rcases result with f | found'
      · cases hanswer
      · obtain rfl : found = through rest last found' := Except.ok.inj hanswer
        refine ⟨?_, hmore.trans hsum⟩
        rw [Except.map, through_cons q next found' hnext]
        rfl
    · rcases result with f' | found'
      · cases hanswer
        exact ⟨rfl, hmore.trans hsum⟩
      · cases hanswer

end Following

theorem size_lt_chainBound (h : Steady calm bucket version? blobs) {t : Scan (Watched σ)}
    (ht : calm (Watched.unwatched t.toWorld)) : blobs.size + 1 < chainBound d t.store := by
  have hsize : blobs.size ≤ Store.extent t.store := h.size_le ht
  have hmul : Store.extent t.store ≤
      2 * ((Cut.fields '/' d.objectsKey.toList).length + 1) * Store.extent t.store :=
    Nat.le_mul_of_pos_left _ (by omega)
  rw [chainBound]
  omega

/-- **Reading a name follows its chain**, and calls the store at most once more than it has blobs. -/
theorem read_of_ending {t : Scan (Watched σ)}
    (h : Steady calm t.remote.bucket t.manifest.version? blobs)
    (ht : calm (Watched.unwatched t.toWorld)) {result : Except Failure (Option Ref)}
    (hchain : Chain d blobs t.refs name path last) (hend : Ending d blobs t.refs path last result) :
    Act.answerOf (read d name t) = result.map (through path last) ∧
      (Act.stateOf (read d name t)).store.calls.length ≤
        t.store.calls.length + (blobs.size + 1) := by
  have hle := hchain.length_le
  have hfuel : path.length < chainBound d t.store :=
    (Nat.le_of_add_right_le hle).trans_lt (size_lt_chainBound h ht)
  -- no name has led to the first one
  have hchain' : Chain d blobs t.refs name ([] ++ path) last := hchain
  obtain ⟨hanswer, hcalls⟩ :=
    readWithin_follows h ⟨ht, rfl, rfl, rfl⟩ hchain.head? hchain' hend hfuel
  rw [read, Act.bind_apply_of_ok (Act.get_apply t)]
  exact ⟨hanswer, hcalls.trans (Nat.add_le_add_left hle _)⟩

/-- **A circle is told of only if there is one.** -/
theorem Ending.of_cyclicRef {f : Failure} {q : Bytes} {names : List Bytes}
    (h : Ending d blobs refs path last (.error f)) (hf : f.reason = .cyclicRef q names) :
    q = last ∧ names = path ∧ last ∈ path := by
  rcases h with hmem | ⟨-, hr⟩
  · cases hf
    exact ⟨rfl, rfl, hmem⟩
  · rcases hr <;> cases hf

/-- **Reading a reference follows symbolic ones to a definite end**, on every store with fixed
contents whose reads do not fail and whatever is filed. From every name there is a chain up to a first
event; the call answers what that event comes to, seen through the references on the way; it tells of
a circle only if the chain has come back to a name on it, and then names it and those before it; and
it calls the store at most once more than there are blobs. -/
theorem read_follows (d : Database) (text : String) (t : Scan (Watched σ))
    (h : Steady calm t.remote.bucket t.manifest.version? blobs)
    (ht : calm (Watched.unwatched t.toWorld)) :
    let name := Utf8.encodeText text
    let run := read d name t
    (∃ path last result, Chain d blobs t.refs name path last ∧
      Ending d blobs t.refs path last result) ∧
    (∀ path last result, Chain d blobs t.refs name path last →
      Ending d blobs t.refs path last result →
      Act.answerOf run = result.map (through path last)) ∧
    (∀ f last path, Act.answerOf run = .error f → f.reason = .cyclicRef last path →
      Chain d blobs t.refs name path last ∧ last ∈ path) ∧
    (Act.stateOf run).store.calls.length ≤ t.store.calls.length + (blobs.size + 1) := by
  intro name run
  obtain ⟨path, last, result, hchain, hend⟩ := exists_ending d blobs t.refs ⟨text, rfl⟩
  obtain ⟨hanswer, hcalls⟩ := read_of_ending h ht hchain hend
  refine ⟨⟨path, last, result, hchain, hend⟩,
    fun _ _ _ hchain hend => (read_of_ending h ht hchain hend).1, ?_, hcalls⟩
  rintro f q names hf hreason
  rw [hanswer] at hf
  rcases result with f' | found
  · cases hf
    obtain ⟨rfl, rfl, hmem⟩ := hend.of_cyclicRef hreason
    exact ⟨hchain, hmem⟩
  · cases hf

/-- A scan of a store with two references that go round in a circle, in which nothing is filed yet.
The second reference names the first with a slash at the end. -/
def circling : Scan (Watched Memory) where
  store := ⟨((Memory.empty false 0).put "b" "p/HEAD" (Utf8.encodeText "ref: refs/heads/a\n")).put "b"
    "p/refs/heads/a" (Utf8.encodeText "ref: HEAD/\n"), []⟩
  log := []
  manifest := Manifest.empty
  remote := ⟨"b", "p", none⟩
  closed := false
  refs := Dict.empty

/-- The blobs of the circle. -/
def circleBlobs : Dict String Bytes := circling.store.inner.files "b" circling.manifest.version?

/-- The names on the circle as they are met. -/
def circleNames : List Bytes := ["HEAD", "refs/heads/a", "HEAD/"].map Utf8.encodeText

theorem chain_circling :
    Chain ⟨"p/objects"⟩ circleBlobs circling.refs (Utf8.encodeText "HEAD") circleNames
      (Utf8.encodeText "refs/heads/a") where
  head? := rfl
  points := by
    have hout (text : String)
        (hkey : keyOf ⟨"p/objects"⟩ (Utf8.encodeText text) = some "p/HEAD") :
        Points ⟨"p/objects"⟩ circleBlobs circling.refs (Utf8.encodeText text)
          (Utf8.encodeText "refs/heads/a") := by
      refine ⟨⟨Utf8.encodeText "ref: refs/heads/a\n", ?_, by decide +kernel⟩, by decide +kernel, rfl⟩
      rw [blobAt, hkey]
      decide +kernel
    have hback : Points ⟨"p/objects"⟩ circleBlobs circling.refs (Utf8.encodeText "refs/heads/a")
        (Utf8.encodeText "HEAD/") :=
      ⟨⟨Utf8.encodeText "ref: HEAD/\n", by decide +kernel, by decide +kernel⟩, by decide +kernel, rfl⟩
    exact .cons_cons (hout "HEAD" (by decide +kernel)) <| .cons_cons hback <|
      .cons_cons (hout "HEAD/" (by decide +kernel)) <| .singleton _
  nodup := by decide +kernel

theorem read_follows_of_circle :
    let run := read ⟨"p/objects"⟩ (Utf8.encodeText "HEAD") circling
    Steady (fun w => w.store = circling.store.inner) "b" Manifest.empty.version? circleBlobs ∧
      Act.answerOf run =
        .error (Reason.cyclicRef (Utf8.encodeText "refs/heads/a") circleNames).alone ∧
      (Act.stateOf run).store.calls.length = circleBlobs.size + 1 := by
  intro run
  have hsteady := Memory.steady circling.store.inner "b" Manifest.empty.version?
  obtain ⟨-, hanswer, -⟩ := read_follows ⟨"p/objects"⟩ "HEAD" circling hsteady rfl
  have hmem : Utf8.encodeText "refs/heads/a" ∈ circleNames := by decide +kernel
  exact ⟨hsteady, hanswer _ _ _ chain_circling (.circle hmem), by decide +kernel⟩

end Scan

end BlobRemote
