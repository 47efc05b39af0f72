import Mathlib
import BlobRemote.Proofs.Session.Operation
import BlobRemote.Proofs.Session.Reading
import BlobRemote.Proofs.Store.Memory
import BlobRemote.Proofs.Text.Utf8

/-!
# What scanning references does

A scan of a store in memory depends on nothing but what the store shows of each name at the
beginning (`BlobRemote.Scan.content`), because reading does not change it. With that as a parameter,
reading a reference is a relation between the references that are filed before and after
(`BlobRemote.Scan.Reads`), with one case for each thing that can happen and without failures, fuel
and log; a scan that succeeds is a sequence of such readings, one for each listed name in its turn
and one for the current branch (`BlobRemote.Database.readsAll_of_advertised`).
-/

namespace BlobRemote

namespace Scan

/-! ### What the store shows -/

/-- What a store shows under the name of a reference: its blob, if there is one, or why it cannot be
read. -/
def seen (d : Database) (s : Session Memory) (name : Bytes) : Except Failure (Option Bytes) :=
  match Utf8.decodeText name with
  | .error fault => .error (Reason.undecodable fault).alone
  | .ok text =>
    match Key.resolve d.objectsKey (Database.refPath text) with
    | .error climb =>
      .error (blame d s.remote (.unreadable (Database.refPath text)) (Reason.climb climb).alone)
    | .ok key =>
      .ok ((s.store.find? s.remote.bucket key (s.manifest.version? key)).map Revision.data)

/-- **What a name says in a store**, if it has a blob that can be read. -/
def content (d : Database) (s : Session Memory) (name : Bytes) : Option Ref.Content :=
  match seen d s name with
  | .ok data => data.map Ref.contentOf
  | .error _ => none

section Content

variable {d : Database} {s : Session Memory} {name : Bytes}

theorem content_of_seen {data : Bytes} (h : seen d s name = .ok (some data)) :
    content d s name = some (Ref.contentOf data) := by
  rw [content, h]
  rfl

theorem content_of_seen_none (h : seen d s name = .ok none) : content d s name = none := by
  rw [content, h]
  rfl

/-- A name that says something has a blob. -/
theorem exists_seen (h : content d s name ≠ none) : ∃ data, seen d s name = .ok (some data) := by
  rw [content] at h
  cases hseen : seen d s name with
  | error f =>
    rw [hseen] at h
    exact absurd rfl h
  | ok blob =>
    cases blob with
    | none =>
      rw [hseen] at h
      exact absurd rfl h
    | some data => exact ⟨data, rfl⟩

end Content

theorem onSession_apply {σ α : Type} (x : Act (Session σ) α) (t : Scan σ) :
    onSession x t =
      match x t.toSession with
      | .ok a s => .ok a { t with toSession := s }
      | .error f s => .error f { t with toSession := s } := by
  rw [onSession, Act.focus_apply]
  cases x t.toSession <;> rfl

/-- **Reading the blob of a reference** is reading a file. -/
theorem blob_read_apply {σ : Type} [Store σ] (d : Database) (name : Bytes) (t : Scan σ) :
    blob d name t =
      match Utf8.decodeText name with
      | .error fault => .error (Reason.undecodable fault).alone t
      | .ok text =>
        match d.read (Database.refPath text) t.toSession with
        | .ok data s => .ok (some data) { t with toSession := s }
        | .error f s =>
          if f.reason.isNotFound then .ok none { t with toSession := s }
          else
            .error (blame d t.remote (.unreadable (Database.refPath text)) f)
              { t with toSession := s } := by
  rw [blob, Database.pathOfRef_bind_apply]
  cases Utf8.decodeText name with
  | error fault => rfl
  | ok text =>
    dsimp only
    rw [Act.bind_apply_of_ok (Act.get_apply t), Act.bind_apply, Act.attempt_apply, onSession_apply]
    cases d.read (Database.refPath text) t.toSession with
    | ok data s => rfl
    | error f s =>
      dsimp only
      split <;> rfl

/-- **Reading a blob** changes nothing. -/
theorem blob_apply (d : Database) (name : Bytes) (t : Scan Memory) :
    blob d name t =
      match seen d t.toSession name with
      | .ok data => .ok data t
      | .error f => .error f t := by
  rw [blob_read_apply, seen]
  cases Utf8.decodeText name with
  | error fault => rfl
  | ok text =>
    dsimp only
    rw [Database.read, Act.bind_apply, Database.open_apply]
    cases Key.resolve d.objectsKey (Database.refPath text) with
    | error climb => rfl
    | ok key =>
      dsimp only
      rw [Memory.get_apply]
      cases t.store.find? t.remote.bucket key (t.manifest.version? key) <;> rfl

/-- What the store shows depends on the blobs, the manifest and the repository alone. -/
theorem seen_congr {d : Database} {s s' : Session Memory}
    (h : s'.around World.store = s.around World.store) : seen d s' = seen d s := by
  simp only [Session.around, Prod.mk.injEq] at h
  obtain ⟨hstore, hmanifest, hremote, -⟩ := h
  funext name
  rw [seen, seen, hstore, hmanifest, hremote]

/-- Reads and listings leave a store in memory as it is. -/
theorem readsLeave_memory : ReadsLeave (World.store : World Memory → Memory) where
  get bucket key version w := by
    rw [Memory.get_apply]
    cases w.store.find? bucket key version <;> rfl
  list bucket directory w := rfl
  note e w := rfl

/-! ### Reading a reference -/

/-- A reference that nobody has written yet. -/
def unborn (name : Bytes) : Ref := .direct name .new none none

/-- A reference to another one, which is new unless it was found. -/
def symbolicTo (name target : Bytes) (found : Option Ref) : Ref :=
  .symbolic name (found.getD (unborn target))

/-- A loose reference to an object, given what is filed under its name. -/
def looseRef (name objectId : Bytes) (old : Option Ref) : Ref :=
  .direct name (looseStorage old) (some objectId) none

/-- **Reading a reference**, where `content` tells what each name says. The references filed before,
the name, the reference that is found, and the references filed after are related. -/
inductive Reads (content : Bytes → Option Ref.Content) :
    Refs → Bytes → Option Ref → Refs → Prop where
  /-- There is no blob. -/
  | absent {refs : Refs} {name : Bytes} (h : content name = none) :
    Reads content refs name none refs
  /-- The reference is direct. -/
  | object {refs : Refs} {name objectId : Bytes} (h : content name = some (.object objectId)) :
    Reads content refs name (some (looseRef name objectId (refs.get? name)))
      (refs.insert name (looseRef name objectId (refs.get? name)))
  /-- The reference is symbolic, and the one that it names is filed. -/
  | filed {refs : Refs} {name target : Bytes} {r : Ref}
    (h : content name = some (.symbolic target)) (hr : refs.get? target = some r) :
    Reads content refs name (some (.symbolic name r)) (refs.insert name (.symbolic name r))
  /-- The reference is symbolic, and the one that it names is read first. -/
  | followed {refs refs' : Refs} {name target : Bytes} {found : Option Ref}
    (h : content name = some (.symbolic target)) (hnone : refs.get? target = none)
    (hread : Reads content refs target found refs') :
    Reads content refs name (some (symbolicTo name target found))
      (refs'.insert name (symbolicTo name target found))

namespace Reads

variable {content : Bytes → Option Ref.Content} {refs refs' : Refs} {name : Bytes} {r : Ref}

/-- What is found is filed. -/
theorem get?_found (h : Reads content refs name (some r) refs') : refs'.get? name = some r := by
  cases h with
  | object h => rw [Dict.get?_insert, if_pos rfl]
  | filed h hr => rw [Dict.get?_insert, if_pos rfl]
  | followed h hnone hread => rw [Dict.get?_insert, if_pos rfl]

/-- What is found has the name that was read. -/
theorem name_found (h : Reads content refs name (some r) refs') : r.name = name := by
  cases h <;> rfl

/-- What is found is not a packed reference. -/
theorem storage_found (h : Reads content refs name (some r) refs') : r.storage ≠ .packed := by
  cases h with
  | object h =>
    intro hp
    change looseStorage _ = _ at hp
    rw [looseStorage] at hp
    split at hp <;> cases hp
  | filed h hr => exact fun hp => by cases hp
  | followed h hnone hread => exact fun hp => by cases hp

/-- Something is found if there is a blob. -/
theorem exists_found {found : Option Ref} (h : Reads content refs name found refs')
    (hname : content name ≠ none) : ∃ r, found = some r := by
  cases h with
  | absent h => exact absurd h hname
  | object h => exact ⟨_, rfl⟩
  | filed h hr => exact ⟨_, rfl⟩
  | followed h hnone hread => exact ⟨_, rfl⟩

/-- If nothing is found there is no blob, and nothing is filed. -/
theorem of_none (h : Reads content refs name none refs') : content name = none ∧ refs' = refs := by
  cases h with
  | absent h => exact ⟨h, rfl⟩

/-- **What was filed under another name stays.** On the way to a reference only such names are read
that nothing is filed under. -/
theorem get?_of_ne {found : Option Ref} (h : Reads content refs name found refs') {q : Bytes}
    (hq : q ≠ name) (hr : refs.get? q = some r) : refs'.get? q = some r := by
  induction h with
  | absent h => exact hr
  | object h => rw [Dict.get?_insert, if_neg (Ne.symm hq), hr]
  | filed h hr' => rw [Dict.get?_insert, if_neg (Ne.symm hq), hr]
  | followed h hnone hread ih =>
    rw [Dict.get?_insert, if_neg (Ne.symm hq)]
    -- the name that is read first is not `q`, under which something is filed
    refine ih ?_
    rintro rfl
    rw [hnone] at hr
    cases hr

end Reads

theorem file_apply {σ : Type} (r : Ref) (t : Scan σ) :
    file r t = .ok () { t with refs := t.refs.insert r.name r } := rfl

theorem fileSymbolic_apply {σ : Type} (name target : Bytes) (found : Option Ref) (t : Scan σ) :
    ∃ s, fileSymbolic name target found t =
      .ok (some (symbolicTo name target found))
        ⟨s, t.refs.insert name (symbolicTo name target found)⟩ := ⟨_, rfl⟩

/-- **Reading a reference** reads its blob, and then the reference that this one names, if it is
symbolic and nothing is filed under the name. -/
theorem readWithin_succ_apply {σ : Type} [Store σ] (d : Database) (fuel : Nat)
    (resolving : List Bytes) (name : Bytes) (t : Scan σ) :
    readWithin d (fuel + 1) resolving name t =
      if name ∈ resolving then .error (Reason.cyclicRef name resolving).alone t
      else
        match blob d name t with
        | .error f t' => .error f t'
        | .ok none t' => .ok none t'
        | .ok (some data) t' =>
          match Ref.contentOf data with
          | .malformed line => .error (Reason.malformedRef name line).alone t'
          | .object objectId => fileDirect name objectId t'
          | .symbolic target =>
            match t'.refs.get? target with
            | some r => fileSymbolic name target (some r) t'
            | none =>
              match readWithin d fuel (resolving ++ [name]) target t' with
              | .error f t'' => .error f t''
              | .ok found t'' => fileSymbolic name target found t'' := by
  rw [readWithin]
  by_cases hname : name ∈ resolving
  · rw [if_pos hname, if_pos (List.contains_iff_mem.2 hname)]
    rfl
  · rw [if_neg hname, if_neg (by rwa [List.contains_iff_mem]), Act.bind_apply]
    rcases blob d name t with ⟨_ | data, t'⟩ | ⟨f, t'⟩
    · rfl
    · dsimp only
      cases Ref.contentOf data with
      | malformed line => rfl
      | object objectId => rfl
      | symbolic target =>
        dsimp only
        rw [Act.bind_apply_of_ok (Act.get_apply t')]
        cases t'.refs.get? target with
        | some r => rfl
        | none =>
          dsimp only
          rw [Act.bind_apply]
          cases readWithin d fuel (resolving ++ [name]) target t' <;> rfl
    · rfl

/-- **A reference that was read** was read as the relation says. -/
theorem reads_of_readWithin {d : Database} {s : Session Memory} {fuel : Nat}
    {resolving : List Bytes} {name : Bytes} {t t' : Scan Memory} {found : Option Ref}
    (hs : t.toSession.around World.store = s.around World.store)
    (h : readWithin d fuel resolving name t = .ok found t') :
    Reads (content d s) t.refs name found t'.refs := by
  -- a scan that succeeds did not run out of fuel, and what it had resolved does not matter
  induction fuel generalizing resolving name t t' found with
  | zero => cases h
  | succ fuel ih =>
    rw [readWithin_succ_apply, blob_apply, seen_congr hs] at h
    split at h
    · cases h
    · rcases hseen : seen d s name with f | _ | data
      · rw [hseen] at h
        cases h
      · rw [hseen] at h
        cases h
        exact .absent (content_of_seen_none hseen)
      · have hcontent := content_of_seen hseen
        rw [hseen] at h
        dsimp only at h
        cases hdata : Ref.contentOf data with
        | malformed line =>
          rw [hdata] at h
          cases h
        | object objectId =>
          rw [hdata] at h hcontent
          cases h
          exact .object hcontent
        | symbolic target =>
          rw [hdata] at h hcontent
          dsimp only at h
          rcases hr : t.refs.get? target with _ | r
          · rw [hr] at h
            dsimp only at h
            rcases hread : readWithin d fuel (resolving ++ [name]) target t with ⟨found', t₁⟩ | _
            · obtain ⟨s₁, hfile⟩ := fileSymbolic_apply name target found' t₁
              rw [hread] at h
              dsimp only at h
              rw [hfile] at h
              cases h
              exact .followed hcontent hr (ih hs hread)
            · rw [hread] at h
              cases h
          · rw [hr] at h
            cases h
            exact .filed hcontent hr

/-! ### A whole scan -/

/-- The entries of the file of packed references. -/
def packedEntries (d : Database) (s : Session Memory) : List Packed.Entry :=
  match Key.resolve d.objectsKey Database.packedRefsPath with
  | .error _ => []
  | .ok key =>
    match s.store.find? s.remote.bucket key (s.manifest.version? key) with
    | none => []
    | some r => (Packed.read r.data).entries

/-- The references with the packed ones of a list filed one after another. -/
def filePacked (refs : Refs) (entries : List Packed.Entry) : Refs :=
  entries.foldl (fun refs e => refs.insert e.name (packedRef e)) refs

/-- **The packed references.** -/
def packedRefs (d : Database) (s : Session Memory) : Refs :=
  filePacked Dict.empty (packedEntries d s)

/-- The names of the references whose blobs are listed, in ascending order of their blobs. -/
def listedNames (d : Database) (s : Session Memory) : List Bytes :=
  match Key.resolve d.objectsKey refsPath with
  | .error _ => []
  | .ok key => (Names.sorted (s.store.list s.remote.bucket key)).map listedName

/-- **The names that are read**, in their order: the listed ones and the current branch. -/
def turns (d : Database) (s : Session Memory) : List Bytes := listedNames d s ++ [headName]

theorem listedName_injective {n n' : String} (h : listedName n = listedName n') : n = n' :=
  (String.append_right_inj "refs/").1 (Utf8.encodeText_injective h)

theorem listedName_ne_headName (n : String) : listedName n ≠ headName := by
  intro h
  have he := congrArg String.toList (Utf8.encodeText_injective h)
  rw [String.toList_append] at he
  cases he

/-- **No name has two turns.** -/
theorem nodup_turns (d : Database) (s : Session Memory) : (turns d s).Nodup := by
  have hlisted : (listedNames d s).Nodup := by
    rw [listedNames]
    cases Key.resolve d.objectsKey refsPath with
    | error climb => exact List.nodup_nil
    | ok key =>
      have hsorted : (Names.sorted (s.store.list s.remote.bucket key)).Nodup :=
        (List.mergeSort_perm _ _).nodup_iff.2 (Names.nodup_below _ _)
      exact hsorted.map fun n n' h => listedName_injective h
  refine List.nodup_append.2 ⟨hlisted, List.nodup_singleton _, ?_⟩
  intro name hname name' hname' he
  rw [List.mem_singleton.1 hname'] at he
  rw [listedNames] at hname
  split at hname
  · cases hname
  · obtain ⟨n, -, rfl⟩ := List.mem_map.1 hname
    exact listedName_ne_headName n he

/-- **A packed reference** is filed under its name, and is a direct one. -/
theorem get?_packedRefs {d : Database} {s : Session Memory} {name : Bytes} {r : Ref}
    (h : (packedRefs d s).get? name = some r) :
    ∃ objectId peeled, r = .direct name .packed (some objectId) peeled := by
  have hall : ∀ (entries : List Packed.Entry) (refs : Refs),
      (∀ r, refs.get? name = some r →
        ∃ objectId peeled, r = .direct name .packed (some objectId) peeled) →
      ∀ r, (filePacked refs entries).get? name = some r →
        ∃ objectId peeled, r = .direct name .packed (some objectId) peeled := by
    intro entries
    induction entries with
    | nil => exact fun refs hrefs => hrefs
    | cons e rest ih =>
      intro refs hrefs
      refine ih (refs.insert e.name (packedRef e)) fun r hr => ?_
      rw [Dict.get?_insert] at hr
      split at hr
      · next he =>
        cases hr
        exact ⟨e.objectId, e.peeled, by rw [packedRef, he]⟩
      · exact hrefs r hr
  exact hall _ _ (fun r hr => by cases hr) r h

/-- **Reading references one after another.** -/
inductive ReadsAll (content : Bytes → Option Ref.Content) : Refs → List Bytes → Refs → Prop where
  /-- None is left. -/
  | nil (refs : Refs) : ReadsAll content refs [] refs
  /-- One is read, and then the rest. -/
  | cons {refs refs' refs'' : Refs} {name : Bytes} {rest : List Bytes} {found : Option Ref}
    (hread : Reads content refs name found refs') (hrest : ReadsAll content refs' rest refs'') :
    ReadsAll content refs (name :: rest) refs''

theorem ReadsAll.append {content : Bytes → Option Ref.Content} {refs refs' refs'' : Refs}
    {names names' : List Bytes} (h : ReadsAll content refs names refs')
    (h' : ReadsAll content refs' names' refs'') :
    ReadsAll content refs (names ++ names') refs'' := by
  induction h with
  | nil => exact h'
  | cons hread _ ih => exact .cons hread (ih h')

/-- What was filed under a name that has no turn stays. -/
theorem ReadsAll.get?_of_notMem {content : Bytes → Option Ref.Content} {refs refs' : Refs}
    {names : List Bytes} (h : ReadsAll content refs names refs') {q : Bytes} {r : Ref}
    (hq : q ∉ names) (hr : refs.get? q = some r) : refs'.get? q = some r := by
  induction h with
  | nil => exact hr
  | cons hread _ ih =>
    rw [List.mem_cons, not_or] at hq
    exact ih hq.2 (hread.get?_of_ne hq.1 hr)

theorem each_file_apply {σ : Type} (entries : List Packed.Entry) (t : Scan σ) :
    ∃ done, Act.each (fun e => file (packedRef e)) entries t =
      .ok done { t with refs := filePacked t.refs entries } := by
  induction entries generalizing t with
  | nil => exact ⟨_, rfl⟩
  | cons e rest ih =>
    obtain ⟨done, hrest⟩ := ih { t with refs := t.refs.insert e.name (packedRef e) }
    refine ⟨⟨⟩ :: done, ?_⟩
    rw [Act.each, Act.bind_apply_of_ok (file_apply (packedRef e) t)]
    exact Act.bind_apply_of_ok hrest

/-- The packed references are filed. -/
theorem refs_of_readPacked {d : Database} {s : Session Memory} {t t' : Scan Memory}
    (hs : t.toSession = s) (h : readPacked d t = .ok () t') :
    t'.refs = filePacked t.refs (packedEntries d s) := by
  subst hs
  rw [readPacked, Act.bind_apply_of_ok (Act.get_apply t), Act.bind_apply, Act.attempt_apply,
    onSession_apply, Database.open_apply] at h
  rw [packedEntries]
  cases hkey : Key.resolve d.objectsKey Database.packedRefsPath with
  | error climb =>
    rw [hkey] at h
    cases h
  | ok key =>
    rw [hkey] at h
    dsimp only at h
    rw [Memory.get_apply] at h
    dsimp only
    cases hfind : t.store.find? t.remote.bucket key (t.manifest.version? key) with
    | none =>
      rw [hfind] at h
      cases h
      rfl
    | some r =>
      rw [hfind] at h
      dsimp only [Stream.content] at h
      obtain ⟨done, hdone⟩ := each_file_apply (Packed.read r.data).entries t
      change (Act.each _ _ >>= _) t = _ at h
      rw [Act.bind_apply_of_ok hdone] at h
      cases hfault : (Packed.read r.data).fault with
      | none =>
        rw [hfault] at h
        cases h
        rfl
      | some fault =>
        rw [hfault] at h
        cases h

/-- A reference that was read in its turn. -/
theorem reads_of_read {d : Database} {s : Session Memory} {name : Bytes} {t t' : Scan Memory}
    {found : Option Ref} (hs : t.toSession.around World.store = s.around World.store)
    (h : read d name t = .ok found t') :
    Reads (content d s) t.refs name found t'.refs ∧
      t'.toSession.around World.store = s.around World.store := by
  refine ⟨?_, ((leaves_read readsLeave_memory d name).of_ok h).trans hs⟩
  rw [read, Act.bind_apply_of_ok (Act.get_apply t)] at h
  exact reads_of_readWithin hs h

/-- References that were read one after another. -/
theorem readsAll_of_each {d : Database} {s : Session Memory} {names : List String}
    {t t' : Scan Memory} {done : List (Option Ref)}
    (hs : t.toSession.around World.store = s.around World.store)
    (h : Act.each (fun n => read d (listedName n)) names t = .ok done t') :
    ReadsAll (content d s) t.refs (names.map listedName) t'.refs ∧
      t'.toSession.around World.store = s.around World.store := by
  induction names generalizing t done with
  | nil =>
    cases h
    exact ⟨.nil _, hs⟩
  | cons name rest ih =>
    rw [Act.each] at h
    obtain ⟨found, t₁, hread, h⟩ := Act.bind_eq_ok h
    obtain ⟨done', t₂, hrest, h⟩ := Act.bind_eq_ok h
    cases h
    obtain ⟨hfirst, hs₁⟩ := reads_of_read hs hread
    obtain ⟨hreads, hs₂⟩ := ih hs₁ hrest
    exact ⟨.cons hfirst hreads, hs₂⟩

/-- **Reading the listed references** is reading one after another, if they can be listed. -/
theorem readLoose_apply {d : Database} {s : Session Memory} {t : Scan Memory}
    (hs : t.toSession.around World.store = s.around World.store) :
    readLoose d t =
      match Key.resolve d.objectsKey refsPath with
      | .error climb => .error (blame d t.remote .listing (Reason.climb climb).alone) t
      | .ok key =>
        (do
          let _ ← Act.each (fun n => read d (listedName n))
            (Names.sorted (s.store.list s.remote.bucket key)) : Act (Scan Memory) Unit) t := by
  simp only [Session.around, Prod.mk.injEq] at hs
  obtain ⟨hstore, -, hremote, -⟩ := hs
  rw [readLoose, Act.bind_apply_of_ok (Act.get_apply t), Act.bind_apply, Act.attempt_apply,
    onSession_apply, Database.list_apply]
  cases Key.resolve d.objectsKey refsPath with
  | error climb => rfl
  | ok key =>
    dsimp only
    rw [Memory.list_apply, ← hstore, ← hremote]

/-- The listed references are read one after another. -/
theorem readsAll_of_readLoose {d : Database} {s : Session Memory} {t t' : Scan Memory}
    (hs : t.toSession.around World.store = s.around World.store) (h : readLoose d t = .ok () t') :
    ReadsAll (content d s) t.refs (listedNames d s) t'.refs ∧
      t'.toSession.around World.store = s.around World.store := by
  rw [readLoose_apply hs] at h
  rw [listedNames]
  cases hkey : Key.resolve d.objectsKey refsPath with
  | error climb =>
    rw [hkey] at h
    cases h
  | ok key =>
    rw [hkey] at h
    obtain ⟨done, t₁, hread, h⟩ := Act.bind_eq_ok h
    cases h
    exact readsAll_of_each hs hread

/-- A scan, with the names that are listed at hand. -/
theorem readAll_apply {d : Database} {s : Session Memory} {key : String} {names : List String}
    (hkey : Key.resolve d.objectsKey refsPath = .ok key)
    (hnames : Names.sorted (s.store.list s.remote.bucket key) = names) :
    readAll d ⟨s, Dict.empty⟩ =
      (do
        readPacked d
        let _ ← Act.each (fun n => read d (listedName n)) names
        let _ ← read d headName : Act (Scan Memory) Unit) ⟨s, Dict.empty⟩ := by
  rw [readAll, Act.bind_apply, Act.bind_apply]
  cases hpacked : readPacked d ⟨s, Dict.empty⟩ with
  | error f t => rfl
  | ok a t =>
    have hs : t.toSession.around World.store = s.around World.store :=
      (leaves_readPacked readsLeave_memory d).of_ok hpacked
    dsimp only
    rw [Act.bind_apply, readLoose_apply hs, hkey]
    dsimp only
    rw [hnames, Act.bind_apply, Act.bind_apply]
    cases Act.each (fun n => read d (listedName n)) names t <;> rfl

end Scan

namespace Database

open Scan

/-- **The references that are advertised** are what is filed after the packed ones, when all names
have been read in their turns. -/
theorem readsAll_of_advertised {d : Database} {s s' : Session Memory} {refs : Refs}
    (h : d.advertised s = .ok refs s') :
    ∃ filed, ReadsAll (content d s) (packedRefs d s) (turns d s) filed ∧ refs = filed.sort := by
  rw [advertised] at h
  cases hall : readAll d ⟨s, Dict.empty⟩ with
  | error f t =>
    rw [hall] at h
    cases h
  | ok a t =>
    rw [hall] at h
    cases h
    refine ⟨t.refs, ?_, rfl⟩
    obtain ⟨done, t₁, hpacked, hall⟩ := Act.bind_eq_ok hall
    obtain ⟨done', t₂, hloose, hall⟩ := Act.bind_eq_ok hall
    obtain ⟨found, t₃, hhead, hall⟩ := Act.bind_eq_ok hall
    cases hall
    have hs₁ : t₁.toSession.around World.store = s.around World.store :=
      (leaves_readPacked readsLeave_memory d).of_ok hpacked
    have hrefs : t₁.refs = packedRefs d s := refs_of_readPacked rfl hpacked
    obtain ⟨hlisted, hs₂⟩ := readsAll_of_readLoose hs₁ hloose
    obtain ⟨hlast, -⟩ := reads_of_read hs₂ hhead
    exact hrefs ▸ hlisted.append (.cons hlast (.nil _))

end Database

end BlobRemote
