import Mathlib
import BlobRemote.Proofs.Ref.Merging
import BlobRemote.Proofs.Ref.Packed
import BlobRemote.Proofs.Ref.Place

/-!
# References between a loose and a packed state

A repository is on its way from loose references to packed ones
(`BlobRemote.Scan.Migrated`) if the file of packed references holds all that were advertised but the
current branch, and of all other blobs some may be gone, that of the current branch excepted. A
reference is then found in its blob, if that is still there, or in the file, and either way has the
object that it had (`BlobRemote.Scan.Migrated.advertised`).

This needs references that can be packed (`BlobRemote.Scan.Packable`), and a current branch that does
not depend on what is packed (`BlobRemote.Scan.HeadApart`). Without the latter the scan fails
(`BlobRemote.Scan.Migrated.scannable_iff`): the name `HEAD` is not in the file of packed references,
so a current branch that names itself goes round in a circle, and a file of packed references does not
read as a loose reference.
-/

namespace BlobRemote

namespace Scan

variable {d : Database} {s s₁ : Session Memory} {name : Bytes} {refs : Refs}

/-! ### References that can be packed -/

/-- **References that can be packed**: all but the current branch are direct, below `refs/`, and have
names that fit on a line; the current branch has a blob of its own. -/
structure Packable (refs : Refs) : Prop where
  /-- All but the current branch are below `refs/`. -/
  below : ∀ name r, refs.get? name = some r → name ≠ headName → Utf8.encodeText "refs/" <+: name
  /-- They are direct. -/
  direct : ∀ name r, refs.get? name = some r → name ≠ headName → r.target? = none
  /-- Their names fit on a line. -/
  fits : ∀ name r, refs.get? name = some r → name ≠ headName → Packed.Fits name
  /-- The current branch has a blob of its own. -/
  head : ∀ r, refs.get? headName = some r → r.storage ≠ .packed

/-- **The current branch does not depend on what is packed**: it names neither itself nor a reference
that is still to be written in the place of the file of packed references. -/
def HeadApart (d : Database) (refs : Refs) : Prop :=
  ∀ r target, refs.get? headName = some r → r.target? = some target →
    target.name ≠ headName ∧ (refs.get? target.name = none → keyOf d target.name ≠ keyOf d packedName)

theorem Packable.congr {refs' : Refs} (h : Packable refs)
    (heq : ∀ name, refs'.get? name = refs.get? name) : Packable refs' where
  below name r hr := h.below name r (heq name ▸ hr)
  direct name r hr := h.direct name r (heq name ▸ hr)
  fits name r hr := h.fits name r (heq name ▸ hr)
  head r hr := h.head r (heq headName ▸ hr)

theorem HeadApart.congr {refs' : Refs} (heq : ∀ name, refs'.get? name = refs.get? name) :
    HeadApart d refs' ↔ HeadApart d refs := by
  simp only [HeadApart, heq]

/-- **A direct reference that was scanned** has a valid object identifier. -/
theorem exists_objectId (hreads : ReadsAll (content d s) (packedRefs d s) (turns d s) refs) {r : Ref}
    (hr : refs.get? name = some r) (hdirect : r.target? = none) :
    ∃ objectId, r.objectId = some objectId ∧ Ref.isObjectId objectId = true := by
  have hmerged := hreads.merged_of_packed (nodup_turns d s) (arePacked_packedRefs d s)
  rcases hmerged.entry name r hr with hp | hfrom
  · rw [packedRefs_get?, Option.map_eq_some_iff] at hp
    obtain ⟨e, he, rfl⟩ := hp
    refine ⟨e.objectId, rfl, ?_⟩
    have hmem : e ∈ packedEntries d s := List.mem_reverse.1 (List.mem_of_find?_eq_some he)
    rw [packedEntries] at hmem
    split at hmem
    · cases hmem
    · split at hmem
      · cases hmem
      · exact Packed.isObjectId_of_mem_readFrom hmem
  · cases hfrom with
    | @object objectId hc =>
      obtain ⟨data, hdata⟩ := exists_seen (hc ▸ Option.some_ne_none _)
      rw [content_of_seen hdata, Option.some.injEq, Ref.contentOf_eq_object_iff] at hc
      exact ⟨objectId, rfl, hc.2⟩
    | symbolic hc => cases hdirect

/-! ### The repository before and after -/

/-- **A repository before and after its references were packed.** -/
structure Migrated (d : Database) (s s₁ : Session Memory) (refs : Refs) : Prop where
  /-- The references that were advertised. -/
  reads : ReadsAll (content d s) (packedRefs d s) (turns d s) refs
  /-- They can be packed. -/
  packable : Packable refs
  /-- The chain of each name that had a turn ended. -/
  ends : ∀ name ∈ turns d s, Ends d s (packedRefs d s) name
  /-- There is a file of packed references, and it can be read. -/
  file : ∃ key data, keyOf d packedName = some key ∧ s₁.shown key = some data ∧
    (Packed.read data).fault = none
  /-- It holds all references but the current branch. -/
  objectIds : ∀ name, ((packedRefs d s₁).get? name).map Ref.objectId =
    if name = headName then none else (refs.get? name).map Ref.objectId
  /-- Of all other files some may be gone. -/
  shown : ∀ key, keyOf d packedName ≠ some key → s₁.shown key = s.shown key ∨ s₁.shown key = none
  /-- The blob of the current branch is not. -/
  shown_head : ∀ key, keyOf d headName = some key → s₁.shown key = s.shown key
  /-- No reference is listed that was not. -/
  listed : ∀ name ∈ listedNames d s₁, name ∈ listedNames d s

namespace Migrated

variable (h : Migrated d s s₁ refs)
include h

/-! ### The files -/

/-- The current branch says what it said. -/
theorem content_headName : content d s₁ headName = content d s headName := by
  rw [content_eq, content_eq]
  cases hkey : keyOf d headName with
  | none => rfl
  | some key => rw [Option.bind_some, Option.bind_some, h.shown_head key hkey]

/-- A blob that is still there says what it said. -/
theorem content_of_ne_none (hne : keyOf d name ≠ keyOf d packedName)
    (hblob : content d s₁ name ≠ none) : content d s₁ name = content d s name := by
  rw [content_eq] at hblob ⊢
  rw [content_eq]
  cases hkey : keyOf d name with
  | none => rfl
  | some key =>
    rw [hkey, Option.bind_some] at hblob
    rcases h.shown key (hkey ▸ hne.symm) with hshown | hshown
    · rw [Option.bind_some, Option.bind_some, hshown]
    · rw [hshown] at hblob
      exact absurd rfl hblob

/-- A listed reference that says something said it before. -/
theorem content_of_listed (hname : name ∈ listedNames d s₁) (hblob : content d s₁ name ≠ none) :
    content d s₁ name = content d s name := by
  refine h.content_of_ne_none ?_ hblob
  obtain ⟨n, rfl⟩ := exists_of_mem_listedNames hname
  intro he
  cases hkey : keyOf d packedName with
  | none =>
    rw [content_eq, he, hkey] at hblob
    exact hblob rfl
  | some key => exact keyOf_packedName_ne n hkey (he.trans hkey)

/-- Where there was no blob there is none. -/
theorem seen_of_none (hne : keyOf d name ≠ keyOf d packedName) (hseen : seen d s name = .ok none) :
    seen d s₁ name = .ok none := by
  obtain ⟨key, hkey, hshown⟩ := seen_eq_ok_iff.1 hseen
  refine seen_eq_ok_iff.2 ⟨key, hkey, ?_⟩
  rcases h.shown key (hkey ▸ hne.symm) with hsame | hnone
  · rw [hsame, hshown]
  · exact hnone

/-! ### The packed references -/

theorem packedReads : PackedReads d s₁ := by
  obtain ⟨key, data, hkey, hshown, hreads⟩ := h.file
  refine ⟨key, hkey, fun data' hdata' => ?_⟩
  rw [hshown, Option.some.injEq] at hdata'
  exact hdata' ▸ hreads

theorem get?_packed_eq_none_iff :
    (packedRefs d s₁).get? name = none ↔ name = headName ∨ refs.get? name = none := by
  have hids := h.objectIds name
  split at hids
  · next he => exact iff_of_true (Option.map_eq_none_iff.1 hids) (Or.inl he)
  · next he =>
    rw [← Option.map_eq_none_iff (f := Ref.objectId), hids, Option.map_eq_none_iff]
    exact (or_iff_right he).symm

/-! ### What was advertised -/

/-- What was advertised and is not packed was read from a blob. -/
theorem fromBlob_of_loose {r : Ref} (hr : refs.get? name = some r) (hloose : r.storage ≠ .packed) :
    FromBlob (content d s) (packedRefs d s) name r := by
  have hmerged := h.reads.merged_of_packed (nodup_turns d s) (arePacked_packedRefs d s)
  refine (hmerged.entry name r hr).resolve_left fun hp => ?_
  obtain ⟨objectId, peeled, rfl⟩ := get?_packedRefs hp
  exact hloose rfl

/-- A loose reference other than the current branch has a name that could be listed. -/
theorem exists_listedName_of_loose {r : Ref} (hr : refs.get? name = some r) (hne : name ≠ headName)
    (hloose : r.storage ≠ .packed) :
    ∃ n key, listedName n = name ∧ keyOf d (listedName n) = some key := by
  obtain ⟨data, hdata⟩ := exists_seen (h.fromBlob_of_loose hr hloose).content_ne_none
  obtain ⟨key, hkey, -⟩ := seen_eq_ok_iff.1 hdata
  obtain ⟨n, rfl⟩ := exists_listedName (h.packable.below name r hr hne) hkey
  exact ⟨n, key, rfl, hkey⟩

/-- A listed reference with a blob was advertised with the object in its blob. -/
theorem exists_object (hname : name ∈ listedNames d s) (hblob : content d s name ≠ none) :
    ∃ objectId r, content d s name = some (.object objectId) ∧ refs.get? name = some r ∧
      r.objectId = some objectId := by
  obtain ⟨r, hr, hfrom⟩ := h.reads.fromBlob (nodup_turns d s) (arePacked_packedRefs d s)
    (mem_turns_iff.2 (Or.inl hname)) hblob
  obtain ⟨n, rfl⟩ := exists_of_mem_listedNames hname
  have hdirect := h.packable.direct _ r hr (listedName_ne_headName n)
  cases hfrom with
  | object hc => exact ⟨_, _, hc, hr, rfl⟩
  | symbolic hc => cases hdirect

/-- If the blob of the current branch names another reference, so did the current branch that was
advertised. -/
theorem exists_symbolic {target : Bytes} (hc : content d s headName = some (.symbolic target)) :
    ∃ r, refs.get? headName = some (.symbolic headName r) ∧ r.name = target := by
  obtain ⟨r, hr, hfrom⟩ := h.reads.fromBlob (nodup_turns d s) (arePacked_packedRefs d s)
    (mem_turns_iff.2 (Or.inr rfl)) (hc ▸ Option.some_ne_none _)
  cases hfrom with
  | object hc' =>
    rw [hc] at hc'
    cases hc'
  | @symbolic r hc' =>
    rw [hc] at hc'
    cases hc'
    exact ⟨r, hr, rfl⟩

/-- **What the current branch names** is not the current branch, and if it was not advertised it has
no blob now. -/
theorem seen_target (hapart : HeadApart d refs) {target : Bytes}
    (hc : content d s headName = some (.symbolic target)) :
    target ≠ headName ∧ (refs.get? target = none → seen d s₁ target = .ok none) := by
  obtain ⟨r, hr, rfl⟩ := h.exists_symbolic hc
  obtain ⟨hne, hkey⟩ := hapart _ r hr rfl
  refine ⟨hne, fun hnone => h.seen_of_none (hkey hnone) ?_⟩
  have hhead : headName ∈ turns d s := mem_turns_iff.2 (Or.inr rfl)
  have habsent : content d s r.name = none := by
    by_contra hblob
    exact h.reads.get?_target hhead hc hblob hnone
  have hmerged := h.reads.merged_of_packed (nodup_turns d s) (arePacked_packedRefs d s)
  -- the chain went on at the target, so the target has a key
  have hend := (h.ends headName hhead).target hc (hmerged.packed_le _ hnone)
  obtain ⟨⟨key, hkey⟩, -⟩ := hend.exists_key
  exact seen_of_content_none hkey habsent

/-! ### What is advertised now -/

/-- **The chain of a listed reference** ends still. -/
theorem ends_of_listed (hname : name ∈ listedNames d s₁) : Ends d s₁ (packedRefs d s₁) name := by
  obtain ⟨⟨key, hkey⟩, -⟩ := (h.ends name (mem_turns_iff.2 (Or.inl (h.listed name hname)))).exists_key
  by_cases hblob : content d s₁ name = none
  · exact .absent (seen_of_content_none hkey hblob)
  · have hsame := h.content_of_listed hname hblob
    obtain ⟨objectId, r, hobject, -⟩ := h.exists_object (h.listed name hname) (hsame ▸ hblob)
    exact .object (hsame.trans hobject)

/-- **The chain of the current branch** ends still, if that does not depend on what is packed. -/
theorem ends_headName (hapart : HeadApart d refs) : Ends d s₁ (packedRefs d s₁) headName := by
  obtain ⟨⟨key, hkey⟩, hwell⟩ := (h.ends headName (mem_turns_iff.2 (Or.inr rfl))).exists_key
  have hsame := h.content_headName
  cases hc : content d s headName with
  | none => exact .absent (seen_of_content_none hkey (hsame.trans hc))
  | some said =>
    cases said with
    | object objectId => exact .object (hsame.trans hc)
    | malformed line => exact absurd hc (hwell line)
    | symbolic target =>
      obtain ⟨hne, habsent⟩ := h.seen_target hapart hc
      by_cases hp : (packedRefs d s₁).get? target = none
      · have hnone := (h.get?_packed_eq_none_iff.1 hp).resolve_left hne
        exact .step (hsame.trans hc) hp (.absent (habsent hnone))
      · exact .filed (hsame.trans hc) hp

/-- **If the chain of the current branch ends still**, that does not depend on what is packed. -/
theorem headApart_of_ends (hend : Ends d s₁ (packedRefs d s₁) headName) : HeadApart d refs := by
  intro r target hr ht
  cases h.fromBlob_of_loose hr (h.packable.head r hr) with
  | object hc => cases ht
  | symbolic hc =>
    cases ht
    rw [← h.content_headName] at hc
    constructor
    · -- the name of the current branch is not packed, so a circle would go through it
      intro hself
      rw [hself] at hc
      have hp := h.get?_packed_eq_none_iff.2 (Or.inl rfl)
      exact hend.not_transGen (.single ⟨hc, hp⟩)
    · -- the file of packed references would be read as a loose reference
      intro hnone hkey
      have hp := h.get?_packed_eq_none_iff.2 (Or.inr hnone)
      obtain ⟨-, hwell⟩ := (hend.target hc hp).exists_key
      obtain ⟨key, data, hpacked, hshown, hreads⟩ := h.file
      obtain ⟨line, hline⟩ := Packed.exists_malformed_of_read hreads
      refine hwell line ?_
      rw [content_eq, hkey, hpacked, Option.bind_some, hshown, Option.map_some, hline]

/-- **The references can be scanned** exactly if the current branch does not depend on what is
packed. -/
theorem scannable_iff (hdirectory : ∃ key, Key.resolve d.objectsKey refsPath = .ok key) :
    Scannable d s₁ ↔ HeadApart d refs := by
  refine ⟨fun hs => h.headApart_of_ends (hs.ends headName (mem_turns_iff.2 (Or.inr rfl))), ?_⟩
  intro hapart
  refine ⟨h.packedReads, hdirectory, fun name hname => ?_⟩
  rcases mem_turns_iff.1 hname with hname | rfl
  · exact h.ends_of_listed hname
  · exact h.ends_headName hapart

variable (hapart : HeadApart d refs) {refs₁ : Refs}
  (hreads₁ : ReadsAll (content d s₁) (packedRefs d s₁) (turns d s₁) refs₁)
include hapart hreads₁

/-- **What is not packed and has no blob in its turn** is not read, because what leads to it has no
blob either. -/
theorem get?_eq_none_of_unpacked (hp : (packedRefs d s₁).get? name = none)
    (habsent : name ∈ turns d s₁ → content d s₁ name = none) : refs₁.get? name = none := by
  by_contra hfiled
  rcases hreads₁.reached (fun _ hp => hp) hfiled with hpacked | ⟨hc, turn, hturn, hreach⟩
  · exact hpacked hp
  rcases Relation.ReflTransGen.cases_head hreach with rfl | ⟨target, ⟨hsaid, hunpacked⟩, hrest⟩
  · exact hc (habsent hturn)
  rcases mem_turns_iff.1 hturn with hturn | rfl
  · -- a listed reference is direct, so it leads nowhere
    have hsame := h.content_of_listed hturn (hsaid ▸ Option.some_ne_none _)
    obtain ⟨objectId, r, hobject, -⟩ := h.exists_object (h.listed turn hturn)
      (hsame ▸ hsaid ▸ Option.some_ne_none _)
    rw [hsame, hobject] at hsaid
    cases hsaid
  · rw [h.content_headName] at hsaid
    obtain ⟨hne, hseen⟩ := h.seen_target hapart hsaid
    have hnone := (h.get?_packed_eq_none_iff.1 hunpacked).resolve_left hne
    have hgone := content_of_seen_none (hseen hnone)
    rcases Relation.ReflTransGen.cases_head hrest with rfl | ⟨next, ⟨hsaid', -⟩, -⟩
    · exact hc hgone
    · rw [hgone] at hsaid'
      cases hsaid'

/-- **Every reference but the current branch** has the object that it had. -/
theorem objectId_of_ne (hne : name ≠ headName) :
    (refs₁.get? name).map Ref.objectId = (refs.get? name).map Ref.objectId := by
  have hids := h.objectIds name
  rw [if_neg hne] at hids
  by_cases hblob : name ∈ turns d s₁ ∧ content d s₁ name ≠ none
  · -- its blob is still there
    obtain ⟨hturn, hblob⟩ := hblob
    have hlisted := (mem_turns_iff.1 hturn).resolve_right hne
    have hsame := h.content_of_listed hlisted hblob
    obtain ⟨objectId, r, hobject, hr, hid⟩ :=
      h.exists_object (h.listed name hlisted) (hsame ▸ hblob)
    obtain ⟨r₁, hr₁, hfrom⟩ := hreads₁.fromBlob (nodup_turns d s₁) (arePacked_packedRefs d s₁)
      hturn hblob
    rw [hr₁, hr, Option.map_some, Option.map_some, hid]
    cases hfrom with
    | object hc =>
      rw [hsame, hobject] at hc
      cases hc
      rfl
    | symbolic hc =>
      rw [hsame, hobject] at hc
      cases hc
  · have habsent : name ∈ turns d s₁ → content d s₁ name = none :=
      fun hturn => by_contra fun hc => hblob ⟨hturn, hc⟩
    cases hp : (packedRefs d s₁).get? name with
    | some p => rw [← hids, hp, hreads₁.get?_of_packed hp habsent]
    | none => rw [← hids, hp, h.get?_eq_none_of_unpacked hapart hreads₁ hp habsent]

/-- What the current branch names has the object that it had, or is unborn as it was. -/
theorem objectId_target {target : Bytes} (hc : content d s headName = some (.symbolic target)) :
    ((refs₁.get? target).getD (unborn target)).objectId =
      ((refs.get? target).getD (unborn target)).objectId := by
  have hids := h.objectId_of_ne hapart hreads₁ (h.seen_target hapart hc).1
  cases hr : refs.get? target with
  | none =>
    rw [hr, Option.map_none, Option.map_eq_none_iff] at hids
    rw [hids]
  | some r =>
    rw [hr, Option.map_some] at hids
    obtain ⟨r₁, hr₁, hid⟩ := Option.map_eq_some_iff.1 hids
    rw [hr₁, Option.getD_some, Option.getD_some, hid]

/-- **The current branch** has the object that it had. -/
theorem objectId_headName :
    (refs₁.get? headName).map Ref.objectId = (refs.get? headName).map Ref.objectId := by
  have hsame := h.content_headName
  have hhead : headName ∈ turns d s := mem_turns_iff.2 (Or.inr rfl)
  have hhead₁ : headName ∈ turns d s₁ := mem_turns_iff.2 (Or.inr rfl)
  cases hc : content d s headName with
  | none =>
    have hnone : refs.get? headName = none := by
      by_contra hfiled
      obtain ⟨r, hr⟩ := Option.ne_none_iff_exists'.1 hfiled
      exact (h.fromBlob_of_loose hr (h.packable.head r hr)).content_ne_none hc
    have hmerged₁ := hreads₁.merged_of_packed (nodup_turns d s₁) (arePacked_packedRefs d s₁)
    rw [hnone, hmerged₁.get?_eq_none (h.get?_packed_eq_none_iff.2 (Or.inl rfl)) (hsame.trans hc)]
  | some said =>
    obtain ⟨r, hr, hfrom⟩ := h.reads.fromBlob (nodup_turns d s) (arePacked_packedRefs d s) hhead
      (hc ▸ Option.some_ne_none _)
    obtain ⟨r₁, hr₁, hfrom₁⟩ := hreads₁.fromBlob (nodup_turns d s₁) (arePacked_packedRefs d s₁)
      hhead₁ (hsame ▸ hc ▸ Option.some_ne_none _)
    cases hfrom with
    | object ho =>
      cases hfrom₁ with
      | object ho₁ =>
        rw [hsame, ho] at ho₁
        cases ho₁
        rw [hr, hr₁]
        rfl
      | symbolic ht₁ =>
        rw [hsame, ho] at ht₁
        cases ht₁
    | @symbolic target ht =>
      -- the current branch is read last, so it has what is filed at the end
      have hne := (h.seen_target hapart ht).1
      rw [h.reads.get?_last ht hne, hreads₁.get?_last (hsame.trans ht) hne, Option.map_some,
        Option.map_some, Option.some.injEq]
      exact h.objectId_target hapart hreads₁ ht

omit hreads₁ in
/-- **The references are advertised** with the objects that they had, if the current branch does not
depend on what is packed. -/
theorem advertised (hdirectory : ∃ key, Key.resolve d.objectsKey refsPath = .ok key) :
    ∃ refs₁ s₂, d.advertised s₁ = .ok refs₁ s₂ ∧ s₂.around World.store = s₁.around World.store ∧
      ∀ name, (refs₁.get? name).map Ref.objectId = (refs.get? name).map Ref.objectId := by
  obtain ⟨refs₁, s₂, hrun⟩ := Database.advertised_ok_iff.2 ((h.scannable_iff hdirectory).2 hapart)
  obtain ⟨filed, hreads₁, rfl⟩ := Database.readsAll_of_advertised hrun
  refine ⟨filed.sort, s₂, hrun, Database.around_of_advertised hrun, fun name => ?_⟩
  rw [Dict.get?_sort]
  by_cases hne : name = headName
  · rw [hne]
    exact h.objectId_headName hapart hreads₁
  · exact h.objectId_of_ne hapart hreads₁ hne

end Migrated

end Scan

end BlobRemote
