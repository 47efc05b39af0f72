import Mathlib
import BlobRemote.Proofs.Ref.Merging
import BlobRemote.Proofs.Ref.Place

/-!
# A reference that is written is what is advertised next

After a reference was written, the references are advertised again, the one that was written with its
new object and every direct one as before (`BlobRemote.Database.advertised_after_writeRef`). The write
replaces one blob by one that holds an object identifier. A chain of symbolic references that went
through the blob ends there from now on, and all other chains are as they were
(`BlobRemote.Scan.Written.ends`), so the scan succeeds. What is filed under a name depends on the
packed references and on its own blob, and those are the same for every name but the one that was
written and those with a slash at the end.
-/

namespace BlobRemote

namespace Scan

/-- **A reference was written**: its blob is shown and listed, and nothing else has changed. -/
structure Written (s s₁ : Session Memory) (directory n : String) (objectId : Bytes) : Prop where
  /-- The blob is shown, and all other files are as they were. -/
  shown : ∀ key, s₁.shown key =
    if directory ++ "/" ++ n = key then some (Ref.objectBlob objectId) else s.shown key
  /-- The blob is listed, and all others are as they were. -/
  listed : ∀ m, m ∈ s₁.store.list s₁.remote.bucket directory ↔
    m = n ∨ m ∈ s.store.list s.remote.bucket directory

variable {d : Database} {s s₁ : Session Memory} {directory n : String} {objectId name : Bytes}
  {refs : Refs}

/-- Writing a file below the directory of references writes a reference. -/
theorem written_withFile {lag : Nat} {s' : Session Memory} (hm : Memory.Made true lag s.store)
    (hs : s'.around World.store = s.around World.store) (directory n : String) (objectId : Bytes) :
    Written s (s'.withFile (directory ++ "/" ++ n) (Ref.objectBlob objectId)) directory n
      objectId := by
  have hshown := Session.shown_congr hs
  simp only [Session.around, Prod.mk.injEq] at hs
  obtain ⟨hstore, -, hremote, -⟩ := hs
  constructor
  case shown =>
    intro key
    rw [Session.shown_withFile (hstore ▸ hm), hshown]
  case listed =>
    intro m
    show m ∈ (s'.withFile _ _).store.list s'.remote.bucket directory ↔ _
    rw [Session.mem_list_withFile, hstore, hremote, String.append_right_inj]
    exact or_congr_left eq_comm

namespace Written

variable (h : Written s s₁ directory n objectId)
include h

theorem content_of_key (hid : Ref.isObjectId objectId = true)
    (hkey : keyOf d name = some (directory ++ "/" ++ n)) :
    content d s₁ name = some (.object objectId) := by
  rw [content_eq, hkey, Option.bind_some, h.shown, if_pos rfl, Option.map_some,
    Ref.contentOf_objectBlob hid]

theorem content_of_ne (hkey : keyOf d name ≠ some (directory ++ "/" ++ n)) :
    content d s₁ name = content d s name := by
  rw [content_eq, content_eq]
  cases hk : keyOf d name with
  | none => rfl
  | some key =>
    rw [Option.bind_some, Option.bind_some, h.shown, if_neg]
    rintro rfl
    exact hkey hk

/-- **Chains still end**: the one that was written is at the end of those that went through it. -/
theorem ends (hid : Ref.isObjectId objectId = true) (hend : Ends d s refs name) :
    Ends d s₁ refs name := by
  induction hend with
  | @absent name hseen =>
    obtain ⟨key, hkey, hshown⟩ := seen_eq_ok_iff.1 hseen
    by_cases he : directory ++ "/" ++ n = key
    · exact .object (h.content_of_key hid (hkey.trans (congrArg some he.symm)))
    · exact .absent (seen_eq_ok_iff.2 ⟨key, hkey, by rw [h.shown, if_neg he, hshown]⟩)
  | @object name objectId' hc =>
    by_cases hkey : keyOf d name = some (directory ++ "/" ++ n)
    · exact .object (h.content_of_key hid hkey)
    · exact .object ((h.content_of_ne hkey).trans hc)
  | @filed name target hc hr =>
    by_cases hkey : keyOf d name = some (directory ++ "/" ++ n)
    · exact .object (h.content_of_key hid hkey)
    · exact .filed ((h.content_of_ne hkey).trans hc) hr
  | @step name target hc hnone _ ih =>
    by_cases hkey : keyOf d name = some (directory ++ "/" ++ n)
    · exact .object (h.content_of_key hid hkey)
    · exact .step ((h.content_of_ne hkey).trans hc) hnone ih

variable (hdirectory : Key.resolve d.objectsKey refsPath = .ok directory)
include hdirectory

theorem mem_turns : name ∈ turns d s₁ ↔ name = listedName n ∨ name ∈ turns d s := by
  rw [mem_turns_iff, mem_turns_iff, mem_listedNames_iff hdirectory, mem_listedNames_iff hdirectory,
    ← or_assoc]
  refine or_congr_left ⟨?_, ?_⟩
  · rintro ⟨m, hm, rfl⟩
    rcases (h.listed m).1 hm with rfl | hm
    · exact Or.inl rfl
    · exact Or.inr ⟨m, hm, rfl⟩
  · rintro (rfl | ⟨m, hm, rfl⟩)
    · exact ⟨n, (h.listed n).2 (Or.inl rfl), rfl⟩
    · exact ⟨m, (h.listed m).2 (Or.inr hm), rfl⟩

variable (hslash : ("refs/" ++ n).toList.getLast? ≠ some '/')
include hslash

/-- The file of packed references is as it was. -/
theorem shown_packed {key : String} (hkey : keyOf d packedName = some key) :
    s₁.shown key = s.shown key := by
  rw [h.shown, if_neg]
  rintro rfl
  exact keyOf_packedName_ne n hkey (keyOf_listedName hdirectory hslash)

theorem packedRefs_eq (hpacked : PackedReads d s) :
    PackedReads d s₁ ∧ packedRefs d s₁ = packedRefs d s :=
  packedRefs_congr hpacked fun _ hkey => h.shown_packed hdirectory hslash hkey

/-- **The references can be scanned again.** -/
theorem scannable (hid : Ref.isObjectId objectId = true) (hs : Scannable d s) :
    Scannable d s₁ := by
  have hname := h.content_of_key hid (keyOf_listedName hdirectory hslash)
  constructor
  case packed => exact (h.packedRefs_eq hdirectory hslash hs.packed).1
  case listed => exact hs.listed
  case ends =>
    intro name hmem
    rw [(h.packedRefs_eq hdirectory hslash hs.packed).2]
    rcases (h.mem_turns hdirectory).1 hmem with rfl | hmem
    · exact .object hname
    · exact h.ends hid (hs.ends name hmem)

/-- The blob of another name that is listed, or of the current branch, is as it was. -/
theorem content_of_turn (hturn : name ∈ turns d s) (hne : name ≠ listedName n)
    (hlast : name.getLast? ≠ some 0x2F) : content d s₁ name = content d s name := by
  refine h.content_of_ne fun hkey => ?_
  rcases mem_turns_iff.1 hturn with hlisted | rfl
  · obtain ⟨m, -, rfl⟩ := (mem_listedNames_iff hdirectory).1 hlisted
    rw [keyOf_listedName hdirectory (getLast?_encodeText hlast), Option.some.injEq,
      String.append_right_inj] at hkey
    exact hne (congrArg listedName hkey)
  · exact keyOf_headName_ne n hkey (keyOf_listedName hdirectory hslash)

end Written

/-! ### What is filed -/

variable {content content' : Bytes → Option Ref.Content} {packed refs' : Refs}
  {names names' : List Bytes}

/-- **A direct reference is filed in two scans alike** if its name has a turn in both or in neither
of them, and its blob and the packed references are the same. -/
theorem ReadsAll.get?_of_direct (hreads : ReadsAll content packed names refs)
    (hreads' : ReadsAll content' packed names' refs') (hnodup : names.Nodup)
    (hnodup' : names'.Nodup) (hpacked : ArePacked packed)
    (hturn : name ∈ names ∨ packed.get? name ≠ none)
    (hnames : name ∈ names' ↔ name ∈ names)
    (hcontent : name ∈ names → content' name = content name) {r : Ref}
    (hr : refs.get? name = some r) (hdirect : r.target? = none) : refs'.get? name = some r := by
  by_cases hblob : name ∈ names ∧ content name ≠ none
  · obtain ⟨hmem, hblob⟩ := hblob
    have hsame := hcontent hmem
    obtain ⟨e, he, hfrom⟩ := hreads.fromBlob hnodup hpacked hmem hblob
    obtain ⟨e', he', hfrom'⟩ :=
      hreads'.fromBlob hnodup' hpacked (hnames.2 hmem) (hsame.symm ▸ hblob)
    rw [hr, Option.some.injEq] at he
    subst he
    cases hfrom with
    | symbolic hc => cases hdirect
    | object hc =>
      cases hfrom' with
      | object hc' =>
        rw [hsame, hc] at hc'
        cases hc'
        exact he'
      | symbolic hc' =>
        rw [hsame, hc] at hc'
        cases hc'
  · -- the name has no turn or no blob in either scan, so what is filed is packed
    have hnone : name ∈ names → content name = none := fun hmem =>
      by_contra fun hc => hblob ⟨hmem, hc⟩
    have hpackedr : packed.get? name = some r := by
      rcases (hreads.merged_of_packed hnodup hpacked).entry name r hr with hp | hfrom
      · exact hp
      · by_cases hmem : name ∈ names
        · exact absurd (hnone hmem) hfrom.content_ne_none
        · obtain ⟨e, he⟩ := Option.ne_none_iff_exists'.1 (hturn.resolve_left hmem)
          have hsame := hreads.get?_of_notMem hmem he
          rw [hr] at hsame
          rw [he, hsame]
    refine hreads'.get?_of_packed hpackedr fun hmem' => ?_
    have hmem := hnames.1 hmem'
    rw [hcontent hmem, hnone hmem]

end Scan

namespace Database

open Scan

/-- **A reference that is written is what is advertised next**, and no other direct one changes. Take
any session on a store that tells versions, whatever the store holds, however far its reads lag
behind, and whatever the manifest knows, in which references are advertised. After any of the
references below `refs/` was written, references are advertised again: the one that was written has
the object identifier and tells whether it hides a packed one, and every other direct reference that
is packed, listed or the current branch is what it was. -/
theorem advertised_after_writeRef {lag : Nat} {d : Database} {s s' : Session Memory} {refs : Refs}
    (hm : Memory.Made true lag s.store) (h : d.advertised s = .ok refs s') {n : String}
    (hn : n ≠ "") (hslash : n.toList.getLast? ≠ some '/') {objectId : Bytes}
    (hid : Ref.isObjectId objectId = true) :
    ∃ s₁ refs' s₂, d.writeRef (listedName n) objectId s' = .ok () s₁ ∧
      d.advertised s₁ = .ok refs' s₂ ∧
      refs'.get? (listedName n) = some (.direct (listedName n)
        (if (lastEntryOf? d s (listedName n)).isSome then .loosePacked else .loose)
        (some objectId) none) ∧
      ∀ name r, name ≠ listedName n → name.getLast? ≠ some 0x2F →
        (name = headName ∨ name ∈ listedNames d s ∨ lastEntryOf? d s name ≠ none) →
        refs.get? name = some r → r.target? = none → refs'.get? name = some r := by
  have hscannable := advertised_ok_iff.1 ⟨refs, s', h⟩
  obtain ⟨directory, hdirectory⟩ := hscannable.listed
  have hlast := getLast?_refs_append hn hslash
  have hkey := keyOf_listedName hdirectory hlast
  have hwritten := written_withFile hm (around_of_advertised h) directory n objectId
  set s₁ := s'.withFile (directory ++ "/" ++ n) (Ref.objectBlob objectId) with hs₁
  have hwrite : d.writeRef (listedName n) objectId s' = .ok () s₁ := by
    obtain ⟨text, htext, hresolve⟩ := keyOf_eq_some_iff.1 hkey
    rw [writeRef_apply, htext, Utf8.decodeText_encodeText]
    dsimp only
    rw [write_memory_apply, hresolve]
  obtain ⟨refs', s₂, h'⟩ :=
    advertised_ok_iff.2 (hwritten.scannable hdirectory hlast hid hscannable)
  obtain ⟨filed, hreads, rfl⟩ := readsAll_of_advertised h
  obtain ⟨filed', hreads', rfl⟩ := readsAll_of_advertised h'
  rw [(hwritten.packedRefs_eq hdirectory hlast hscannable.packed).2] at hreads'
  refine ⟨s₁, filed'.sort, s₂, hwrite, h', ?_, ?_⟩
  · -- the name that was written has a turn, and its blob holds the object identifier
    have hturn := (hwritten.mem_turns hdirectory).2 (Or.inl rfl : listedName n = listedName n ∨ _)
    have hc := hwritten.content_of_key hid hkey
    obtain ⟨r, hr, hfrom⟩ := hreads'.fromBlob (nodup_turns d s₁) (arePacked_packedRefs d s) hturn
      (hc ▸ Option.some_ne_none _)
    rw [Dict.get?_sort, hr]
    cases hfrom with
    | object hc' =>
      rw [hc] at hc'
      cases hc'
      rw [storage_of_lastEntryOf?]
    | symbolic hc' =>
      rw [hc] at hc'
      cases hc'
  · intro name r hne hend hkind hr hdirect
    rw [Dict.get?_sort] at hr ⊢
    have hturn : name ∈ turns d s ∨ (packedRefs d s).get? name ≠ none := by
      rcases hkind with rfl | hlisted | hpacked
      · exact Or.inl (mem_turns_iff.2 (Or.inr rfl))
      · exact Or.inl (mem_turns_iff.2 (Or.inl hlisted))
      · rw [packedRefs_get?, Ne, Option.map_eq_none_iff]
        exact Or.inr hpacked
    refine hreads.get?_of_direct hreads' (nodup_turns d s) (nodup_turns d s₁)
      (arePacked_packedRefs d s) hturn ?_ ?_ hr hdirect
    · rw [hwritten.mem_turns hdirectory]
      exact or_iff_right hne
    · exact fun hmem => hwritten.content_of_turn hdirectory hlast hmem hne hend

/-- A loose reference that hides a packed one is replaced. -/
theorem advertised_after_writeRef_of_shadowing :
    ∃ refs s', (Database.mk "p/objects").advertised (sessionOn shadowing) = .ok refs s' ∧
      ∃ s₁ refs' s₂, (Database.mk "p/objects").writeRef (listedName "heads/b")
          (Utf8.encodeText "3333333333333333333333333333333333333333") s' = .ok () s₁ ∧
        (Database.mk "p/objects").advertised s₁ = .ok refs' s₂ ∧
        refs'.get? (listedName "heads/b") = some (.direct (listedName "heads/b") .loosePacked
          (some (Utf8.encodeText "3333333333333333333333333333333333333333")) none) := by
  have hlist : (sessionOn shadowing).store.list "b" "p/refs" = ["heads/b"] := by decide +kernel
  obtain ⟨filed, s', hrun, -⟩ := advertised_sessionOn shadowing ["heads/b"] (fun _ => true) hlist
    (by decide +kernel) (by decide +kernel)
  obtain ⟨s₁, refs', s₂, hwrite, hagain, hwritten, -⟩ :=
    advertised_after_writeRef (made_sessionOn shadowing) hrun (n := "heads/b") (by decide)
      (by decide)
      (show Ref.isObjectId (Utf8.encodeText "3333333333333333333333333333333333333333") = true by
        decide +kernel)
  have hpacked : (lastEntryOf? ⟨"p/objects"⟩ (sessionOn shadowing)
      (listedName "heads/b")).isSome = true := by decide +kernel
  rw [if_pos hpacked] at hwritten
  exact ⟨filed.sort, s', hrun, s₁, refs', s₂, hwrite, hagain, hwritten⟩

end Database

end BlobRemote
