import Mathlib
import BlobRemote.Proofs.Ref.Migration
import BlobRemote.Proofs.Session.Files

/-!
# Packing references does not change what is advertised

References are packed by writing all of them but the current branch into the file of packed
references; then their blobs may be deleted, in any order, all of them or some. After each of these
steps the same names are advertised with the same objects
(`BlobRemote.Database.objectIds_after_packing`). The write begins a migration
(`BlobRemote.Scan.Migrated.of_write`), and a deletion keeps it
(`BlobRemote.Scan.Migrated.withoutFile`).

This holds exactly if the current branch does not depend on what is packed
(`BlobRemote.Database.advertised_after_packing_iff`), and there are repositories in which it does
(`BlobRemote.Database.not_advertised_after_packing`).
-/

namespace BlobRemote

namespace Scan

variable {d : Database} {s s₁ : Session Memory} {name : Bytes} {refs : Refs}

/-! ### The file that is written -/

/-- **What is written of references that can be packed** is read back. -/
theorem valid_of_written (hreads : ReadsAll (content d s) (packedRefs d s) (turns d s) refs)
    (hpackable : Packable refs) {objectIds : Dict Bytes Bytes}
    (hids : ∀ name, objectIds.get? name =
      if name = headName then none else (refs.get? name).bind Ref.objectId)
    {objectId : Bytes} (h : objectIds.get? name = some objectId) :
    Ref.isObjectId objectId = true ∧ Packed.Fits name := by
  rw [hids] at h
  split at h
  · cases h
  · next hne =>
    obtain ⟨r, hr, hid⟩ := Option.bind_eq_some_iff.1 h
    obtain ⟨objectId', hid', hvalid⟩ := exists_objectId hreads hr (hpackable.direct name r hr hne)
    rw [hid, Option.some.injEq] at hid'
    exact ⟨hid' ▸ hvalid, hpackable.fits name r hr hne⟩

/-- **The packed references of a file that was written** are direct, with the identifiers that were
written and the peeled ones. -/
theorem packedRefs_of_write {key : String} (hkey : keyOf d packedName = some key)
    {objectIds : Dict Bytes Bytes} {peeled : Option (Dict Bytes Bytes)}
    (hshown : s.shown key = some (Packed.write objectIds peeled))
    (hvalid : ∀ name objectId, objectIds.get? name = some objectId →
      Ref.isObjectId objectId = true ∧ Packed.Fits name)
    (hpeeled : ∀ name p, (peeled.getD Dict.empty).get? name = some p → Ref.isObjectId p = true) :
    (Packed.read (Packed.write objectIds peeled)).fault = none ∧
      ∀ name, (packedRefs d s).get? name = (objectIds.get? name).map fun objectId =>
        .direct name .packed (some objectId) ((peeled.getD Dict.empty).get? name) := by
  have hread := Packed.read_write (fun name objectId h => (hvalid name objectId h).1)
    (fun name objectId h => (hvalid name objectId h).2) hpeeled
  refine ⟨congrArg Packed.Parse.fault hread, fun name => ?_⟩
  have hentries : packedEntries d s =
      objectIds.sorted.map (Packed.entryOf (peeled.getD Dict.empty)) := by
    rw [packedEntries_eq hkey, hshown, Option.map_some, hread, Option.getD_some]
  have hfile : packedRefs d s = Dict.empty.insertMany
      (objectIds.sorted.map fun p =>
        (p.1, packedRef (Packed.entryOf (peeled.getD Dict.empty) p))) := by
    rw [packedRefs, hentries, filePacked, Dict.insertMany, List.foldl_map, List.foldl_map]
    rfl
  have hnodup : ((objectIds.sorted.map fun p =>
      (p.1, packedRef (Packed.entryOf (peeled.getD Dict.empty) p))).map Prod.fst).Nodup := by
    rw [List.map_map]
    exact objectIds.nodup_sorted
  rw [hfile, Dict.get?_insertMany_of_nodup hnodup, Dict.get?_empty, Option.or_none,
    Dict.find_map fun p => packedRef (Packed.entryOf (peeled.getD Dict.empty) p)]
  exact congrArg (Option.map _) (objectIds.get?_sort name)

/-! ### What the steps do -/

namespace Migrated

variable {key : String}

/-- **Writing the file of packed references** begins a migration. -/
theorem of_write {lag : Nat} {s' : Session Memory} (hm : Memory.Made true lag s.store)
    (hs : s'.around World.store = s.around World.store) (hscannable : Scannable d s)
    (hreads : ReadsAll (content d s) (packedRefs d s) (turns d s) refs) (hpackable : Packable refs)
    {objectIds : Dict Bytes Bytes} {peeled : Option (Dict Bytes Bytes)}
    (hids : ∀ name, objectIds.get? name =
      if name = headName then none else (refs.get? name).bind Ref.objectId)
    (hpeeled : ∀ name p, (peeled.getD Dict.empty).get? name = some p → Ref.isObjectId p = true)
    (hkey : keyOf d packedName = some key) :
    Migrated d s (s'.withFile key (Packed.write objectIds peeled)) refs := by
  have hshown := Session.shown_congr hs
  simp only [Session.around, Prod.mk.injEq] at hs
  obtain ⟨hstore, -, hremote, -⟩ := hs
  have hwritten : ∀ k, (s'.withFile key (Packed.write objectIds peeled)).shown k =
      if key = k then some (Packed.write objectIds peeled) else s.shown k := by
    intro k
    rw [Session.shown_withFile (hstore ▸ hm), hshown]
  have hvalid : ∀ name objectId, objectIds.get? name = some objectId →
      Ref.isObjectId objectId = true ∧ Packed.Fits name :=
    fun name objectId => valid_of_written hreads hpackable hids
  have hfile := (hwritten key).trans (if_pos rfl)
  obtain ⟨hfault, hpacked⟩ := packedRefs_of_write hkey hfile hvalid hpeeled
  constructor
  case reads => exact hreads
  case packable => exact hpackable
  case ends => exact hscannable.ends
  case file => exact ⟨key, _, hkey, hfile, hfault⟩
  case objectIds =>
    intro name
    rw [hpacked, Option.map_map, hids]
    split
    · rfl
    · next hne =>
      cases hr : refs.get? name with
      | none => rfl
      | some r =>
        obtain ⟨objectId, hobject, -⟩ :=
          exists_objectId hreads hr (hpackable.direct name r hr hne)
        rw [Option.bind_some, Option.map_some, hobject]
        rfl
  case shown =>
    intro k hk
    have hne : key ≠ k := by
      rintro rfl
      exact hk hkey
    rw [hwritten, if_neg hne]
    exact Or.inl rfl
  case shown_head =>
    intro k hk
    have hne : key ≠ k := by
      rintro rfl
      exact keyOf_packedName_ne_headName hkey hk
    rw [hwritten, if_neg hne]
  case listed =>
    intro name hname
    obtain ⟨directory, hdirectory⟩ := hscannable.listed
    obtain ⟨n, hn, rfl⟩ := (mem_listedNames_iff hdirectory).1 hname
    rcases (Session.mem_list_withFile _).1 hn with he | hn
    · exact absurd he (packed_ne_listed hdirectory hkey n)
    · rw [hstore, hremote] at hn
      exact (mem_listedNames_iff hdirectory).2 ⟨n, hn, rfl⟩

/-- **What takes away other blobs** keeps a migration: the file of packed references and the current
branch are as they were. -/
theorem mono {s₂ : Session Memory} (h : Migrated d s s₁ refs)
    (hpacked : ∀ key, keyOf d packedName = some key → s₂.shown key = s₁.shown key)
    (hhead : ∀ key, keyOf d headName = some key → s₂.shown key = s₁.shown key)
    (hshown : ∀ key, s₂.shown key = s₁.shown key ∨ s₂.shown key = none)
    (hlisted : ∀ name ∈ listedNames d s₂, name ∈ listedNames d s₁) : Migrated d s s₂ refs := by
  obtain ⟨-, hsame⟩ := packedRefs_congr h.packedReads hpacked
  constructor
  case reads => exact h.reads
  case packable => exact h.packable
  case ends => exact h.ends
  case file =>
    obtain ⟨key, data, hkey, hdata, hfault⟩ := h.file
    exact ⟨key, data, hkey, (hpacked key hkey).trans hdata, hfault⟩
  case objectIds =>
    rw [hsame]
    exact h.objectIds
  case shown =>
    intro k hk
    rcases hshown k with hk' | hk'
    · rw [hk']
      exact h.shown k hk
    · exact Or.inr hk'
  case shown_head => exact fun k hk => (hhead k hk).trans (h.shown_head k hk)
  case listed => exact fun name hname => h.listed name (hlisted name hname)

/-- **Deleting the blob of a listed reference** keeps it. -/
theorem withoutFile (h : Migrated d s s₁ refs) {n : String}
    (hkey : keyOf d (listedName n) = some key) : Migrated d s (s₁.withoutFile key) refs := by
  have hdeleted : ∀ k, (s₁.withoutFile key).shown k = if key = k then none else s₁.shown k :=
    Session.shown_withoutFile
  have hother : ∀ k, key ≠ k → (s₁.withoutFile key).shown k = s₁.shown k :=
    fun k hk => (hdeleted k).trans (if_neg hk)
  refine h.mono ?_ ?_ ?_ ?_
  · refine fun k hk => hother k ?_
    rintro rfl
    exact keyOf_packedName_ne n hk hkey
  · refine fun k hk => hother k ?_
    rintro rfl
    exact keyOf_headName_ne n hk hkey
  · intro k
    rw [hdeleted]
    split
    · exact Or.inr rfl
    · exact Or.inl rfl
  · intro name hname
    cases hdirectory : Key.resolve d.objectsKey refsPath with
    | error climb =>
      rw [listedNames, hdirectory] at hname
      cases hname
    | ok directory =>
      obtain ⟨n, hn, rfl⟩ := (mem_listedNames_iff hdirectory).1 hname
      exact (mem_listedNames_iff hdirectory).2 ⟨n, Session.mem_list_of_withoutFile hn, rfl⟩

/-- Advertising references keeps it. -/
theorem congr {s₂ : Session Memory} (h : Migrated d s s₁ refs)
    (hs : s₂.around World.store = s₁.around World.store) : Migrated d s s₂ refs := by
  have hshown := Session.shown_congr hs
  simp only [Session.around, Prod.mk.injEq] at hs
  obtain ⟨hstore, -, hremote, -⟩ := hs
  refine h.mono ?_ ?_ ?_ ?_
  · exact fun k _ => congrFun hshown k
  · exact fun k _ => congrFun hshown k
  · exact fun k => Or.inl (congrFun hshown k)
  · intro name hname
    rw [listedNames, hstore, hremote] at hname
    exact hname

variable (hdirectory : ∃ key, Key.resolve d.objectsKey refsPath = .ok key)
  (hapart : HeadApart d refs)
include hdirectory hapart

/-- **One deletion**, and what is advertised after it. -/
theorem delete_advertised (h : Migrated d s s₁ refs) {n : String}
    (hkey : keyOf d (listedName n) = some key) :
    ∃ refs₁ s₂, (do d.deleteRef (listedName n); d.advertised) s₁ = .ok refs₁ s₂ ∧
      Migrated d s s₂ refs ∧ (∀ k, s₂.shown k = if key = k then none else s₁.shown k) ∧
        ∀ name, (refs₁.get? name).map Ref.objectId = (refs.get? name).map Ref.objectId := by
  have hdelete : d.deleteRef (listedName n) s₁ = .ok () (s₁.withoutFile key) := by
    obtain ⟨text, htext, hresolve⟩ := keyOf_eq_some_iff.1 hkey
    rw [Database.deleteRef_apply, htext, Utf8.decodeText_encodeText]
    dsimp only
    rw [Database.delete_memory_apply, hresolve]
  have hkept := h.withoutFile hkey
  obtain ⟨refs₁, s₂, hrun, hs, hids⟩ := hkept.advertised hapart hdirectory
  refine ⟨refs₁, s₂, (Act.bind_apply_of_ok hdelete).trans hrun, hkept.congr hs, fun k => ?_, hids⟩
  rw [Session.shown_congr hs, Session.shown_withoutFile]

/-- **One deletion after another**, and what is advertised after each. What is gone stays gone. -/
theorem each_delete_advertised (h : Migrated d s s₁ refs) {gone : List Bytes}
    (hgone : ∀ name ∈ gone, ∃ n key, listedName n = name ∧ keyOf d (listedName n) = some key) :
    ∃ after s₂, Act.each (fun name => do d.deleteRef name; d.advertised) gone s₁ = .ok after s₂ ∧
      (∀ k, s₁.shown k = none → s₂.shown k = none) ∧
      (∀ name ∈ gone, seen d s₂ name = .ok none) ∧
      ∀ refs₁ ∈ after, ∀ name,
        (refs₁.get? name).map Ref.objectId = (refs.get? name).map Ref.objectId := by
  induction gone generalizing s₁ with
  | nil => exact ⟨[], s₁, rfl, fun _ hk => hk, by rintro name ⟨⟩, by rintro refs₁ ⟨⟩⟩
  | cons name rest ih =>
    obtain ⟨n, key, rfl, hkey⟩ := hgone name List.mem_cons_self
    obtain ⟨refs₁, s₂, hfirst, hkept, hshown, hids⟩ := h.delete_advertised hdirectory hapart hkey
    obtain ⟨after, s₃, hrest, hstays, hseen, hafter⟩ :=
      ih hkept fun m hm => hgone m (List.mem_cons_of_mem _ hm)
    refine ⟨refs₁ :: after, s₃, ?_, ?_, ?_, ?_⟩
    · rw [Act.each, Act.bind_apply_of_ok hfirst, Act.bind_apply_of_ok hrest]
      rfl
    · intro k hk
      refine hstays k ?_
      rw [hshown, hk, ite_self]
    · intro m hm
      rcases List.mem_cons.1 hm with rfl | hm
      · exact seen_eq_ok_iff.2 ⟨key, hkey, hstays key ((hshown key).trans (if_pos rfl))⟩
      · exact hseen m hm
    · intro refs' hrefs'
      rcases List.mem_cons.1 hrefs' with rfl | hrefs'
      · exact hids
      · exact hafter refs' hrefs'

end Migrated

end Scan

namespace Database

open Scan

section Packing

variable {lag : Nat} {d : Database} {s s' : Session Memory} {refs : Refs}
  {objectIds : Dict Bytes Bytes} {peeled : Option (Dict Bytes Bytes)}

/-- **Writing the file of packed references** begins a migration of what was advertised. -/
theorem migrated_after_writePackedRefs (hm : Memory.Made true lag s.store)
    (h : d.advertised s = .ok refs s') (hpackable : Packable refs)
    (hids : ∀ name, objectIds.get? name =
      if name = headName then none else (refs.get? name).bind Ref.objectId)
    (hpeeled : ∀ name p, (peeled.getD Dict.empty).get? name = some p → Ref.isObjectId p = true) :
    ∃ filed s₁, refs = filed.sort ∧ d.writePackedRefs objectIds peeled s' = .ok () s₁ ∧
      Migrated d s s₁ filed := by
  have hscannable := advertised_ok_iff.1 ⟨refs, s', h⟩
  obtain ⟨filed, hreads, rfl⟩ := readsAll_of_advertised h
  simp only [Dict.get?_sort] at hids
  have hpackable' : Packable filed := hpackable.congr fun name => (filed.get?_sort name).symm
  obtain ⟨key, hkey, -⟩ := hscannable.packed
  have hwrite : d.writePackedRefs objectIds peeled s' =
      .ok () (s'.withFile key (Packed.write objectIds peeled)) := by
    rw [writePackedRefs_apply, write_memory_apply, keyOf_packedName.1 hkey]
  exact ⟨filed, _, rfl, hwrite, Migrated.of_write hm (around_of_advertised h) hscannable hreads
    hpackable' hids hpeeled hkey⟩

/-- **After references were packed they are advertised again** exactly if the current branch does not
depend on what is packed. -/
theorem advertised_after_packing_iff (hm : Memory.Made true lag s.store)
    (h : d.advertised s = .ok refs s') (hpackable : Packable refs)
    (hids : ∀ name, objectIds.get? name =
      if name = headName then none else (refs.get? name).bind Ref.objectId)
    (hpeeled : ∀ name p, (peeled.getD Dict.empty).get? name = some p → Ref.isObjectId p = true) :
    ∃ s₁, d.writePackedRefs objectIds peeled s' = .ok () s₁ ∧
      ((∃ refs₁ s₂, d.advertised s₁ = .ok refs₁ s₂) ↔ HeadApart d refs) := by
  obtain ⟨filed, s₁, rfl, hwrite, hmigrated⟩ :=
    migrated_after_writePackedRefs hm h hpackable hids hpeeled
  refine ⟨s₁, hwrite, ?_⟩
  rw [advertised_ok_iff, hmigrated.scannable_iff (advertised_ok_iff.1 ⟨_, s', h⟩).listed,
    HeadApart.congr filed.get?_sort]

/-- **Packing references does not change what is advertised.** Take any session on a store that tells
versions, whatever the store holds and however far its reads lag behind, in which references that can
be packed are advertised, and the current branch does not depend on what is packed. All references but
the current branch are written into the file of packed references, with any peeled identifiers or
none; then the blobs of any loose ones but the current branch are deleted, in any order. All this
succeeds, the blobs are gone in the end, and references are advertised after the write and after each
deletion, the same names with the same objects as at first. -/
theorem objectIds_after_packing (hm : Memory.Made true lag s.store)
    (h : d.advertised s = .ok refs s') (hpackable : Packable refs) (hapart : HeadApart d refs)
    (hids : ∀ name, objectIds.get? name =
      if name = headName then none else (refs.get? name).bind Ref.objectId)
    (hpeeled : ∀ name p, (peeled.getD Dict.empty).get? name = some p → Ref.isObjectId p = true)
    {gone : List Bytes}
    (hgone : ∀ name ∈ gone, name ≠ headName ∧ ∃ r, refs.get? name = some r ∧ r.storage ≠ .packed) :
    ∃ s₁ refs₁ s₂ after s₃, d.writePackedRefs objectIds peeled s' = .ok () s₁ ∧
      d.advertised s₁ = .ok refs₁ s₂ ∧
      Act.each (fun name => do d.deleteRef name; d.advertised) gone s₂ = .ok after s₃ ∧
      (∀ name ∈ gone, seen d s₃ name = .ok none) ∧
      ∀ refs' ∈ refs₁ :: after, ∀ name,
        (refs'.get? name).map Ref.objectId = (refs.get? name).map Ref.objectId := by
  obtain ⟨filed, s₁, rfl, hwrite, hmigrated⟩ :=
    migrated_after_writePackedRefs hm h hpackable hids hpeeled
  have hdirectory := (advertised_ok_iff.1 ⟨_, s', h⟩).listed
  simp only [Dict.get?_sort] at hgone ⊢
  rw [HeadApart.congr filed.get?_sort] at hapart
  obtain ⟨refs₁, s₂, hrun, hs₂, hids₁⟩ := hmigrated.advertised hapart hdirectory
  have hlisted : ∀ name ∈ gone, ∃ n key, listedName n = name ∧
      keyOf d (listedName n) = some key := by
    intro name hname
    obtain ⟨hne, r, hr, hloose⟩ := hgone name hname
    exact hmigrated.exists_listedName_of_loose hr hne hloose
  obtain ⟨after, s₃, hrest, -, hseen, hafter⟩ :=
    (hmigrated.congr hs₂).each_delete_advertised hdirectory hapart hlisted
  refine ⟨s₁, refs₁, s₂, after, s₃, hwrite, hrun, hrest, hseen, fun refs' hrefs' => ?_⟩
  rcases List.mem_cons.1 hrefs' with rfl | hrefs'
  · exact hids₁
  · exact hafter refs' hrefs'

/-- **Of one branch and a current branch that is symbolic** the branch can be packed. -/
theorem packable_of_branch {n : String} {storage : Storage} {objectId : Bytes} {target : Ref}
    (hget : ∀ name, refs.get? name =
      if name = listedName n then some (.direct (listedName n) storage (some objectId) none)
      else if name = headName then some (.symbolic headName target) else none)
    (hfits : Packed.Fits (listedName n)) :
    Packable refs ∧ ∀ name, (Dict.ofList [(listedName n, objectId)]).get? name =
      if name = headName then none else (refs.get? name).bind Ref.objectId := by
  have hbranch : ∀ name r, refs.get? name = some r → name ≠ headName →
      name = listedName n ∧ r = .direct (listedName n) storage (some objectId) none := by
    intro name r hr hne
    rw [hget, if_neg hne] at hr
    split at hr
    · next hname =>
      cases hr
      exact ⟨hname, rfl⟩
    · cases hr
  refine ⟨⟨?_, ?_, ?_, ?_⟩, fun name => ?_⟩
  · intro name r hr hne
    obtain ⟨rfl, -⟩ := hbranch name r hr hne
    rw [listedName, Utf8.encodeText, Utf8.encodeText, String.toList_append, Utf8.encode_append]
    exact List.prefix_append _ _
  · intro name r hr hne
    obtain ⟨-, rfl⟩ := hbranch name r hr hne
    rfl
  · intro name r hr hne
    obtain ⟨rfl, -⟩ := hbranch name r hr hne
    exact hfits
  · intro r hr
    rw [hget, if_neg (listedName_ne_headName n).symm, if_pos rfl] at hr
    cases hr
    exact fun hp => by cases hp
  · have hnodup : ([(listedName n, objectId)].map Prod.fst).Nodup := List.nodup_singleton _
    rw [Dict.get?_ofList hnodup, hget, Dict.find]
    by_cases hname : name = listedName n
    · subst hname
      rw [if_pos rfl, if_neg (listedName_ne_headName n), if_pos rfl]
      rfl
    · rw [if_neg (Ne.symm hname), if_neg hname]
      split <;> rfl

/-- A loose reference that hides a packed one, and is the current branch, is packed and deleted. -/
theorem objectIds_after_packing_of_shadowing :
    ∃ refs s', (Database.mk "p/objects").advertised (sessionOn shadowing) = .ok refs s' ∧
      ∃ s₁ refs₁ s₂ after s₃, (Database.mk "p/objects").writePackedRefs (Dict.ofList
          [(listedName "heads/b", Utf8.encodeText "2222222222222222222222222222222222222222")])
          none s' = .ok () s₁ ∧
        (Database.mk "p/objects").advertised s₁ = .ok refs₁ s₂ ∧
        Act.each (fun name => do
            (Database.mk "p/objects").deleteRef name
            (Database.mk "p/objects").advertised) [listedName "heads/b"] s₂ = .ok after s₃ ∧
        seen ⟨"p/objects"⟩ s₃ (listedName "heads/b") = .ok none ∧
        ∀ refs' ∈ refs₁ :: after, (refs'.get? headName).map Ref.objectId =
          some (some (Utf8.encodeText "2222222222222222222222222222222222222222")) := by
  have hlist : (sessionOn shadowing).store.list "b" "p/refs" = ["heads/b"] := by decide +kernel
  obtain ⟨filed, s', hrun, hfiled⟩ := advertised_sessionOn shadowing ["heads/b"]
    (fun refs => decide (refs.entries =
      [(listedName "heads/b", .direct (listedName "heads/b") .loosePacked
          (some (Utf8.encodeText "2222222222222222222222222222222222222222")) none),
        (headName, .symbolic headName (.direct (listedName "heads/b") .loosePacked
          (some (Utf8.encodeText "2222222222222222222222222222222222222222")) none))])) hlist
    (by decide +kernel) (by decide +kernel)
  have hget : ∀ name, filed.sort.get? name =
      if name = listedName "heads/b" then some (.direct (listedName "heads/b") .loosePacked
        (some (Utf8.encodeText "2222222222222222222222222222222222222222")) none)
      else if name = headName then some (.symbolic headName (.direct (listedName "heads/b")
        .loosePacked (some (Utf8.encodeText "2222222222222222222222222222222222222222")) none))
      else none := by
    intro name
    rw [Dict.get?_sort, Dict.get?, of_decide_eq_true hfiled]
    simp only [Dict.find, eq_comm]
  have hhead := hget headName
  rw [if_neg (listedName_ne_headName _).symm, if_pos rfl] at hhead
  obtain ⟨hpackable, hids⟩ := packable_of_branch hget
    ⟨by decide +kernel, by decide +kernel, by decide +kernel⟩
  have hapart : HeadApart ⟨"p/objects"⟩ filed.sort := by
    intro r target hr ht
    rw [hhead] at hr
    cases hr
    cases ht
    refine ⟨listedName_ne_headName _, fun hnone => ?_⟩
    have hb := hget (listedName "heads/b")
    rw [if_pos rfl] at hb
    exact absurd (hnone.symm.trans hb) (by simp)
  have hpeeled : ∀ name p, ((none : Option (Dict Bytes Bytes)).getD Dict.empty).get? name = some p →
      Ref.isObjectId p = true := by
    rintro name p ⟨⟩
  have hgone : ∀ name ∈ [listedName "heads/b"], name ≠ headName ∧
      ∃ r, filed.sort.get? name = some r ∧ r.storage ≠ .packed := by
    intro name hname
    rw [List.mem_singleton.1 hname]
    exact ⟨listedName_ne_headName _, _, (hget _).trans (if_pos rfl), fun hp => by cases hp⟩
  obtain ⟨s₁, refs₁, s₂, after, s₃, hwrite, hagain, heach, hseen, hall⟩ :=
    objectIds_after_packing (made_sessionOn shadowing) hrun hpackable hapart hids hpeeled hgone
  refine ⟨filed.sort, s', hrun, s₁, refs₁, s₂, after, s₃, hwrite, hagain, heach,
    hseen _ (List.mem_singleton_self _), ?_⟩
  intro refs' hrefs'
  rw [hall refs' hrefs', hhead]
  rfl

/-- **A branch whose packing breaks the repository**: the current branch depends on what is packed. -/
theorem not_advertised_of_branch (hm : Memory.Made true lag s.store)
    (h : d.advertised s = .ok refs s') {n : String} {storage : Storage} {objectId : Bytes}
    {target : Ref}
    (hget : ∀ name, refs.get? name =
      if name = listedName n then some (.direct (listedName n) storage (some objectId) none)
      else if name = headName then some (.symbolic headName target) else none)
    (hfits : Packed.Fits (listedName n)) (hapart : ¬ HeadApart d refs) :
    Packable refs ∧ (∀ name, (Dict.ofList [(listedName n, objectId)]).get? name =
        if name = headName then none else (refs.get? name).bind Ref.objectId) ∧
      ∃ s₁, d.writePackedRefs (Dict.ofList [(listedName n, objectId)]) none s' = .ok () s₁ ∧
        ∀ refs₁ s₂, d.advertised s₁ ≠ .ok refs₁ s₂ := by
  obtain ⟨hpackable, hids⟩ := packable_of_branch hget hfits
  have hpeeled : ∀ name p, ((none : Option (Dict Bytes Bytes)).getD Dict.empty).get? name = some p →
      Ref.isObjectId p = true := by
    rintro name p ⟨⟩
  obtain ⟨s₁, hwrite, hiff⟩ := advertised_after_packing_iff hm h hpackable hids hpeeled
  exact ⟨hpackable, hids, s₁, hwrite, fun refs₁ s₂ hagain => hapart (hiff.1 ⟨refs₁, s₂, hagain⟩)⟩

/-- **Packing is not harmless to every repository.** In the first one the current branch names
`packed-refs`, which is still to be written. In the second one it names itself, which is packed. -/
theorem not_advertised_after_packing :
    (∃ refs s', (Database.mk "p/objects").advertised (sessionOn
          [("HEAD", "ref: packed-refs\n"),
            ("refs/heads/a", "1111111111111111111111111111111111111111\n")]) = .ok refs s' ∧
        Packable refs ∧
        (∀ name, (Dict.ofList [(listedName "heads/a",
              Utf8.encodeText "1111111111111111111111111111111111111111")]).get? name =
            if name = headName then none else (refs.get? name).bind Ref.objectId) ∧
        ∃ s₁, (Database.mk "p/objects").writePackedRefs (Dict.ofList [(listedName "heads/a",
              Utf8.encodeText "1111111111111111111111111111111111111111")]) none s' = .ok () s₁ ∧
          ∀ refs₁ s₂, (Database.mk "p/objects").advertised s₁ ≠ .ok refs₁ s₂) ∧
      (∃ refs s', (Database.mk "p/objects").advertised (sessionOn
          [("packed-refs", "1111111111111111111111111111111111111111 HEAD\n"),
            ("HEAD", "ref: HEAD\n"),
            ("refs/heads/a", "2222222222222222222222222222222222222222\n")]) = .ok refs s' ∧
        Packable refs ∧
        (∀ name, (Dict.ofList [(listedName "heads/a",
              Utf8.encodeText "2222222222222222222222222222222222222222")]).get? name =
            if name = headName then none else (refs.get? name).bind Ref.objectId) ∧
        ∃ s₁, (Database.mk "p/objects").writePackedRefs (Dict.ofList [(listedName "heads/a",
              Utf8.encodeText "2222222222222222222222222222222222222222")]) none s' = .ok () s₁ ∧
          ∀ refs₁ s₂, (Database.mk "p/objects").advertised s₁ ≠ .ok refs₁ s₂) := by
  have hfits : Packed.Fits (listedName "heads/a") :=
    ⟨by decide +kernel, by decide +kernel, by decide +kernel⟩
  constructor
  · obtain ⟨filed, s', hrun, hfiled⟩ := advertised_sessionOn
      [("HEAD", "ref: packed-refs\n"),
        ("refs/heads/a", "1111111111111111111111111111111111111111\n")] ["heads/a"]
      (fun refs => decide (refs.entries =
        [(listedName "heads/a", .direct (listedName "heads/a") .loose
            (some (Utf8.encodeText "1111111111111111111111111111111111111111")) none),
          (headName, .symbolic headName (unborn packedName))])) (by decide +kernel)
      (by decide +kernel) (by decide +kernel)
    have hget : ∀ name, filed.sort.get? name =
        if name = listedName "heads/a" then some (.direct (listedName "heads/a") .loose
          (some (Utf8.encodeText "1111111111111111111111111111111111111111")) none)
        else if name = headName then some (.symbolic headName (unborn packedName)) else none := by
      intro name
      rw [Dict.get?_sort, Dict.get?, of_decide_eq_true hfiled]
      simp only [Dict.find, eq_comm]
    refine ⟨filed.sort, s', hrun, not_advertised_of_branch (made_sessionOn _) hrun hget hfits ?_⟩
    intro hapart
    have hhead := hget headName
    rw [if_neg (listedName_ne_headName _).symm, if_pos rfl] at hhead
    have hnone : filed.sort.get? packedName = none := by
      rw [hget, if_neg (by decide +kernel), if_neg (by decide +kernel)]
    exact (hapart _ _ hhead rfl).2 hnone rfl
  · obtain ⟨filed, s', hrun, hfiled⟩ := advertised_sessionOn
      [("packed-refs", "1111111111111111111111111111111111111111 HEAD\n"),
        ("HEAD", "ref: HEAD\n"),
        ("refs/heads/a", "2222222222222222222222222222222222222222\n")] ["heads/a"]
      (fun refs => decide (refs.entries =
        [(headName, .symbolic headName (.direct headName .packed
            (some (Utf8.encodeText "1111111111111111111111111111111111111111")) none)),
          (listedName "heads/a", .direct (listedName "heads/a") .loose
            (some (Utf8.encodeText "2222222222222222222222222222222222222222")) none)]))
      (by decide +kernel) (by decide +kernel) (by decide +kernel)
    have hget : ∀ name, filed.sort.get? name =
        if name = listedName "heads/a" then some (.direct (listedName "heads/a") .loose
          (some (Utf8.encodeText "2222222222222222222222222222222222222222")) none)
        else if name = headName then some (.symbolic headName (.direct headName .packed
          (some (Utf8.encodeText "1111111111111111111111111111111111111111")) none))
        else none := by
      intro name
      rw [Dict.get?_sort, Dict.get?, of_decide_eq_true hfiled]
      by_cases hname : name = listedName "heads/a"
      · subst hname
        simp only [Dict.find, (listedName_ne_headName _).symm, if_false, if_true]
      · simp only [Dict.find, eq_comm, hname, if_false]
    refine ⟨filed.sort, s', hrun, not_advertised_of_branch (made_sessionOn _) hrun hget hfits ?_⟩
    intro hapart
    have hhead := hget headName
    rw [if_neg (listedName_ne_headName _).symm, if_pos rfl] at hhead
    exact (hapart _ _ hhead rfl).1 rfl

end Packing

end Database

end BlobRemote
