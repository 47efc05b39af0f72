import Mathlib
import BlobRemote.Proofs.Ref.Coherence
import BlobRemote.Proofs.Ref.Content

/-!
# How loose references are merged with packed ones

A scan begins with the packed references and then reads one name after another; reading a name may
read others ahead of their turns, and some of them again later. Still, what is filed at the end
under a name depends on no order: what its blob says, if the name had a turn and there is a blob, and
the packed reference otherwise (`BlobRemote.Database.merges_of_advertised`). Whether a loose reference
counts as packed as well depends on the packed ones alone.

The invariant (`BlobRemote.Scan.Merged`) says that what is filed under a name is either packed or what
the blob of the name says. It is kept because a name that is packed is read in its turn only: a chain
of symbolic references ends where something is filed. For the same reason the names that a scan
reaches beyond its turns are reached by symbolic references that name nothing packed
(`BlobRemote.Scan.Follows`).
-/

namespace BlobRemote

namespace Scan

variable {content : Bytes → Option Ref.Content} {packed refs refs' : Refs} {name : Bytes}
  {found : Option Ref}

/-! ### What is filed -/

/-- **A reference is what the blob of its name says**, and it tells whether the name is packed. -/
inductive FromBlob (content : Bytes → Option Ref.Content) (packed : Refs) (name : Bytes) :
    Ref → Prop where
  /-- The blob holds an object identifier. -/
  | object {objectId : Bytes} (h : content name = some (.object objectId)) :
    FromBlob content packed name
      (.direct name (if packed.get? name = none then .loose else .loosePacked) (some objectId) none)
  /-- The blob names another reference. -/
  | symbolic {target : Ref} (h : content name = some (.symbolic target.name)) :
    FromBlob content packed name (.symbolic name target)

namespace FromBlob

variable {r : Ref}

theorem name_eq (h : FromBlob content packed name r) : r.name = name := by
  cases h <;> rfl

theorem content_ne_none (h : FromBlob content packed name r) : content name ≠ none := by
  cases h with
  | object h => exact h ▸ Option.some_ne_none _
  | symbolic h => exact h ▸ Option.some_ne_none _

/-- What a blob says is not filed as a packed reference would be, unless the name is packed. -/
theorem storage_of_unpacked (h : FromBlob content packed name r) (hp : packed.get? name = none) :
    r.storage = .loose := by
  cases h with
  | object h => exact if_pos hp
  | symbolic h => rfl

end FromBlob

/-- **Packed references are direct** and filed under their names. -/
def ArePacked (packed : Refs) : Prop :=
  ∀ p r, packed.get? p = some r → ∃ objectId peeled, r = .direct p .packed (some objectId) peeled

/-- **What is filed is packed or what a blob says**, and no packed name is lost. -/
structure Merged (content : Bytes → Option Ref.Content) (packed refs : Refs) : Prop where
  /-- Nothing that is packed is missing. -/
  packed_le : ∀ p, refs.get? p = none → packed.get? p = none
  /-- What is filed is packed or what the blob says. -/
  entry : ∀ name r, refs.get? name = some r →
    packed.get? name = some r ∨ FromBlob content packed name r

namespace Merged

theorem refl (content : Bytes → Option Ref.Content) (packed : Refs) :
    Merged content packed packed := ⟨fun _ h => h, fun _ _ h => Or.inl h⟩

theorem name_eq (h : Merged content packed refs) (hpacked : ArePacked packed) {r : Ref}
    (hr : refs.get? name = some r) : r.name = name := by
  rcases h.entry name r hr with hp | hb
  · obtain ⟨objectId, peeled, rfl⟩ := hpacked name r hp
    rfl
  · exact hb.name_eq

theorem get?_eq_none (h : Merged content packed refs) (hp : packed.get? name = none)
    (hc : content name = none) : refs.get? name = none := by
  by_contra hfiled
  obtain ⟨r, hr⟩ := Option.ne_none_iff_exists'.1 hfiled
  rcases h.entry name r hr with hp' | hb
  · rw [hp] at hp'
    cases hp'
  · exact hb.content_ne_none hc

theorem insert (h : Merged content packed refs) {r : Ref} (hr : FromBlob content packed name r) :
    Merged content packed (refs.insert name r) where
  packed_le p hp := by
    rw [Dict.get?_insert] at hp
    split at hp
    · cases hp
    · exact h.packed_le p hp
  entry k e he := by
    rw [Dict.get?_insert] at he
    split at he
    · next hk =>
      cases he
      exact Or.inr (hk ▸ hr)
    · exact h.entry k e he

/-- **A direct reference that is read** is what its blob says, unless it takes the place of a loose
one of a packed name. -/
theorem looseRef (h : Merged content packed refs) (hpacked : ArePacked packed) {objectId : Bytes}
    (hc : content name = some (.object objectId))
    (hfirst : packed.get? name ≠ none → refs.get? name = packed.get? name) :
    FromBlob content packed name (looseRef name objectId (refs.get? name)) := by
  have hstorage : looseStorage (refs.get? name) =
      if packed.get? name = none then .loose else .loosePacked := by
    by_cases hp : packed.get? name = none
    · rw [if_pos hp]
      cases hold : refs.get? name with
      | none => rfl
      | some old =>
        rcases h.entry name old hold with hp' | hb
        · rw [hp] at hp'
          cases hp'
        · rw [looseStorage, Option.any_some, hb.storage_of_unpacked hp]
          rfl
    · obtain ⟨old, hold⟩ := Option.ne_none_iff_exists'.1 hp
      obtain ⟨objectId', peeled, rfl⟩ := hpacked name old hold
      rw [if_neg hp, hfirst hp, hold]
      rfl
  rw [Scan.looseRef, hstorage]
  exact .object hc

end Merged

/-- **Reading a name** files what its blob says, if nothing was read of it before or it is not
packed. -/
theorem Reads.merged (hread : Reads content refs name found refs') (hpacked : ArePacked packed)
    (h : Merged content packed refs)
    (hfirst : packed.get? name ≠ none → refs.get? name = packed.get? name) :
    Merged content packed refs' := by
  induction hread with
  | absent hc => exact h
  | object hc => exact h.insert (h.looseRef hpacked hc hfirst)
  | @filed name target r hc hr =>
    obtain rfl := h.name_eq hpacked hr
    exact h.insert (.symbolic hc)
  | @followed refs' name target found hc hnone hread ih =>
    -- a name that is read on the way is not packed, for nothing is filed under it
    have h' := ih fun hne => absurd (h.packed_le target hnone) hne
    refine h'.insert (.symbolic ?_)
    cases found with
    | none => exact hc
    | some r =>
      obtain rfl := hread.name_found
      exact hc

theorem ReadsAll.merged {names : List Bytes} (hreads : ReadsAll content refs names refs')
    (hnodup : names.Nodup) (hpacked : ArePacked packed) (h : Merged content packed refs)
    (hfirst : ∀ name ∈ names, packed.get? name ≠ none → refs.get? name = packed.get? name) :
    Merged content packed refs' := by
  induction hreads with
  | nil => exact h
  | @cons refs refs₁ refs₂ name rest found hread hrest ih =>
    obtain ⟨hname, hnodup⟩ := List.nodup_cons.1 hnodup
    refine ih hnodup (hread.merged hpacked h (hfirst name List.mem_cons_self)) ?_
    intro n hn hp
    obtain ⟨r, hr⟩ := Option.ne_none_iff_exists'.1 hp
    rw [hr]
    refine hread.get?_of_ne (fun he => hname (he ▸ hn)) ?_
    rw [hfirst n (List.mem_cons_of_mem _ hn) hp, hr]

/-! ### Names without blobs -/

/-- What is filed under a name without a blob stays. -/
theorem Reads.get?_of_absent (hread : Reads content refs name found refs') {q : Bytes} {r : Ref}
    (hq : content q = none) (hr : refs.get? q = some r) : refs'.get? q = some r := by
  by_cases he : q = name
  · subst he
    cases hread with
    | absent hc => exact hr
    | object hc => rw [hq] at hc; cases hc
    | filed hc => rw [hq] at hc; cases hc
    | followed hc => rw [hq] at hc; cases hc
  · exact hread.get?_of_ne he hr

theorem ReadsAll.get?_of_absent {names : List Bytes} (hreads : ReadsAll content refs names refs')
    {q : Bytes} {r : Ref} (hq : content q = none) (hr : refs.get? q = some r) :
    refs'.get? q = some r := by
  induction hreads with
  | nil => exact hr
  | cons hread _ ih => exact ih (hread.get?_of_absent hq hr)

/-! ### Names that are reached -/

/-- **A symbolic reference is followed** to the reference that it names if that is not packed. -/
def Follows (content : Bytes → Option Ref.Content) (packed : Refs) (name target : Bytes) : Prop :=
  content name = some (.symbolic target) ∧ packed.get? target = none

/-- What is filed while a name is read has a blob and is reached from it. -/
theorem Reads.reached (hread : Reads content refs name found refs')
    (hle : ∀ p, refs.get? p = none → packed.get? p = none) {q : Bytes}
    (hq : refs'.get? q ≠ none) :
    refs.get? q ≠ none ∨
      content q ≠ none ∧ Relation.ReflTransGen (Follows content packed) name q := by
  induction hread with
  | absent hc => exact Or.inl hq
  | @object name objectId hc =>
    rw [Dict.get?_insert] at hq
    split at hq
    · next he => exact Or.inr ⟨by rw [← he, hc]; exact Option.some_ne_none _, he ▸ .refl⟩
    · exact Or.inl hq
  | @filed name target r hc hr =>
    rw [Dict.get?_insert] at hq
    split at hq
    · next he => exact Or.inr ⟨by rw [← he, hc]; exact Option.some_ne_none _, he ▸ .refl⟩
    · exact Or.inl hq
  | @followed refs' name target found hc hnone hread ih =>
    rw [Dict.get?_insert] at hq
    split at hq
    · next he => exact Or.inr ⟨by rw [← he, hc]; exact Option.some_ne_none _, he ▸ .refl⟩
    · rcases ih hq with hold | ⟨hblob, hreach⟩
      · exact Or.inl hold
      · exact Or.inr ⟨hblob, .head ⟨hc, hle target hnone⟩ hreach⟩

/-- What was filed under a name is not lost. -/
theorem Reads.get?_ne_none (hread : Reads content refs name found refs') {q : Bytes}
    (hq : refs.get? q ≠ none) : refs'.get? q ≠ none := by
  obtain ⟨r, hr⟩ := Option.ne_none_iff_exists'.1 hq
  by_cases he : q = name
  · subst he
    cases found with
    | none =>
      obtain ⟨-, rfl⟩ := hread.of_none
      exact hq
    | some r' => exact hread.get?_found ▸ Option.some_ne_none _
  · exact hread.get?_of_ne he hr ▸ Option.some_ne_none _

theorem ReadsAll.reached {names : List Bytes} (hreads : ReadsAll content refs names refs')
    (hle : ∀ p, refs.get? p = none → packed.get? p = none) {q : Bytes}
    (hq : refs'.get? q ≠ none) :
    refs.get? q ≠ none ∨
      content q ≠ none ∧
        ∃ turn ∈ names, Relation.ReflTransGen (Follows content packed) turn q := by
  induction hreads with
  | nil => exact Or.inl hq
  | @cons refs refs₁ refs₂ name rest found hread hrest ih =>
    have hle₁ : ∀ p, refs₁.get? p = none → packed.get? p = none := by
      intro p hp
      refine hle p ?_
      by_contra hne
      exact hread.get?_ne_none hne hp
    rcases ih hle₁ hq with hold | ⟨hblob, turn, hturn, hreach⟩
    · rcases hread.reached hle hold with hold | ⟨hblob, hreach⟩
      · exact Or.inl hold
      · exact Or.inr ⟨hblob, name, List.mem_cons_self, hreach⟩
    · exact Or.inr ⟨hblob, turn, List.mem_cons_of_mem _ hturn, hreach⟩

theorem ReadsAll.get?_ne_none {names : List Bytes} (hreads : ReadsAll content refs names refs')
    {q : Bytes} (hq : refs.get? q ≠ none) : refs'.get? q ≠ none := by
  induction hreads with
  | nil => exact hq
  | cons hread _ ih => exact ih (hread.get?_ne_none hq)

/-- **What a symbolic reference names** is filed if it has a blob. -/
theorem Reads.get?_target (hread : Reads content refs name found refs') {target : Bytes}
    (hc : content name = some (.symbolic target)) (hblob : content target ≠ none) :
    refs'.get? target ≠ none := by
  cases hread with
  | absent hc' => rw [hc] at hc'; cases hc'
  | object hc' => rw [hc] at hc'; cases hc'
  | filed hc' hr =>
    rw [hc] at hc'
    cases hc'
    rw [Dict.get?_insert]
    split
    · exact Option.some_ne_none _
    · exact hr ▸ Option.some_ne_none _
  | followed hc' hnone hread =>
    rw [hc] at hc'
    cases hc'
    obtain ⟨r, rfl⟩ := hread.exists_found hblob
    rw [Dict.get?_insert]
    split
    · exact Option.some_ne_none _
    · exact hread.get?_found ▸ Option.some_ne_none _

theorem ReadsAll.get?_target {names : List Bytes} (hreads : ReadsAll content refs names refs')
    (hname : name ∈ names) {target : Bytes} (hc : content name = some (.symbolic target))
    (hblob : content target ≠ none) : refs'.get? target ≠ none := by
  induction hreads with
  | nil => cases hname
  | cons hread hrest ih =>
    rcases List.mem_cons.1 hname with rfl | hname
    · exact hrest.get?_ne_none (hread.get?_target hc hblob)
    · exact ih hname

/-! ### The last turn -/

/-- **A symbolic reference that was read** has what is filed under the name that it names, unless
that is the name that was read. -/
theorem Reads.get?_symbolic (hread : Reads content refs name found refs') {target : Bytes}
    (hc : content name = some (.symbolic target)) (hne : target ≠ name) :
    refs'.get? name = some (.symbolic name ((refs'.get? target).getD (unborn target))) := by
  cases hread with
  | absent hc' => rw [hc] at hc'; cases hc'
  | object hc' => rw [hc] at hc'; cases hc'
  | filed hc' hr =>
    rw [hc] at hc'
    cases hc'
    rw [Dict.get?_insert, Dict.get?_insert, if_pos rfl, if_neg (Ne.symm hne), hr]
    rfl
  | @followed _ _ _ found hc' hnone hread =>
    rw [hc] at hc'
    cases hc'
    rw [Dict.get?_insert, Dict.get?_insert, if_pos rfl, if_neg (Ne.symm hne)]
    cases found with
    | none =>
      obtain ⟨-, rfl⟩ := hread.of_none
      rw [hnone]
      rfl
    | some r =>
      rw [hread.get?_found]
      rfl

/-- Nothing is filed after the last turn, so this holds of the last name at the end. -/
theorem ReadsAll.get?_last {names : List Bytes}
    (hreads : ReadsAll content refs (names ++ [name]) refs') {target : Bytes}
    (hc : content name = some (.symbolic target)) (hne : target ≠ name) :
    refs'.get? name = some (.symbolic name ((refs'.get? target).getD (unborn target))) := by
  induction names generalizing refs with
  | nil =>
    cases hreads with
    | cons hread hrest =>
      cases hrest
      exact hread.get?_symbolic hc hne
  | cons n rest ih =>
    cases hreads with
    | cons _ hrest => exact ih hrest

/-! ### Whole scans -/

/-- **A scan merges** what the blobs say with the packed references that it begins with. -/
theorem ReadsAll.merged_of_packed {names : List Bytes}
    (hreads : ReadsAll content packed names refs) (hnodup : names.Nodup)
    (hpacked : ArePacked packed) : Merged content packed refs :=
  hreads.merged hnodup hpacked (.refl content packed) fun _ _ _ => rfl

/-- **A name with a turn and a blob** is filed as its blob says. -/
theorem ReadsAll.fromBlob {names : List Bytes} (hreads : ReadsAll content packed names refs)
    (hnodup : names.Nodup) (hpacked : ArePacked packed) (hname : name ∈ names)
    (hblob : content name ≠ none) :
    ∃ r, refs.get? name = some r ∧ FromBlob content packed name r := by
  obtain ⟨r, hr, hstorage⟩ := hreads.storage_of_mem hnodup hname hblob
  refine ⟨r, hr, ?_⟩
  rcases (hreads.merged_of_packed hnodup hpacked).entry name r hr with hp | hb
  · obtain ⟨objectId, peeled, rfl⟩ := hpacked name r hp
    exact absurd rfl hstorage
  · exact hb

/-- **A packed reference stays** if its name has no turn or no blob. -/
theorem ReadsAll.get?_of_packed {names : List Bytes} (hreads : ReadsAll content packed names refs)
    {r : Ref} (hr : packed.get? name = some r) (hblob : name ∈ names → content name = none) :
    refs.get? name = some r := by
  by_cases hname : name ∈ names
  · exact hreads.get?_of_absent (hblob hname) hr
  · exact hreads.get?_of_notMem hname hr

end Scan

namespace Scan

/-! ### What a repository holds -/

variable {d : Database} {s : Session Memory} {name : Bytes}

theorem arePacked_packedRefs (d : Database) (s : Session Memory) : ArePacked (packedRefs d s) :=
  fun _ _ h => get?_packedRefs h

/-- The last entry of a name in the file of packed references. -/
def lastEntryOf? (d : Database) (s : Session Memory) (name : Bytes) : Option Packed.Entry :=
  (packedEntries d s).reverse.find? fun e => e.name = name

/-- **Of several entries of a name the last one counts.** -/
theorem get?_filePacked (refs : Refs) (entries : List Packed.Entry) (name : Bytes) :
    (filePacked refs entries).get? name =
      ((entries.reverse.find? fun e => e.name = name).map packedRef).or (refs.get? name) := by
  induction entries generalizing refs with
  | nil => rfl
  | cons e rest ih =>
    have hstep : filePacked refs (e :: rest) = filePacked (refs.insert e.name (packedRef e)) rest :=
      rfl
    rw [hstep, ih, Dict.get?_insert, List.reverse_cons, List.find?_append, Option.map_or,
      Option.or_assoc, List.find?_singleton]
    by_cases he : e.name = name
    · rw [if_pos he, if_pos (decide_eq_true he)]
      rfl
    · rw [if_neg he, if_neg (by rwa [decide_eq_true_iff])]
      rfl

theorem packedRefs_get? (d : Database) (s : Session Memory) (name : Bytes) :
    (packedRefs d s).get? name = (lastEntryOf? d s name).map packedRef := by
  rw [packedRefs, get?_filePacked, Dict.get?_empty, Option.or_none]
  rfl

/-- Where a loose reference is, by the entries of its name in the file of packed references. -/
theorem storage_of_lastEntryOf? (d : Database) (s : Session Memory) (name : Bytes) :
    (if (packedRefs d s).get? name = none then Storage.loose else .loosePacked) =
      if (lastEntryOf? d s name).isSome then .loosePacked else .loose := by
  have hget := packedRefs_get? d s name
  cases he : lastEntryOf? d s name with
  | none =>
    rw [he, Option.map_none] at hget
    rw [if_pos hget]
    rfl
  | some e =>
    rw [he, Option.map_some] at hget
    rw [if_neg (by rw [hget]; exact Option.some_ne_none _)]
    rfl

theorem name_of_lastEntryOf? {e : Packed.Entry} (h : lastEntryOf? d s name = some e) :
    e.name = name := by
  rw [lastEntryOf?] at h
  have he := List.find?_some h
  exact of_decide_eq_true he

/-- **References are the packed ones merged with the loose ones** of a repository. -/
structure Merges (d : Database) (s : Session Memory) (refs : Refs) : Prop where
  /-- The names are in strictly ascending order. -/
  ascending : refs.keys.Pairwise (· < ·)
  /-- Every reference is filed under its name. -/
  name_eq : ∀ name r, refs.get? name = some r → r.name = name
  /-- A loose reference to an object has the identifier in its blob, and tells whether it hides a
  packed one. -/
  object : ∀ name ∈ turns d s, ∀ data, seen d s name = .ok (some data) →
    Ref.isObjectId (Ref.firstLine data) = true →
      refs.get? name = some (.direct name
        (if (lastEntryOf? d s name).isSome then .loosePacked else .loose)
        (some (Ref.firstLine data)) none)
  /-- A loose reference to another one has a reference of that name. -/
  symbolic : ∀ name ∈ turns d s, ∀ data target, seen d s name = .ok (some data) →
    Ref.firstLine data = Ref.symbolicMark ++ target →
      ∃ r, refs.get? name = some (.symbolic name r) ∧ r.name = target
  /-- A packed reference that no loose one hides is as its last entry says. -/
  packed : ∀ name e, lastEntryOf? d s name = some e →
    (name ∈ turns d s → seen d s name = .ok none) →
      refs.get? name = some (.direct name .packed (some e.objectId) e.peeled)
  /-- All others have blobs, to which symbolic references lead. -/
  other : ∀ name, refs.get? name ≠ none → lastEntryOf? d s name = none →
    (∃ data, seen d s name = .ok (some data)) ∧
      ∃ turn ∈ turns d s,
        Relation.ReflTransGen (Follows (content d s) (packedRefs d s)) turn name

end Scan

namespace Database

open Scan

/-- **What a repository advertises** is its packed references merged with its loose ones. -/
theorem merges_of_advertised {d : Database} {s s' : Session Memory} {refs : Refs}
    (h : d.advertised s = .ok refs s') : Merges d s refs := by
  obtain ⟨filed, hreads, rfl⟩ := readsAll_of_advertised h
  have hnodup := nodup_turns d s
  have hpacked := arePacked_packedRefs d s
  have hmerged := hreads.merged_of_packed hnodup hpacked
  -- what is said of `filed` is said of what is advertised, which has the same entries
  have hblob : ∀ name ∈ turns d s, ∀ data, seen d s name = .ok (some data) →
      ∃ r, filed.sort.get? name = some r ∧
        FromBlob (content d s) (packedRefs d s) name r := by
    intro name hname data hseen
    rw [Dict.get?_sort]
    refine hreads.fromBlob hnodup hpacked hname ?_
    rw [content_of_seen hseen]
    exact Option.some_ne_none _
  constructor
  case ascending => exact filed.pairwise_keys_sort
  case name_eq =>
    intro name r hr
    rw [Dict.get?_sort] at hr
    exact hmerged.name_eq hpacked hr
  case object =>
    intro name hname data hseen hid
    obtain ⟨r, hr, hfrom⟩ := hblob name hname data hseen
    have hcontent : Ref.contentOf data = .object (Ref.firstLine data) :=
      Ref.contentOf_eq_object_iff.2 ⟨rfl, hid⟩
    rw [hr]
    cases hfrom with
    | object hc =>
      rw [content_of_seen hseen, hcontent] at hc
      cases hc
      rw [storage_of_lastEntryOf?]
    | symbolic hc =>
      rw [content_of_seen hseen, hcontent] at hc
      cases hc
  case symbolic =>
    intro name hname data target hseen hline
    obtain ⟨r, hr, hfrom⟩ := hblob name hname data hseen
    cases hfrom with
    | object hc =>
      rw [content_of_seen hseen, Option.some.injEq, Ref.contentOf_eq_object_iff, hline] at hc
      obtain ⟨rfl, hid⟩ := hc
      rw [Ref.isObjectId_symbolicMark_append] at hid
      cases hid
    | @symbolic r hc =>
      rw [content_of_seen hseen, Option.some.injEq, Ref.contentOf_eq_symbolic_iff, hline,
        List.append_cancel_left_eq] at hc
      exact ⟨r, hr, hc.1.symm⟩
  case packed =>
    intro name e he hturn
    have hr : (packedRefs d s).get? name =
        some (.direct name .packed (some e.objectId) e.peeled) := by
      rw [packedRefs_get?, he, ← name_of_lastEntryOf? he]
      rfl
    rw [Dict.get?_sort]
    exact hreads.get?_of_packed hr fun hname => content_of_seen_none (hturn hname)
  case other =>
    intro name hr hunpacked
    rw [Dict.get?_sort] at hr
    have hnone : (packedRefs d s).get? name = none := by rw [packedRefs_get?, hunpacked]; rfl
    rcases hreads.reached (fun _ hp => hp) hr with hp | ⟨hblob, hreach⟩
    · exact absurd hnone hp
    · exact ⟨exists_seen hblob, hreach⟩

/-- A loose reference hides a packed one in a repository whose current branch it is. -/
theorem merges_of_advertised_of_shadowing :
    ∃ refs s', (Database.mk "p/objects").advertised (sessionOn shadowing) = .ok refs s' ∧
      Merges ⟨"p/objects"⟩ (sessionOn shadowing) refs := by
  have hlist : (sessionOn shadowing).store.list "b" "p/refs" = ["heads/b"] := by decide +kernel
  obtain ⟨filed, s', hrun, -⟩ := advertised_sessionOn shadowing ["heads/b"] (fun _ => true) hlist
    (by decide +kernel) (by decide +kernel)
  exact ⟨filed.sort, s', hrun, merges_of_advertised hrun⟩

end Database

end BlobRemote
