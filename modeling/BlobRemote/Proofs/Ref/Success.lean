import Mathlib
import BlobRemote.Proofs.Ref.Ending

/-!
# When a scan of references succeeds

A scan reads one name after another, and in each turn it stops at what was filed in earlier ones.
That makes no difference to whether it succeeds: what was filed in earlier turns has chains that end
(`BlobRemote.Scan.Grown`). So a whole scan succeeds exactly if the file of packed references can be
read, the references can be listed, and the chain of every name that has a turn ends, where nothing
but the packed references counts as filed (`BlobRemote.Database.advertised_ok_iff`).
-/

namespace BlobRemote

namespace Scan

variable {d : Database} {s : Session Memory} {packed refs refs' : Refs} {name : Bytes}
  {found : Option Ref}

/-! ### What earlier turns have filed -/

/-- **References have grown out of packed ones**: none of them is lost, and from all others chains
end. -/
structure Grown (d : Database) (s : Session Memory) (packed refs : Refs) : Prop where
  /-- Nothing that is packed is missing. -/
  packed_le : ∀ p, refs.get? p = none → packed.get? p = none
  /-- The chain of everything else ends. -/
  ends : ∀ p, refs.get? p ≠ none → packed.get? p ≠ none ∨ Ends d s packed p

theorem Grown.refl (d : Database) (s : Session Memory) (packed : Refs) : Grown d s packed packed :=
  ⟨fun _ h => h, fun _ h => Or.inl h⟩

theorem Grown.insert (hg : Grown d s packed refs) (h : Ends d s packed name) (r : Ref) :
    Grown d s packed (refs.insert name r) where
  packed_le p hp := by
    rw [Dict.get?_insert] at hp
    split at hp
    · cases hp
    · exact hg.packed_le p hp
  ends p hp := by
    rw [Dict.get?_insert] at hp
    split at hp
    · next he => exact Or.inr (he ▸ h)
    · exact hg.ends p hp

/-- **What earlier turns have filed** makes no difference to where chains end. -/
theorem Grown.ends_iff (hg : Grown d s packed refs) (name : Bytes) :
    Ends d s refs name ↔ Ends d s packed name := by
  constructor
  · intro h
    induction h with
    | absent h => exact .absent h
    | object h => exact .object h
    | @filed name target h hr =>
      rcases hg.ends target hr with hp | hend
      · exact .filed h hp
      · by_cases hp : packed.get? target = none
        · exact .step h hp hend
        · exact .filed h hp
    | step h hnone _ ih => exact .step h (hg.packed_le _ hnone) ih
  · intro h
    induction h with
    | absent h => exact .absent h
    | object h => exact .object h
    | @filed name target h hp => exact .filed h fun hnone => hp (hg.packed_le target hnone)
    | @step name target h _ _ ih =>
      by_cases hr : refs.get? target = none
      · exact .step h hr ih
      · exact .filed h hr

/-- What a turn files has chains that end. -/
theorem Reads.grown (hread : Reads (content d s) refs name found refs')
    (hg : Grown d s packed refs) (h : Ends d s packed name) : Grown d s packed refs' := by
  induction hread with
  | absent hc => exact hg
  | object hc => exact hg.insert h _
  | filed hc hr => exact hg.insert h _
  | @followed refs' name target found hc hnone hread ih =>
    -- the chain from the name goes on at its target, which is not packed
    have htarget : Ends d s packed target := h.target hc (hg.packed_le target hnone)
    exact (ih htarget).insert h _

/-! ### Turns -/

variable {t t' : Scan Memory}

/-- **A turn succeeds** exactly if the chain of its name ends, and what is filed afterwards has
chains that end. -/
theorem read_turn (name : Bytes) (hs : t.toSession.around World.store = s.around World.store)
    (hg : Grown d s packed t.refs) :
    ((∃ found t', read d name t = .ok found t') ↔ Ends d s packed name) ∧
      ∀ found t', read d name t = .ok found t' →
        t'.toSession.around World.store = s.around World.store ∧ Grown d s packed t'.refs := by
  have hiff := (read_ok_iff hs).trans (hg.ends_iff name)
  refine ⟨hiff, fun found t' hread => ?_⟩
  obtain ⟨hreads, hs'⟩ := reads_of_read hs hread
  exact ⟨hs', hreads.grown hg (hiff.1 ⟨found, t', hread⟩)⟩

/-- **Turns succeed one after another** exactly if the chain of each name ends. -/
theorem each_read (hs : t.toSession.around World.store = s.around World.store)
    (hg : Grown d s packed t.refs) (names : List String) :
    ((∃ done t', Act.each (fun n => read d (listedName n)) names t = .ok done t') ↔
        ∀ n ∈ names, Ends d s packed (listedName n)) ∧
      ∀ done t', Act.each (fun n => read d (listedName n)) names t = .ok done t' →
        t'.toSession.around World.store = s.around World.store ∧ Grown d s packed t'.refs := by
  induction names generalizing t with
  | nil =>
    refine ⟨iff_of_true ⟨[], t, rfl⟩ (by rintro n ⟨⟩), ?_⟩
    intro done t' h
    cases h
    exact ⟨hs, hg⟩
  | cons n rest ih =>
    obtain ⟨hfirst, hkept⟩ := read_turn (listedName n) hs hg
    refine ⟨⟨?_, ?_⟩, ?_⟩
    · rintro ⟨done, t', h⟩ m hm
      obtain ⟨found, t₁, hread, h⟩ := Act.bind_eq_ok h
      obtain ⟨done', t₂, hrest, -⟩ := Act.bind_eq_ok h
      obtain ⟨hs₁, hg₁⟩ := hkept found t₁ hread
      rcases List.mem_cons.1 hm with rfl | hm
      · exact hfirst.1 ⟨found, t₁, hread⟩
      · exact (ih hs₁ hg₁).1.1 ⟨done', t₂, hrest⟩ m hm
    · intro h
      obtain ⟨found, t₁, hread⟩ := hfirst.2 (h n List.mem_cons_self)
      obtain ⟨hs₁, hg₁⟩ := hkept found t₁ hread
      obtain ⟨done, t', hrest⟩ :=
        (ih hs₁ hg₁).1.2 fun m hm => h m (List.mem_cons_of_mem _ hm)
      refine ⟨found :: done, t', ?_⟩
      rw [Act.each, Act.bind_apply_of_ok hread, Act.bind_apply_of_ok hrest]
      rfl
    · intro done t' h
      obtain ⟨found, t₁, hread, h⟩ := Act.bind_eq_ok h
      obtain ⟨done', t₂, hrest, h⟩ := Act.bind_eq_ok h
      cases h
      obtain ⟨hs₁, hg₁⟩ := hkept found t₁ hread
      exact (ih hs₁ hg₁).2 done' t' hrest

/-! ### Packed references -/

/-- The name under which the file of packed references would be read as a loose one. -/
def packedName : Bytes := Utf8.encodeText "packed-refs"

theorem keyOf_packedName {key : String} :
    keyOf d packedName = some key ↔ Key.resolve d.objectsKey Database.packedRefsPath = .ok key := by
  have hpath : Database.refPath "packed-refs" = Database.packedRefsPath := by decide +kernel
  rw [keyOf, packedName, Utf8.decodeText_encodeText]
  dsimp only
  rw [hpath]
  cases Key.resolve d.objectsKey Database.packedRefsPath with
  | error climb => exact iff_of_false (fun h => by cases h) fun h => by cases h
  | ok k =>
    rw [Except.ok.injEq]
    exact Option.some.injEq k key ▸ Iff.rfl

/-- **The file of packed references can be read**: its path does not climb too high, and if there is
such a file it is not faulty. -/
def PackedReads (d : Database) (s : Session Memory) : Prop :=
  ∃ key, keyOf d packedName = some key ∧
    ∀ data, s.shown key = some data → (Packed.read data).fault = none

/-- The entries of the file of packed references, if it is there. -/
theorem packedEntries_eq {key : String} (hkey : keyOf d packedName = some key) :
    packedEntries d s = ((s.shown key).map fun data => (Packed.read data).entries).getD [] := by
  rw [packedEntries, keyOf_packedName.1 hkey, Session.shown]
  dsimp only
  cases s.store.find? s.remote.bucket key (s.manifest.version? key) <;> rfl

/-- The packed references depend on their file alone. -/
theorem packedRefs_congr {s' : Session Memory} (h : PackedReads d s)
    (hshown : ∀ key, keyOf d packedName = some key → s'.shown key = s.shown key) :
    PackedReads d s' ∧ packedRefs d s' = packedRefs d s := by
  obtain ⟨key, hkey, hreads⟩ := h
  refine ⟨⟨key, hkey, hshown key hkey ▸ hreads⟩, ?_⟩
  rw [packedRefs, packedRefs, packedEntries_eq hkey, packedEntries_eq hkey, hshown key hkey]

/-- **The packed references are read** exactly if their file can be. -/
theorem readPacked_ok_iff (hs : t.toSession = s) :
    (∃ t', readPacked d t = .ok () t') ↔ PackedReads d s := by
  subst hs
  rw [readPacked, Act.bind_apply_of_ok (Act.get_apply t), Act.bind_apply, Act.attempt_apply,
    onSession_apply, Database.open_apply]
  cases hkey : Key.resolve d.objectsKey Database.packedRefsPath with
  | error climb =>
    refine iff_of_false ?_ ?_
    · rintro ⟨t', h⟩
      cases h
    · rintro ⟨key, h, -⟩
      rw [keyOf_packedName, hkey] at h
      cases h
  | ok key =>
    have hname := keyOf_packedName.2 hkey
    dsimp only
    rw [Memory.get_apply]
    cases hfind : t.store.find? t.remote.bucket key (t.manifest.version? key) with
    | none =>
      have hshown : t.toSession.shown key = none := by rw [Session.shown, hfind]; rfl
      refine iff_of_true ⟨_, rfl⟩ ⟨key, hname, fun data h => ?_⟩
      rw [hshown] at h
      cases h
    | some r =>
      have hshown : t.toSession.shown key = some r.data := by rw [Session.shown, hfind]; rfl
      obtain ⟨done, hdone⟩ := each_file_apply (Packed.read r.data).entries t
      dsimp only [Stream.content]
      show (∃ t', (Act.each _ _ >>= _) t = _) ↔ _
      rw [Act.bind_apply_of_ok hdone]
      cases hfault : (Packed.read r.data).fault with
      | none =>
        refine iff_of_true ⟨_, rfl⟩ ⟨key, hname, fun data h => ?_⟩
        rw [hshown, Option.some.injEq] at h
        rw [← h, hfault]
      | some fault =>
        refine iff_of_false ?_ ?_
        · rintro ⟨t', h⟩
          cases h
        · rintro ⟨key', h, hreads⟩
          rw [hname, Option.some.injEq] at h
          rw [hreads r.data (h ▸ hshown)] at hfault
          cases hfault

/-! ### Whole scans -/

/-- **The listed references are read** exactly if they can be listed and the chain of each name
ends. -/
theorem readLoose_turns (hs : t.toSession.around World.store = s.around World.store)
    (hg : Grown d s packed t.refs) :
    ((∃ t', readLoose d t = .ok () t') ↔
        (∃ key, Key.resolve d.objectsKey refsPath = .ok key) ∧
          ∀ name ∈ listedNames d s, Ends d s packed name) ∧
      ∀ t', readLoose d t = .ok () t' →
        t'.toSession.around World.store = s.around World.store ∧ Grown d s packed t'.refs := by
  rw [readLoose_apply hs, listedNames]
  cases hkey : Key.resolve d.objectsKey refsPath with
  | error climb =>
    refine ⟨iff_of_false ?_ ?_, ?_⟩
    · rintro ⟨t', h⟩
      cases h
    · rintro ⟨⟨key, h⟩, -⟩
      cases h
    · rintro t' ⟨⟩
  | ok key =>
    dsimp only
    obtain ⟨hiff, hkept⟩ := each_read hs hg (Names.sorted (s.store.list s.remote.bucket key))
    rw [List.forall_mem_map, ← hiff]
    refine ⟨⟨?_, ?_⟩, ?_⟩
    · rintro ⟨t', h⟩
      obtain ⟨done, t₁, heach, -⟩ := Act.bind_eq_ok h
      exact ⟨⟨key, rfl⟩, done, t₁, heach⟩
    · rintro ⟨-, done, t', heach⟩
      rw [Act.bind_apply_of_ok heach]
      exact ⟨t', rfl⟩
    · intro t' h
      obtain ⟨done, t₁, heach, h⟩ := Act.bind_eq_ok h
      cases h
      exact hkept done t' heach

/-- **What a scan needs** to succeed. -/
structure Scannable (d : Database) (s : Session Memory) : Prop where
  /-- The file of packed references can be read. -/
  packed : PackedReads d s
  /-- The references can be listed. -/
  listed : ∃ key, Key.resolve d.objectsKey refsPath = .ok key
  /-- The chain of every name that has a turn ends. -/
  ends : ∀ name ∈ turns d s, Ends d s (packedRefs d s) name

/-- **A scan succeeds** exactly if it has what it needs. -/
theorem readAll_ok_iff : (∃ t, readAll d ⟨s, Dict.empty⟩ = .ok () t) ↔ Scannable d s := by
  have hfiled : ∀ t₁, readPacked d ⟨s, Dict.empty⟩ = .ok () t₁ →
      t₁.toSession.around World.store = s.around World.store ∧
        Grown d s (packedRefs d s) t₁.refs := by
    intro t₁ h
    have hrefs : t₁.refs = packedRefs d s := refs_of_readPacked rfl h
    exact ⟨(leaves_readPacked readsLeave_memory d).of_ok h, hrefs ▸ Grown.refl _ _ _⟩
  constructor
  · rintro ⟨t, h⟩
    obtain ⟨⟨⟩, t₁, hpacked, h⟩ := Act.bind_eq_ok h
    obtain ⟨⟨⟩, t₂, hloose, h⟩ := Act.bind_eq_ok h
    obtain ⟨found, t₃, hhead, -⟩ := Act.bind_eq_ok h
    obtain ⟨hs₁, hg₁⟩ := hfiled t₁ hpacked
    obtain ⟨hlisted, hkept⟩ := readLoose_turns hs₁ hg₁
    obtain ⟨hkey, hends⟩ := hlisted.1 ⟨t₂, hloose⟩
    obtain ⟨hs₂, hg₂⟩ := hkept t₂ hloose
    refine ⟨(readPacked_ok_iff rfl).1 ⟨t₁, hpacked⟩, hkey, fun name hname => ?_⟩
    rcases List.mem_append.1 hname with hname | hname
    · exact hends name hname
    · rw [List.mem_singleton.1 hname]
      exact (read_turn headName hs₂ hg₂).1.1 ⟨found, t₃, hhead⟩
  · intro h
    obtain ⟨t₁, hpacked⟩ :=
      (readPacked_ok_iff (t := ⟨s, Dict.empty⟩) rfl).2 h.packed
    obtain ⟨hs₁, hg₁⟩ := hfiled t₁ hpacked
    obtain ⟨hlisted, hkept⟩ := readLoose_turns hs₁ hg₁
    obtain ⟨t₂, hloose⟩ := hlisted.2
      ⟨h.listed, fun name hname => h.ends name (List.mem_append_left _ hname)⟩
    obtain ⟨hs₂, hg₂⟩ := hkept t₂ hloose
    have hlast : headName ∈ turns d s := List.mem_append_right _ (List.mem_singleton_self _)
    obtain ⟨found, t₃, hhead⟩ := (read_turn headName hs₂ hg₂).1.2 (h.ends headName hlast)
    refine ⟨t₃, ?_⟩
    rw [readAll, Act.bind_apply_of_ok hpacked, Act.bind_apply_of_ok hloose,
      Act.bind_apply_of_ok hhead]
    rfl

end Scan

namespace Database

open Scan

variable {d : Database} {s : Session Memory}

/-- **When references are advertised**: exactly if the file of packed references can be read, the
others can be listed, and all their chains end. -/
theorem advertised_ok_iff : (∃ refs s', d.advertised s = .ok refs s') ↔ Scannable d s := by
  rw [← readAll_ok_iff, advertised]
  cases readAll d ⟨s, Dict.empty⟩ with
  | ok a t => exact iff_of_true ⟨_, _, rfl⟩ ⟨t, rfl⟩
  | error f t =>
    refine iff_of_false ?_ ?_
    · rintro ⟨refs, s', h⟩
      cases h
    · rintro ⟨t', h⟩
      cases h

/-- A scan leaves the store, the manifest and the repository as they are. -/
theorem around_of_advertised {refs : Refs} {s' : Session Memory}
    (h : d.advertised s = .ok refs s') : s'.around World.store = s.around World.store :=
  (leaves_advertised readsLeave_memory d).of_ok h

end Database

end BlobRemote
