import Mathlib
import BlobRemote.Proofs.Ref.Scanning

/-!
# What reading a reference files

Reading a reference follows symbolic ones, and may break off at any depth, after several blobs have
been read. Nothing has been filed by then: a reference is filed only once the one that it names is
known, so all filing is done on the way back. Reading is therefore atomic on the references that are
filed (`BlobRemote.Scan.read_atomic`), on a store of any kind, whatever it answers and however it
fails, and even if it answers differently each time.

What is filed when nothing breaks off is said by the names that are met
(`BlobRemote.Scan.Met`): the one that is read and those that lead on from it, as far as the store
finds their blobs. The induction is on the number of names that may still be met, and carries that
these names and no others have a new entry (`BlobRemote.Scan.Filed`).
-/

namespace BlobRemote

namespace Scan

variable {σ : Type} [Store σ] {d : Database} {t t₁ : Scan σ} {name data target q : Bytes}
  {refs : Refs} {r : Ref}

omit [Store σ] in
/-- An operation on the session files nothing. -/
theorem leaves_refs_onSession {α : Type} (x : Act (Session σ) α) :
    Act.Leaves Scan.refs (onSession x) := by
  intro t
  rw [onSession_apply]
  cases x t.toSession <;> rfl

/-- **Reading a blob** files nothing. -/
theorem leaves_refs_blob (d : Database) (name : Bytes) :
    Act.Leaves (Scan.refs (σ := σ)) (blob d name) :=
  leaves_blob_of_read (fun _ => leaves_refs_onSession _) name

/-! ### The names that are met -/

/-- **The names that are met** when a name is read, each with a blob that the store finds: the name
itself, and those that are met when a symbolic reference is followed, because nothing is filed under
the name that it gives. -/
inductive Met (d : Database) : Scan σ → Bytes → Bytes → Prop where
  /-- The name that is read. -/
  | here {t t₁ : Scan σ} {name data : Bytes} (h : blob d name t = .ok (some data) t₁) :
    Met d t name name
  /-- A name that is met when the symbolic reference is followed. -/
  | next {t t₁ : Scan σ} {name data target q : Bytes} (h : blob d name t = .ok (some data) t₁)
    (hdata : Ref.contentOf data = .symbolic target) (hnone : t.refs.get? target = none)
    (hmet : Met d t₁ target q) : Met d t name q

/-- **Another name that is met** is one that nothing was filed under. -/
theorem Met.get?_eq_none (h : Met d t name q) (hq : q ≠ name) : t.refs.get? q = none := by
  induction h with
  | here h => exact absurd rfl hq
  | @next t t₁ name data target q h hdata hnone hmet ih =>
    rcases eq_or_ne q target with rfl | hne
    · exact hnone
    · rw [← ih hne, (leaves_refs_blob d name).of_ok h]

/-- Where there is no blob, no name is met. -/
theorem not_met (h : blob d name t = .ok none t₁) (q : Bytes) : ¬ Met d t name q := by
  rintro (h' | ⟨h', -, -, -⟩) <;> cases h.symm.trans h'

/-! ### What is filed under them -/

/-- **Every name that is met has a reference of its own**, and under all other names is what was
there before. -/
structure Filed (d : Database) (t : Scan σ) (name : Bytes) (refs : Refs) : Prop where
  /-- What is filed under a name that is met has that name. -/
  met : ∀ q, Met d t name q → ∃ r, refs.get? q = some r ∧ r.name = q
  /-- Under other names nothing has changed. -/
  unmet : ∀ q, ¬ Met d t name q → refs.get? q = t.refs.get? q

/-- A name without a blob files nothing. -/
theorem filed_of_absent (h : blob d name t = .ok none t₁) : Filed d t name t.refs :=
  ⟨fun q hq => absurd hq (not_met h q), fun _ _ => rfl⟩

/-- **A reference is filed** on top of what was filed for the names that were met after its own. -/
theorem Filed.insert (h : blob d name t = .ok (some data) t₁) (hname : r.name = name)
    (hmet : ∀ q, Met d t name q → q ≠ name → ∃ e, refs.get? q = some e ∧ e.name = q)
    (hunmet : ∀ q, ¬ Met d t name q → refs.get? q = t.refs.get? q) :
    Filed d t name (refs.insert name r) where
  met q hq := by
    rw [Dict.get?_insert]
    split
    · next he => exact ⟨r, rfl, hname.trans he⟩
    · next hne => exact hmet q hq (Ne.symm hne)
  unmet q hq := by
    have hne : name ≠ q := fun he => hq (he ▸ .here h)
    rw [Dict.get?_insert, if_neg hne, hunmet q hq]

/-- A reference that leads nowhere, because it is direct or what it names is filed. -/
theorem filed_here (h : blob d name t = .ok (some data) t₁) (hname : r.name = name)
    (hend : ∀ target, Ref.contentOf data = .symbolic target → t.refs.get? target ≠ none) :
    Filed d t name (t₁.refs.insert name r) := by
  rw [(leaves_refs_blob d name).of_ok h]
  refine Filed.insert h hname ?_ fun _ _ => rfl
  rintro q (_ | ⟨h', hdata, hnone, -⟩) hq
  · exact absurd rfl hq
  · cases h.symm.trans h'
    exact absurd hnone (hend _ hdata)

/-- A symbolic reference that was followed. -/
theorem filed_next (h : blob d name t = .ok (some data) t₁)
    (hdata : Ref.contentOf data = .symbolic target) (hnone : t₁.refs.get? target = none)
    (hname : r.name = name) (hfiled : Filed d t₁ target refs) :
    Filed d t name (refs.insert name r) := by
  have hrefs : t₁.refs = t.refs := (leaves_refs_blob d name).of_ok h
  refine Filed.insert h hname ?_ fun q hq => ?_
  · rintro q (_ | ⟨h', hdata', -, hmet⟩) hq
    · exact absurd rfl hq
    · cases h.symm.trans h'
      cases hdata.symm.trans hdata'
      exact hfiled.met q hmet
  · rw [hfiled.unmet q fun hmet => hq (.next h hdata (hrefs ▸ hnone) hmet), hrefs]

/-! ### Reading -/

/-- **What reading leaves**: as much as before if it fails or finds nothing, and otherwise a reference
for each name that is met, the one that is found under the name that was read. -/
def Settles (d : Database) (t : Scan σ) (name : Bytes) :
    EStateM.Result Failure (Scan σ) (Option Ref) → Prop
  | .error _ t' => t'.refs = t.refs
  | .ok none t' => t'.refs = t.refs ∧ Filed d t name t'.refs
  | .ok (some r) t' => r.name = name ∧ t'.refs.get? name = some r ∧ Filed d t name t'.refs

theorem settles_fileSymbolic (found : Option Ref)
    (h : Filed d t name (t₁.refs.insert name (symbolicTo name target found))) :
    Settles d t name (fileSymbolic name target found t₁) := by
  obtain ⟨s, hfile⟩ := fileSymbolic_apply name target found t₁
  rw [hfile]
  exact ⟨rfl, by rw [Dict.get?_insert, if_pos rfl], h⟩

theorem settles_readWithin (fuel : Nat) (resolving : List Bytes) (name : Bytes) (t : Scan σ) :
    Settles d t name (readWithin d fuel resolving name t) := by
  induction fuel generalizing resolving name t with
  | zero => exact rfl
  | succ fuel ih =>
    rw [readWithin_succ_apply]
    by_cases hname : name ∈ resolving
    · rw [if_pos hname]
      exact rfl
    · rw [if_neg hname]
      rcases hblob : blob d name t with ⟨_ | data, t₁⟩ | ⟨f, t₁⟩
      · have hrefs : t₁.refs = t.refs := (leaves_refs_blob d name).of_ok hblob
        exact ⟨hrefs, hrefs ▸ filed_of_absent hblob⟩
      · have hrefs : t₁.refs = t.refs := (leaves_refs_blob d name).of_ok hblob
        dsimp only
        cases hdata : Ref.contentOf data with
        | malformed line => exact hrefs
        | object objectId =>
          refine ⟨rfl, (Dict.get?_insert ..).trans (if_pos rfl), ?_⟩
          exact filed_here hblob rfl fun target h => by cases hdata.symm.trans h
        | symbolic target =>
          dsimp only
          rcases hr : t₁.refs.get? target with _ | r
          · -- nothing was filed in the deeper reading unless it succeeded
            have hdeep := ih (resolving ++ [name]) target t₁
            dsimp only
            rcases hrun : readWithin d fuel (resolving ++ [name]) target t₁ with
              ⟨_ | r, t₂⟩ | ⟨f, t₂⟩ <;> rw [hrun] at hdeep
            · exact settles_fileSymbolic none (filed_next hblob hdata hr rfl hdeep.2)
            · exact settles_fileSymbolic (some r) (filed_next hblob hdata hr rfl hdeep.2.2)
            · exact Eq.trans hdeep hrefs
          · refine settles_fileSymbolic (some r) (filed_here hblob rfl fun target' h => ?_)
            cases hdata.symm.trans h
            rw [← hrefs, hr]
            exact Option.some_ne_none r
      · exact (leaves_refs_blob d name).of_error hblob

/-- **Reading a reference is atomic** on the references that are filed, on every store, whatever it
answers. If it fails, or finds none, they are what they were. If it finds one, that one is filed under
the name that was read; of the other names those that were met, under which nothing was filed before,
now have a reference each, filed under its own name; and nothing else has changed. -/
theorem read_atomic (d : Database) (name : Bytes) (t : Scan σ) :
    match read d name t with
    | .error _ t' => t'.refs = t.refs
    | .ok none t' => t'.refs = t.refs
    | .ok (some r) t' =>
      t'.refs.get? name = some r ∧ r.name = name ∧
        ∀ q, q ≠ name →
          (Met d t name q →
            t.refs.get? q = none ∧ ∃ r', t'.refs.get? q = some r' ∧ r'.name = q) ∧
          (¬ Met d t name q → t'.refs.get? q = t.refs.get? q) := by
  have hsettles : Settles d t name (read d name t) := by
    rw [read, Act.bind_apply_of_ok (Act.get_apply t)]
    exact settles_readWithin _ _ _ _
  rcases hread : read d name t with ⟨_ | r, t'⟩ | ⟨f, t'⟩ <;> rw [hread] at hsettles
  · exact hsettles.1
  · obtain ⟨hname, hfound, hfiled⟩ := hsettles
    exact ⟨hfound, hname, fun q hq =>
      ⟨fun hmet => ⟨hmet.get?_eq_none hq, hfiled.met q hmet⟩, hfiled.unmet q⟩⟩
  · exact hsettles

end Scan

end BlobRemote
