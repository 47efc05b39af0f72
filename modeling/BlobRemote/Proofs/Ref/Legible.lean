import Mathlib
import BlobRemote.Proofs.Number.Hex
import BlobRemote.Proofs.Ref.Content
import BlobRemote.Proofs.Ref.Packed
import BlobRemote.Proofs.Ref.Scanning
import BlobRemote.Proofs.Text.Exact

/-!
# Which names of references are text

Names are bytes, and not all bytes are text. A loose reference has its blob at a path, so its name is
text, and a symbolic one is refused unless what it names is text as well. A packed reference is a
line of a file, and nothing is asked of its name. So the references that a scan files are *legible*
(`BlobRemote.Ref.Legible`) but for the names of packed ones, on a store of any kind and whatever its
blobs hold (`BlobRemote.Database.legible_advertised`).
-/

namespace BlobRemote

namespace Utf8

/-- **Bytes are text** if they spell some. -/
def IsText (bs : Bytes) : Prop := ∃ text, encodeText text = bs

theorem isText_iff {bs : Bytes} : IsText bs ↔ ∃ text, decodeText bs = .ok text :=
  exists_congr fun _ => decodeText_eq_ok_iff.symm

/-- Bytes that are characters of ASCII are text. -/
theorem isText_of_lt {bs : Bytes} (h : ∀ b ∈ bs, b.toNat < 0x80) : IsText bs := by
  induction bs with
  | nil => exact ⟨"", rfl⟩
  | cons b rest ih =>
    obtain ⟨text, htext⟩ := ih fun c hc => h c (List.mem_cons_of_mem b hc)
    refine ⟨String.ofList (Char.ofNat b.toNat :: text.toList), ?_⟩
    rw [encodeText, String.toList_ofList, encode, List.flatMap_cons,
      encodeChar_one (h b List.mem_cons_self)]
    exact congrArg (b :: ·) htext

end Utf8

open Utf8 (IsText)

namespace Ref

theorem isText_of_isObjectId {objectId : Bytes} (h : isObjectId objectId = true) :
    IsText objectId := by
  refine Utf8.isText_of_lt fun b hb => ?_
  have hlt : (Char.ofNat b.toNat).toNat < 0x67 :=
    Number.lt_of_isHexDigit (isHexByte_of_mem h hb)
  have hb : (Char.ofNat b.toNat).toNat = b.toNat :=
    Utf8.toNat_ofNat_char (.inl (b.toNat_lt.trans (by decide)))
  omega

theorem isText_of_isName {name : Bytes} (h : isName name = true) : IsText name := by
  rw [isName, Bool.and_eq_true] at h
  rw [Utf8.isText_iff]
  cases hname : Utf8.decode name with
  | error fault =>
    rw [hname] at h
    cases h.2
  | ok s => exact ⟨String.ofList s, by rw [Utf8.decodeText, hname]; rfl⟩

/-- **A reference is legible** under a name: its object identifier is one, if it has any, what it
names is text, if it is symbolic, and so is its own name, unless it is packed. -/
structure Legible (name : Bytes) (r : Ref) : Prop where
  /-- It has the name. -/
  name_eq : r.name = name
  /-- The object identifier is one. -/
  objectId : ∀ objectId, r.objectId = some objectId → isObjectId objectId = true
  /-- What it names is text. -/
  target : ∀ target, r.target? = some target → IsText target.name
  /-- Its own name is text. -/
  name : IsText name ∨ r.storage = .packed

theorem legible_packedRef {e : Packed.Entry} (h : isObjectId e.objectId = true) :
    Legible e.name (Scan.packedRef e) where
  name_eq := rfl
  objectId := by
    intro objectId hid
    exact Option.some.inj hid ▸ h
  target := by
    intro target htarget
    cases htarget
  name := .inr rfl

theorem legible_direct {name : Bytes} (hname : IsText name) (storage : Storage)
    {objectId : Option Bytes} (h : ∀ id, objectId = some id → isObjectId id = true) :
    Legible name (.direct name storage objectId none) where
  name_eq := rfl
  objectId := h
  target := by
    intro target htarget
    cases htarget
  name := .inl hname

theorem legible_symbolic {name target : Bytes} {r : Ref} (hname : IsText name)
    (htarget : IsText target) (h : Legible target r) : Legible name (.symbolic name r) where
  name_eq := rfl
  objectId := h.objectId
  target := by
    intro r' hr
    cases hr
    exact h.name_eq ▸ htarget
  name := .inl hname

end Ref

/-- **References are legible**, each under the name under which it is filed. -/
def Refs.Legible (refs : Refs) : Prop := ∀ name r, refs.get? name = some r → r.Legible name

theorem Refs.Legible.insert {refs : Refs} (h : refs.Legible) {name : Bytes} {r : Ref}
    (hr : r.Legible name) : Refs.Legible (Dict.insert refs name r) := by
  intro name' r' hr'
  rw [Dict.get?_insert] at hr'
  split at hr'
  · next hname =>
    cases hr'
    exact hname ▸ hr
  · exact h name' r' hr'

namespace Scan

variable {σ α : Type}

/-- The references read so far are legible. -/
def Legible (t : Scan σ) : Prop := t.refs.Legible

theorem legible_filePacked {entries : List Packed.Entry}
    (hentries : ∀ e ∈ entries, Ref.isObjectId e.objectId = true) {refs : Refs} (h : refs.Legible) :
    (filePacked refs entries).Legible := by
  induction entries generalizing refs with
  | nil => exact h
  | cons e rest ih =>
    exact ih (fun e' he' => hentries e' (List.mem_cons_of_mem e he'))
      (h.insert (Ref.legible_packedRef (hentries e List.mem_cons_self)))

/-- What a session does files nothing. -/
theorem legible_onSession (x : Act (Session σ) α) : Act.Keeps Legible (onSession x) := by
  intro t ht
  rw [onSession_apply]
  cases x t.toSession <;> exact ht

/-- Filing a legible reference. -/
theorem legible_file {r : Ref} (hr : r.Legible r.name) : Act.Keeps (Legible (σ := σ)) (file r) :=
  fun _ ht => ht.insert hr

/-- A reference to another one is legible if the other one is, or has yet to be written. -/
theorem legible_fileSymbolic {name target : Bytes} (hname : IsText name) (htarget : IsText target)
    {found : Option Ref} (hfound : ∀ r, found = some r → r.Legible target) :
    Act.Ensures (Legible (σ := σ)) Legible (fileSymbolic name target found)
      fun found t => t.Legible ∧ ∀ r, found = some r → r.Legible name := by
  have hr : (symbolicTo name target found).Legible name := by
    refine Ref.legible_symbolic hname htarget ?_
    cases found with
    | none => exact Ref.legible_direct htarget _ fun id hid => by cases hid
    | some r => exact hfound r rfl
  have hnoted := legible_onSession (Session.onWorld (σ := σ) (World.note (.symbolicRef name target)))
  refine hnoted.bind fun _ =>
    (legible_file (r := symbolicTo name target found) hr).bind fun _ => .pure fun t ht => ⟨ht, ?_⟩
  intro r hfiled
  exact Option.some.inj hfiled ▸ hr

variable [Store σ] (d : Database)

/-- **A blob is read** only if the name is text. -/
theorem legible_blob (name : Bytes) :
    Act.Ensures (Legible (σ := σ)) Legible (blob d name)
      fun found t => t.Legible ∧ (found ≠ none → IsText name) := by
  intro t ht
  rw [blob, Database.pathOfRef_bind_apply]
  cases hname : Utf8.decodeText name with
  | error fault => exact ht
  | ok text =>
    refine Act.Ensures.bind (.get fun _ ht => ht)
      (fun s => (legible_onSession (d.read _)).attempt.bind fun answer => ?_) t ht
    cases answer with
    | ok data => exact .pure fun _ ht => ⟨ht, fun _ => Utf8.isText_iff.2 ⟨text, hname⟩⟩
    | error f =>
      dsimp only
      split
      · exact .pure fun _ ht => ⟨ht, fun h => absurd rfl h⟩
      · exact .fail fun _ ht => ht

/-- **Reading a reference** files legible ones, and finds one that is legible. -/
theorem legible_readWithin (fuel : Nat) (resolving : List Bytes) (name : Bytes) :
    Act.Ensures (Legible (σ := σ)) Legible (readWithin d fuel resolving name)
      fun found t => t.Legible ∧ ∀ r, found = some r → r.Legible name := by
  -- the names that lead here do not matter, so the induction is on the fuel alone
  induction fuel generalizing resolving name with
  | zero => exact .refuse fun _ ht => ht
  | succ fuel ih =>
    rw [readWithin]
    split
    · exact .refuse fun _ ht => ht
    · refine (legible_blob d name).bind fun found => ?_
      cases found with
      | none => exact .pure fun _ ht => ⟨ht.1, fun r hr => by cases hr⟩
      | some data =>
        dsimp only
        cases hcontent : Ref.contentOf data with
        | malformed line => exact .refuse fun _ ht => ht.1
        | object objectId =>
          have hid := (Ref.contentOf_eq_object_iff.1 hcontent).2
          intro t ht
          have hname := ht.2 (Option.some_ne_none data)
          have hr : (Ref.direct name (looseStorage (t.refs.get? name)) (some objectId) none).Legible
              name :=
            Ref.legible_direct hname _ fun id h => Option.some.inj h ▸ hid
          exact ⟨ht.1.insert hr, fun r hfiled => Option.some.inj hfiled ▸ hr⟩
        | symbolic target =>
          have htarget : IsText target :=
            Ref.isText_of_isName (Ref.contentOf_eq_symbolic_iff.1 hcontent).2
          intro t ht
          have hname := ht.2 (Option.some_ne_none data)
          dsimp only
          rw [Act.bind_apply_of_ok (Act.get_apply t)]
          cases hr : t.refs.get? target with
          | some r =>
            have hlegible : ∀ r', some r = some r' → r'.Legible target :=
              fun r' h => Option.some.inj h ▸ ht.1 target r hr
            exact legible_fileSymbolic hname htarget hlegible t ht.1
          | none =>
            refine Act.Ensures.bind (ih _ target) (fun found t' ht' => ?_) t ht.1
            exact legible_fileSymbolic hname htarget ht'.2 t' ht'.1

/-- **Reading the packed references** files legible ones. -/
theorem legible_readPacked : Act.Keeps (Legible (σ := σ)) (readPacked d) := by
  refine Act.Ensures.bind (.get fun _ ht => ht) fun s =>
    (legible_onSession (d.open _)).attempt.bind fun answer => ?_
  cases answer with
  | error f =>
    dsimp only
    split
    · exact .pure fun _ ht => ht
    · exact .fail fun _ ht => ht
  | ok stream =>
    dsimp only
    cases stream.content with
    | error f => exact .fail fun _ ht => ht
    | ok data =>
      have hfile : Act.Keeps (Legible (σ := σ))
          (Act.each (fun e => file (packedRef e)) (Packed.read data).entries) := by
        intro t ht
        obtain ⟨done, hdone⟩ := each_file_apply (Packed.read data).entries t
        rw [hdone]
        exact legible_filePacked (fun e he => Packed.isObjectId_of_mem_readFrom he) ht
      refine hfile.bind fun _ => ?_
      cases (Packed.read data).fault with
      | none => exact .pure fun _ ht => ht
      | some fault => exact .fail fun _ ht => ht

theorem legible_read (name : Bytes) : Act.Keeps (Legible (σ := σ)) (read d name) := by
  refine Act.Ensures.bind (.get fun _ ht => ht) fun s t ht => ?_
  have hread := legible_readWithin d (chainBound d s.store) [] name t ht
  cases hr : readWithin d (chainBound d s.store) [] name t with
  | ok found t' =>
    rw [hr] at hread
    exact hread.1
  | error f t' =>
    rw [hr] at hread
    exact hread

/-- **Reading the loose references** files legible ones. -/
theorem legible_readLoose : Act.Keeps (Legible (σ := σ)) (readLoose d) := by
  refine Act.Ensures.bind (.get fun _ ht => ht) fun s =>
    (legible_onSession (d.list _)).attempt.bind fun answer => ?_
  cases answer with
  | error f => exact .fail fun _ ht => ht
  | ok names =>
    exact Act.Ensures.bind (.each (fun n => legible_read d _) _) fun _ => .pure fun _ ht => ht

theorem legible_readAll : Act.Keeps (Legible (σ := σ)) (readAll d) :=
  (legible_readPacked d).bind fun _ => (legible_readLoose d).bind fun _ =>
    (legible_read d _).bind fun _ => .pure fun _ ht => ht

end Scan

/-- **The references that a repository advertises** are in ascending order of their names. -/
theorem Database.pairwise_advertised {σ : Type} [Store σ] {d : Database} {s s' : Session σ}
    {refs : Refs} (h : d.advertised s = .ok refs s') : refs.keys.Pairwise (· < ·) := by
  rw [advertised] at h
  cases hrun : Scan.readAll d ⟨s, Dict.empty⟩ with
  | error f t =>
    rw [hrun] at h
    cases h
  | ok u t =>
    rw [hrun] at h
    cases h
    exact Dict.pairwise_keys_sort t.refs

/-- **The references that a repository advertises** are legible. -/
theorem Database.legible_advertised {σ : Type} [Store σ] {d : Database} {s s' : Session σ}
    {refs : Refs} (h : d.advertised s = .ok refs s') : refs.Legible := by
  have hempty : Scan.Legible ⟨s, Dict.empty⟩ := by
    intro name r hr
    cases hr
  have hall := Scan.legible_readAll d ⟨s, Dict.empty⟩ hempty
  rw [advertised] at h
  cases hrun : Scan.readAll d ⟨s, Dict.empty⟩ with
  | error f t =>
    rw [hrun] at h
    cases h
  | ok u t =>
    rw [hrun] at h hall
    cases h
    intro name r hr
    rw [Dict.get?_sort] at hr
    exact hall name r hr

end BlobRemote
