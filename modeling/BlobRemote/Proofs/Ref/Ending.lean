import Mathlib
import BlobRemote.Proofs.Key
import BlobRemote.Proofs.Ref.Scanning
import BlobRemote.Proofs.Session.Files
import BlobRemote.Proofs.Text.Exact

/-!
# When reading a reference succeeds

Reading a name follows symbolic references. It succeeds exactly if the chain of them ends
(`BlobRemote.Scan.Ends`): at a name without a blob, at a reference to an object, or at a reference
that names what is filed already (`BlobRemote.Scan.read_ok_iff`).

A chain that ends has no circle, so all names on it are different. Not all of their keys need be: a
name can climb out of the repository and come back, and a slash at its end does not count. But a key
has at most two names for each number of markers, so a chain is never longer than the bound that the
scan is given (`BlobRemote.Scan.length_le_of_nodup`).
-/

namespace BlobRemote

namespace Scan

variable {d : Database} {s : Session Memory} {name : Bytes}

/-! ### Keys of references -/

/-- The key of the blob of a reference, if its name is text and does not climb too high. -/
def keyOf (d : Database) (name : Bytes) : Option String :=
  match Utf8.decodeText name with
  | .error _ => none
  | .ok text => (Key.resolve d.objectsKey (Database.refPath text)).toOption

theorem keyOf_eq_some_iff {key : String} :
    keyOf d name = some key ↔
      ∃ text, name = Utf8.encodeText text ∧
        Key.resolve d.objectsKey (Database.refPath text) = .ok key := by
  rw [keyOf]
  constructor
  · intro h
    cases htext : Utf8.decodeText name with
    | error fault =>
      rw [htext] at h
      cases h
    | ok text =>
      rw [htext] at h
      dsimp only at h
      refine ⟨text, (Utf8.encodeText_decodeText htext).symm, ?_⟩
      cases hkey : Key.resolve d.objectsKey (Database.refPath text) with
      | error climb =>
        rw [hkey] at h
        cases h
      | ok k =>
        rw [hkey] at h
        cases h
        rfl
  · rintro ⟨text, rfl, hkey⟩
    rw [Utf8.decodeText_encodeText]
    dsimp only
    rw [hkey]
    rfl

/-- **What a name shows** is the file under its key. -/
theorem seen_eq_ok_iff {data : Option Bytes} :
    seen d s name = .ok data ↔ ∃ key, keyOf d name = some key ∧ s.shown key = data := by
  rw [seen, keyOf]
  cases Utf8.decodeText name with
  | error fault =>
    constructor
    · intro h
      cases h
    · rintro ⟨key, h, -⟩
      cases h
  | ok text =>
    dsimp only
    cases Key.resolve d.objectsKey (Database.refPath text) with
    | error climb =>
      constructor
      · intro h
        cases h
      · rintro ⟨key, h, -⟩
        cases h
    | ok key =>
      constructor
      · intro h
        cases h
        exact ⟨key, rfl, rfl⟩
      · rintro ⟨key', h, hdata⟩
        cases h
        exact congrArg Except.ok hdata

/-- What a name says is what the file under its key says. -/
theorem content_eq (d : Database) (s : Session Memory) (name : Bytes) :
    content d s name = (keyOf d name).bind fun key => (s.shown key).map Ref.contentOf := by
  rw [content, seen, keyOf]
  cases Utf8.decodeText name with
  | error fault => rfl
  | ok text =>
    dsimp only
    cases Key.resolve d.objectsKey (Database.refPath text) <;> rfl

/-- A name that says nothing and has a key has no blob. -/
theorem seen_of_content_none {key : String} (hkey : keyOf d name = some key)
    (hc : content d s name = none) : seen d s name = .ok none := by
  refine seen_eq_ok_iff.2 ⟨key, hkey, ?_⟩
  rwa [content_eq, hkey, Option.bind_some, Option.map_eq_none_iff] at hc

/-- The path of a name, if the name is text. -/
def pathOf (name : Bytes) : List Char :=
  match Utf8.decodeText name with
  | .error _ => []
  | .ok text => (Database.refPath text).toList

/-- What tells a name from others: its key, the number of its markers, and whether a slash that does
not count is at its end. -/
def traits (d : Database) (name : Bytes) : Option String × Nat × Bool :=
  (keyOf d name, Key.climbs (Key.dropEndSlash (pathOf name)),
    decide ((pathOf name).getLast? = some '/'))

/-- **A key has few names**: only the number of markers and a slash at the end tell them apart. -/
theorem traits_injective {name' : Bytes} {key : String} (h : keyOf d name = some key)
    (htraits : traits d name = traits d name') : name = name' := by
  rw [traits, traits, Prod.mk.injEq, Prod.mk.injEq] at htraits
  obtain ⟨hkeys, hclimbs, hlast⟩ := htraits
  obtain ⟨text, rfl, hkey⟩ := keyOf_eq_some_iff.1 h
  obtain ⟨text', rfl, hkey'⟩ := keyOf_eq_some_iff.1 (hkeys.symm.trans h)
  rw [pathOf, pathOf, Utf8.decodeText_encodeText, Utf8.decodeText_encodeText] at hclimbs hlast
  have hpath := Key.resolve_injective hkey hkey' hclimbs (decide_eq_decide.1 hlast)
  rw [(String.append_right_inj "../").1 hpath]

/-- All traits that a name with a blob can have in a store. -/
def allTraits (d : Database) (m : Memory) : List (Option String × Nat × Bool) :=
  (m.blobs.keys.map fun k => some k.2) ×ˢ
    (List.range ((Cut.fields '/' d.objectsKey.toList).length + 1) ×ˢ [true, false])

theorem length_allTraits (d : Database) (m : Memory) :
    (allTraits d m).length =
      2 * ((Cut.fields '/' d.objectsKey.toList).length + 1) * m.blobs.size := by
  have hsize : m.blobs.keys.length = m.blobs.size := List.length_map _
  rw [allTraits, List.length_product, List.length_product, List.length_map, List.length_range,
    hsize]
  change _ * (_ * 2) = _
  ring

theorem traits_mem {data : Bytes} (h : seen d s name = .ok (some data)) :
    traits d name ∈ allTraits d s.store := by
  have hbool : ∀ b : Bool, b ∈ [true, false] := by decide
  obtain ⟨key, hkey, hshown⟩ := seen_eq_ok_iff.1 h
  obtain ⟨text, rfl, hresolve⟩ := keyOf_eq_some_iff.1 hkey
  have hle := Key.climbs_le_of_resolve hresolve
  refine List.mem_product.2 ⟨?_, List.mem_product.2 ⟨?_, hbool _⟩⟩
  · have hmem := Dict.mem_keys_iff.2 (Session.blobs_ne_none_of_shown hshown)
    exact List.mem_map.2 ⟨_, hmem, hkey.symm⟩
  · simp only [pathOf, Utf8.decodeText_encodeText]
    exact List.mem_range.2 (Nat.lt_succ_of_le hle)

/-- **There are not too many names with blobs**: at most two for each key and each number of
segments that a name can climb. -/
theorem length_le_of_nodup {names : List Bytes} (hnodup : names.Nodup)
    (hblob : ∀ name ∈ names, ∃ data, seen d s name = .ok (some data)) :
    names.length ≤
      2 * ((Cut.fields '/' d.objectsKey.toList).length + 1) * s.store.blobs.size := by
  have hinj : (names.map (traits d)).Nodup := by
    refine hnodup.map_on fun name hname name' _ htraits => ?_
    obtain ⟨data, hdata⟩ := hblob name hname
    obtain ⟨key, hkey, -⟩ := seen_eq_ok_iff.1 hdata
    exact traits_injective hkey htraits
  have hmem : names.map (traits d) ⊆ allTraits d s.store := by
    intro x hx
    obtain ⟨name, hname, rfl⟩ := List.mem_map.1 hx
    obtain ⟨data, hdata⟩ := hblob name hname
    exact traits_mem hdata
  have hlength := (List.subperm_of_subset hinj hmem).length_le
  rwa [List.length_map, length_allTraits] at hlength

/-! ### Chains that end -/

/-- **The chain of symbolic references from a name ends**, where some references are filed. -/
inductive Ends (d : Database) (s : Session Memory) (refs : Refs) : Bytes → Prop where
  /-- There is no blob. -/
  | absent {name : Bytes} (h : seen d s name = .ok none) : Ends d s refs name
  /-- The reference is direct. -/
  | object {name objectId : Bytes} (h : content d s name = some (.object objectId)) :
    Ends d s refs name
  /-- The reference names one that is filed. -/
  | filed {name target : Bytes} (h : content d s name = some (.symbolic target))
    (hr : refs.get? target ≠ none) : Ends d s refs name
  /-- The reference names one from which the chain ends. -/
  | step {name target : Bytes} (h : content d s name = some (.symbolic target))
    (hnone : refs.get? target = none) (hend : Ends d s refs target) : Ends d s refs name

/-- A name from which a chain ends can be looked up. -/
theorem Ends.exists_blob {refs : Refs} (h : Ends d s refs name) :
    ∃ blob, seen d s name = .ok blob := by
  have hsome : content d s name ≠ none → ∃ blob, seen d s name = .ok blob := by
    intro hblob
    obtain ⟨data, hdata⟩ := exists_seen hblob
    exact ⟨some data, hdata⟩
  cases h with
  | absent hseen => exact ⟨none, hseen⟩
  | object hc => exact hsome (hc ▸ Option.some_ne_none _)
  | filed hc _ => exact hsome (hc ▸ Option.some_ne_none _)
  | step hc _ _ => exact hsome (hc ▸ Option.some_ne_none _)

/-- A name from which a chain ends has a key, and is not malformed. -/
theorem Ends.exists_key {refs : Refs} (h : Ends d s refs name) :
    (∃ key, keyOf d name = some key) ∧ ∀ line, content d s name ≠ some (.malformed line) := by
  obtain ⟨blob, hseen⟩ := h.exists_blob
  obtain ⟨key, hkey, -⟩ := seen_eq_ok_iff.1 hseen
  refine ⟨⟨key, hkey⟩, ?_⟩
  cases h with
  | absent hnone =>
    rw [content_of_seen_none hnone]
    rintro line ⟨⟩
  | object hc =>
    rw [hc]
    rintro line ⟨⟩
  | filed hc _ =>
    rw [hc]
    rintro line ⟨⟩
  | step hc _ _ =>
    rw [hc]
    rintro line ⟨⟩

/-- **A chain goes on** at what a symbolic reference names, unless that is filed. -/
theorem Ends.target {refs : Refs} {target : Bytes} (h : Ends d s refs name)
    (hc : content d s name = some (.symbolic target)) (hnone : refs.get? target = none) :
    Ends d s refs target := by
  cases h with
  | absent hseen =>
    rw [content_of_seen_none hseen] at hc
    cases hc
  | object hc' =>
    rw [hc] at hc'
    cases hc'
  | filed hc' hr =>
    rw [hc] at hc'
    cases hc'
    exact absurd hnone hr
  | step hc' _ hend =>
    rw [hc] at hc'
    cases hc'
    exact hend

/-- A symbolic reference is read through, because what it names is not filed. -/
def Goes (d : Database) (s : Session Memory) (refs : Refs) (name target : Bytes) : Prop :=
  content d s name = some (.symbolic target) ∧ refs.get? target = none

variable {refs : Refs}

theorem Goes.exists_seen {target : Bytes} (h : Goes d s refs name target) :
    ∃ data, seen d s name = .ok (some data) :=
  Scan.exists_seen (h.1 ▸ Option.some_ne_none _)

theorem Goes.unique {target target' : Bytes} (h : Goes d s refs name target)
    (h' : Goes d s refs name target') : target = target' := by
  have := h.1.symm.trans h'.1
  rwa [Option.some.injEq, Ref.Content.symbolic.injEq] at this

/-- **A chain that ends has no circle.** -/
theorem Ends.not_transGen (h : Ends d s refs name) :
    ¬ Relation.TransGen (Goes d s refs) name name := by
  induction h with
  | absent hnone =>
    intro hcircle
    obtain ⟨target, ⟨hc, -⟩, -⟩ := Relation.TransGen.head'_iff.1 hcircle
    rw [content_of_seen_none hnone] at hc
    cases hc
  | object hc =>
    intro hcircle
    obtain ⟨target, ⟨hc', -⟩, -⟩ := Relation.TransGen.head'_iff.1 hcircle
    rw [hc] at hc'
    cases hc'
  | filed hc hr =>
    intro hcircle
    obtain ⟨target, ⟨hc', hnone⟩, -⟩ := Relation.TransGen.head'_iff.1 hcircle
    rw [hc] at hc'
    cases hc'
    exact hr hnone
  | @step name target hc hnone hend ih =>
    intro hcircle
    obtain ⟨target', hgoes, hback⟩ := Relation.TransGen.head'_iff.1 hcircle
    obtain rfl := hgoes.unique ⟨hc, hnone⟩
    exact ih (Relation.TransGen.tail' hback hgoes)

/-! ### Reading a name -/

/-- **A name is read if its chain ends**: neither is there a circle nor is the chain too long. -/
theorem readWithin_of_ends {fuel : Nat} {resolving : List Bytes} {t : Scan Memory}
    (hs : t.toSession.around World.store = s.around World.store) (h : Ends d s t.refs name)
    (hnodup : resolving.Nodup)
    (hresolving : ∀ q ∈ resolving, Relation.TransGen (Goes d s t.refs) q name)
    (hfuel : 2 * ((Cut.fields '/' d.objectsKey.toList).length + 1) * s.store.blobs.size <
      fuel + resolving.length) :
    ∃ found t', readWithin d fuel resolving name t = .ok found t' := by
  induction fuel generalizing resolving name with
  | zero =>
    -- as many names have been read through as there can be
    have hle := length_le_of_nodup hnodup fun q hq => by
      obtain ⟨target, hgoes, -⟩ := Relation.TransGen.head'_iff.1 (hresolving q hq)
      exact hgoes.exists_seen
    omega
  | succ fuel ih =>
    have hnew : name ∉ resolving := fun hmem => h.not_transGen (hresolving name hmem)
    rw [readWithin_succ_apply, if_neg hnew, blob_apply, seen_congr hs]
    obtain ⟨blob, hseen⟩ := h.exists_blob
    rw [hseen]
    cases blob with
    | none => exact ⟨_, _, rfl⟩
    | some data =>
      have hcontent := content_of_seen hseen
      dsimp only
      cases h with
      | absent h =>
        rw [hseen] at h
        cases h
      | object h =>
        rw [hcontent, Option.some.injEq] at h
        rw [h]
        exact ⟨_, _, rfl⟩
      | @filed _ target h hr =>
        rw [hcontent, Option.some.injEq] at h
        obtain ⟨r, hr⟩ := Option.ne_none_iff_exists'.1 hr
        rw [h]
        dsimp only
        rw [hr]
        exact ⟨_, _, rfl⟩
      | @step _ target h hnone hend =>
        have hgoes : Goes d s t.refs name target := ⟨h, hnone⟩
        rw [hcontent, Option.some.injEq] at h
        rw [h]
        dsimp only
        rw [hnone]
        have hnodup' : (resolving ++ [name]).Nodup := by
          rw [← List.concat_eq_append]
          exact hnodup.concat hnew
        have hresolving' : ∀ q ∈ resolving ++ [name],
            Relation.TransGen (Goes d s t.refs) q target := by
          intro q hq
          rcases List.mem_append.1 hq with hq | hq
          · exact (hresolving q hq).tail hgoes
          · exact List.mem_singleton.1 hq ▸ .single hgoes
        have hfuel' : 2 * ((Cut.fields '/' d.objectsKey.toList).length + 1) *
            s.store.blobs.size < fuel + (resolving ++ [name]).length := by
          rw [List.length_append, List.length_singleton]
          omega
        obtain ⟨found, t', hread⟩ := ih hend hnodup' hresolving' hfuel'
        dsimp only
        rw [hread]
        exact ⟨_, _, rfl⟩

/-- The chain of a name that was read ends. -/
theorem ends_of_readWithin {fuel : Nat} {resolving : List Bytes} {t t' : Scan Memory}
    {found : Option Ref} (hs : t.toSession.around World.store = s.around World.store)
    (h : readWithin d fuel resolving name t = .ok found t') : Ends d s t.refs name := by
  induction fuel generalizing resolving name t' found with
  | zero => cases h
  | succ fuel ih =>
    rw [readWithin_succ_apply, blob_apply, seen_congr hs] at h
    split at h
    · cases h
    · rcases hseen : seen d s name with f | _ | data
      · rw [hseen] at h
        cases h
      · exact .absent hseen
      · have hcontent := content_of_seen hseen
        rw [hseen] at h
        dsimp only at h
        cases hdata : Ref.contentOf data with
        | malformed line =>
          rw [hdata] at h
          cases h
        | object objectId =>
          rw [hdata] at hcontent
          exact .object hcontent
        | symbolic target =>
          rw [hdata] at h hcontent
          dsimp only at h
          rcases hr : t.refs.get? target with _ | r
          · rw [hr] at h
            dsimp only at h
            rcases hread : readWithin d fuel (resolving ++ [name]) target t with ⟨found', t₁⟩ | _
            · exact .step hcontent hr (ih hread)
            · rw [hread] at h
              cases h
          · exact .filed hcontent (hr ▸ Option.some_ne_none r)

/-- **A name is read in its turn** exactly if its chain ends. -/
theorem read_ok_iff {t : Scan Memory}
    (hs : t.toSession.around World.store = s.around World.store) :
    (∃ found t', read d name t = .ok found t') ↔ Ends d s t.refs name := by
  rw [read, Act.bind_apply_of_ok (Act.get_apply t)]
  constructor
  · rintro ⟨found, t', h⟩
    exact ends_of_readWithin hs h
  · intro h
    have hstore : t.store = s.store := (Prod.mk.inj hs).1
    refine readWithin_of_ends hs h List.nodup_nil (fun q hq => by cases hq) ?_
    rw [chainBound, hstore, List.length_nil]
    exact Nat.lt_add_of_pos_right (by decide)

end Scan

end BlobRemote
