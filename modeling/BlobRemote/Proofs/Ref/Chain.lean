import Mathlib
import BlobRemote.Proofs.Ref.Content
import BlobRemote.Proofs.Ref.Ending
import BlobRemote.Proofs.Ref.Legible

/-!
# Chains of symbolic references

In a fixed collection of blobs, a name leads on to another one if its blob is a symbolic reference to
a name under which nothing is filed (`BlobRemote.Scan.Points`). The chain from a name ends with the
first event on it (`BlobRemote.Scan.Ending`): a name that occurred before, or one that leads nowhere
(`BlobRemote.Scan.Halts`). There is such an event on every chain
(`BlobRemote.Scan.exists_ending`).

Several names may have one blob: a slash at the end of a name does not count, and a name may climb
out of the repository and come back. So a circle is one of names, not of blobs. A chain is at most
one name longer than there are blobs all the same, because each blob names one target: the names on
a chain that are not its first are different only if the keys of those before them are
(`BlobRemote.Scan.length_le_of_isChain`).
-/

namespace BlobRemote

namespace Scan

variable {d : Database} {blobs : Dict String Bytes} {refs : Refs}
  {name target start next last : Bytes} {path rest : List Bytes} {data : Bytes}

/-! ### Chains of names -/

/-- The blob under the key of a name. -/
def blobAt (d : Database) (blobs : Dict String Bytes) (name : Bytes) : Option Bytes :=
  (keyOf d name).bind blobs.get?

/-- **A name leads on to another one**: its blob is a symbolic reference to it, and nothing is filed
under the other name. -/
structure Points (d : Database) (blobs : Dict String Bytes) (refs : Refs) (name target : Bytes) :
    Prop where
  /-- The blob names the target. -/
  names : ∃ data, blobAt d blobs name = some data ∧
    Ref.firstLine data = Ref.symbolicMark ++ target
  /-- The target may be the name of a reference. -/
  isName : Ref.isName target = true
  /-- Nothing is filed under it. -/
  unfiled : refs.get? target = none

/-- **What a name comes to that leads to no other one.** -/
inductive Halts (d : Database) (blobs : Dict String Bytes) (refs : Refs) (name : Bytes) :
    Except Failure (Option Ref) → Prop where
  /-- The name climbs above the root of the bucket. -/
  | climbs {text : String} {climb : Key.Climb} (hname : name = Utf8.encodeText text)
    (h : Key.resolve d.objectsKey (Database.refPath text) = .error climb) :
    Halts d blobs refs name (.error (Reason.climb climb).alone)
  /-- The store does not find a blob. -/
  | absent {key : String} (hkey : keyOf d name = some key) (h : blobs.get? key = none) :
    Halts d blobs refs name (.ok none)
  /-- The blob is empty. -/
  | empty (h : blobAt d blobs name = some []) :
    Halts d blobs refs name (.error (Reason.malformedRef name none).alone)
  /-- The first line is no object identifier, nor does it name a target that may be a name. -/
  | garbled {data : Bytes} (h : blobAt d blobs name = some data) (hdata : data ≠ [])
    (hid : Ref.isObjectId (Ref.firstLine data) = false)
    (hname : ∀ target, Ref.firstLine data = Ref.symbolicMark ++ target →
      Ref.isName target = false) :
    Halts d blobs refs name
      (.error (Reason.malformedRef name (some (Ref.firstLine data))).alone)
  /-- The first line is an object identifier. -/
  | object {data : Bytes} (h : blobAt d blobs name = some data)
    (hid : Ref.isObjectId (Ref.firstLine data) = true) :
    Halts d blobs refs name (.ok (some (looseRef name (Ref.firstLine data) (refs.get? name))))
  /-- The reference is symbolic, and something is filed under its target. -/
  | filed {data target : Bytes} {r : Ref} (h : blobAt d blobs name = some data)
    (hline : Ref.firstLine data = Ref.symbolicMark ++ target) (hname : Ref.isName target = true)
    (hr : refs.get? target = some r) :
    Halts d blobs refs name (.ok (some (.symbolic name r)))

/-- **The chain from a name** up to some name: each name before the last leads on to the next, and
none of them occurs twice. -/
structure Chain (d : Database) (blobs : Dict String Bytes) (refs : Refs) (start : Bytes)
    (path : List Bytes) (last : Bytes) : Prop where
  /-- The chain begins with the name. -/
  head? : (path ++ [last]).head? = some start
  /-- Each name leads on to the next. -/
  points : (path ++ [last]).IsChain (Points d blobs refs)
  /-- No name has occurred before the last. -/
  nodup : path.Nodup

/-- **The event that ends a chain**, and what the last name comes to. -/
inductive Ending (d : Database) (blobs : Dict String Bytes) (refs : Refs) (path : List Bytes)
    (last : Bytes) : Except Failure (Option Ref) → Prop where
  /-- The last name has occurred before. -/
  | circle (h : last ∈ path) :
    Ending d blobs refs path last (.error (Reason.cyclicRef last path).alone)
  /-- The last name is new and leads to no other one. -/
  | halts {result : Except Failure (Option Ref)} (h : last ∉ path)
    (hr : Halts d blobs refs last result) : Ending d blobs refs path last result

/-! ### The names on a chain -/

theorem exists_head?_append (path : List Bytes) (last : Bytes) :
    ∃ name, (path ++ [last]).head? = some name := by
  rcases path with _ | ⟨name, rest⟩
  · exact ⟨last, rfl⟩
  · exact ⟨name, rfl⟩

theorem Points.contentOf (h : Points d blobs refs name target) :
    ∃ data, blobAt d blobs name = some data ∧ Ref.contentOf data = .symbolic target := by
  obtain ⟨data, hdata, hline⟩ := h.names
  exact ⟨data, hdata, Ref.contentOf_eq_symbolic_iff.2 ⟨hline, h.isName⟩⟩

/-- A name that has a blob has a key. -/
theorem exists_key_of_blobAt (h : blobAt d blobs name = some data) :
    ∃ key, keyOf d name = some key ∧ blobs.get? key = some data :=
  Option.bind_eq_some_iff.1 h

/-- The target that the blob under a key names, if it is a symbolic reference. -/
def targetUnder (blobs : Dict String Bytes) (key : Option String) : Bytes :=
  (Ref.firstLine ((key.bind blobs.get?).getD [])).drop Ref.symbolicMark.length

/-- **The target of a name is that of its key**, whatever other names the key has. -/
theorem Points.targetUnder_keyOf (h : Points d blobs refs name target) :
    targetUnder blobs (keyOf d name) = target := by
  obtain ⟨data, hdata, hline⟩ := h.names
  rw [blobAt] at hdata
  rw [targetUnder, hdata, Option.getD_some, hline, List.drop_left]

/-- A name that leads on has one of the keys of the store. -/
theorem Points.keyOf_mem (h : Points d blobs refs name target) :
    keyOf d name ∈ blobs.keys.map some := by
  obtain ⟨data, hdata, -⟩ := h.names
  obtain ⟨key, hkey, hget⟩ := exists_key_of_blobAt hdata
  refine List.mem_map.2 ⟨key, Dict.mem_keys_iff.2 ?_, hkey.symm⟩
  rw [hget]
  exact Option.some_ne_none data

/-- The names after the first are the targets of the keys of those before the last. -/
theorem tail_eq_map_targetUnder {names : List Bytes} (h : names.IsChain (Points d blobs refs)) :
    names.tail = (names.dropLast.map (keyOf d)).map (targetUnder blobs) := by
  -- two names at a time: the first one leads on to the second
  induction names with
  | nil => rfl
  | cons name rest ih =>
    rcases rest with _ | ⟨next, rest⟩
    · rfl
    · obtain ⟨hpoints, hrest⟩ := List.isChain_cons_cons.1 h
      have htail : rest = _ := ih hrest
      rw [List.dropLast_cons_cons, List.map_cons, List.map_cons, hpoints.targetUnder_keyOf,
        ← htail, List.tail_cons]

theorem keyOf_mem_of_mem_dropLast {names : List Bytes}
    (h : names.IsChain (Points d blobs refs)) :
    ∀ q ∈ names.dropLast, keyOf d q ∈ blobs.keys.map some := by
  induction names with
  | nil => rintro q ⟨⟩
  | cons name rest ih =>
    rcases rest with _ | ⟨next, rest⟩
    · rintro q ⟨⟩
    · obtain ⟨hpoints, hrest⟩ := List.isChain_cons_cons.1 h
      rintro q hq
      rcases List.mem_cons.1 hq with rfl | hq
      · exact hpoints.keyOf_mem
      · exact ih hrest q hq

/-- **A chain without repetition is at most one name longer than the store has blobs.** Its names
after the first are different, so the keys of those before the last are. -/
theorem length_le_of_isChain {names : List Bytes} (h : names.IsChain (Points d blobs refs))
    (hnodup : names.Nodup) : names.length ≤ blobs.size + 1 := by
  have hkeys : (names.dropLast.map (keyOf d)).Nodup := by
    refine List.Nodup.of_map (targetUnder blobs) ?_
    rw [← tail_eq_map_targetUnder h]
    exact hnodup.tail
  have hsub : names.dropLast.map (keyOf d) ⊆ blobs.keys.map some := by
    intro key hkey
    obtain ⟨q, hq, rfl⟩ := List.mem_map.1 hkey
    exact keyOf_mem_of_mem_dropLast h q hq
  have hle := (List.subperm_of_subset hkeys hsub).length_le
  have hsize : blobs.keys.length = blobs.size := List.length_map _
  rw [List.length_map, List.length_map, List.length_dropLast, hsize] at hle
  omega

namespace Chain

theorem singleton (d : Database) (blobs : Dict String Bytes) (refs : Refs) (name : Bytes) :
    Chain d blobs refs name [] name :=
  ⟨rfl, List.isChain_singleton name, List.nodup_nil⟩

theorem nodup_append (h : Chain d blobs refs start path last) (hlast : last ∉ path) :
    (path ++ [last]).Nodup := by
  rw [← List.concat_eq_append]
  exact h.nodup.concat hlast

/-- **A chain goes on** with a name that is new. -/
theorem step (h : Chain d blobs refs start path last) (hlast : last ∉ path)
    (hpoints : Points d blobs refs last target) :
    Chain d blobs refs start (path ++ [last]) target where
  head? := by
    rw [List.head?_append_of_ne_nil _ (by simp)]
    exact h.head?
  points := by
    refine List.isChain_append.2 ⟨h.points, List.isChain_singleton target, ?_⟩
    rintro q hq q' hq'
    rw [List.getLast?_concat, Option.mem_some_iff] at hq
    cases hq
    cases hq'
    exact hpoints
  nodup := h.nodup_append hlast

/-- Each name on a chain is new when it is come to, and leads on to the next. -/
theorem points_next (h : Chain d blobs refs start (path ++ name :: rest) last)
    (hnext : (rest ++ [last]).head? = some next) :
    name ∉ path ∧ Points d blobs refs name next := by
  constructor
  · intro hmem
    exact (List.nodup_append.1 h.nodup).2.2 name hmem name List.mem_cons_self rfl
  · obtain ⟨more, hmore⟩ := List.head?_eq_some_iff.1 hnext
    have hpoints := h.points
    rw [List.append_assoc, List.cons_append, hmore] at hpoints
    exact (List.isChain_cons_cons.1 hpoints.right_of_append).1

/-- **The number of names that are read** on a chain. -/
theorem length_le (h : Chain d blobs refs start path last) :
    path.length + (if last ∈ path then 0 else 1) ≤ blobs.size + 1 := by
  split
  · -- the last name has been read before, so only those before it count
    exact length_le_of_isChain (List.IsChain.left_of_append h.points) h.nodup
  · next hlast =>
    have hle := length_le_of_isChain h.points (h.nodup_append hlast)
    rwa [List.length_append] at hle

end Chain

/-! ### There is an event on every chain -/

/-- **A name that is text leads on or comes to something.** -/
theorem halts_or_points (hname : Utf8.IsText name) :
    (∃ result, Halts d blobs refs name result) ∨ ∃ target, Points d blobs refs name target := by
  obtain ⟨text, rfl⟩ := hname
  -- the key, the blob, what its first line is, and what is filed: whichever stops the chain first
  rcases hresolve : Key.resolve d.objectsKey (Database.refPath text) with climb | key
  · exact .inl ⟨_, .climbs rfl hresolve⟩
  have hkey : keyOf d (Utf8.encodeText text) = some key := keyOf_eq_some_iff.2 ⟨text, rfl, hresolve⟩
  rcases hget : blobs.get? key with _ | data
  · exact .inl ⟨_, .absent hkey hget⟩
  have hdata : blobAt d blobs (Utf8.encodeText text) = some data := by
    rw [blobAt, hkey, Option.bind_some, hget]
  rcases hc : Ref.contentOf data with objectId | target | line
  · obtain ⟨rfl, hid⟩ := Ref.contentOf_eq_object_iff.1 hc
    exact .inl ⟨_, .object hdata hid⟩
  · obtain ⟨hline, hname⟩ := Ref.contentOf_eq_symbolic_iff.1 hc
    rcases hr : refs.get? target with _ | r
    · exact .inr ⟨target, ⟨data, hdata, hline⟩, hname, hr⟩
    · exact .inl ⟨_, .filed hdata hline hname hr⟩
  · rcases Ref.contentOf_eq_malformed_iff.1 hc with ⟨rfl, -⟩ | ⟨hne, -, hid, htarget⟩
    · exact .inl ⟨_, .empty hdata⟩
    · exact .inl ⟨_, .garbled hdata hne hid htarget⟩

/-- A chain that has come to a name that is text goes on to an event. `steps` is the number of names
that may still come before the chain has more of them than there can be. -/
theorem exists_ending_of_chain (steps : Nat) (hsteps : blobs.size + 2 ≤ path.length + steps)
    (hchain : Chain d blobs refs start path last) (hlast : Utf8.IsText last) :
    ∃ path' last' result, Chain d blobs refs start path' last' ∧
      Ending d blobs refs path' last' result := by
  induction steps generalizing path last with
  | zero =>
    -- the names before the last are too many for the blobs there are
    have hle := hchain.length_le
    omega
  | succ steps ih =>
    by_cases hmem : last ∈ path
    · exact ⟨path, last, _, hchain, .circle hmem⟩
    · rcases halts_or_points hlast with ⟨result, hr⟩ | ⟨target, hpoints⟩
      · exact ⟨path, last, result, hchain, .halts hmem hr⟩
      · refine ih ?_ (hchain.step hmem hpoints) (Ref.isText_of_isName hpoints.isName)
        rw [List.length_append, List.length_singleton]
        omega

/-- **From every name that is text there is a chain that ends.** -/
theorem exists_ending (d : Database) (blobs : Dict String Bytes) (refs : Refs)
    (hname : Utf8.IsText name) :
    ∃ path last result, Chain d blobs refs name path last ∧
      Ending d blobs refs path last result :=
  exists_ending_of_chain (blobs.size + 2) (by omega) (.singleton d blobs refs name) hname

end Scan

end BlobRemote
