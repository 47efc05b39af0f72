import Mathlib
import BlobRemote.Proofs.Ref.Success

/-!
# Where the blobs of references are

A name that begins with neither a dot nor a slash (`BlobRemote.Scan.IsPlain`) climbs nowhere: its
blob is next to the directory of objects, at a key that ends as the name does. So the keys of the
listed references, of the current branch and of the file of packed references are told apart by the
first character of the name, and the key of a listed reference is the key that was listed.
-/

namespace BlobRemote

namespace Scan

variable {d : Database} {text text' key : String}

/-! ### Plain names -/

/-- A name that begins with neither a dot nor a slash. -/
def IsPlain (text : String) : Prop :=
  ∃ c rest, text.toList = c :: rest ∧ c ≠ '.' ∧ c ≠ '/'

theorem isPlain_append {start : String} (h : IsPlain start) (more : String) :
    IsPlain (start ++ more) := by
  obtain ⟨c, rest, hstart, hc⟩ := h
  refine ⟨c, rest ++ more.toList, ?_, hc⟩
  rw [String.toList_append, hstart, List.cons_append]

theorem isPlain_refs : IsPlain "refs" := ⟨'r', _, rfl, by decide, by decide⟩

theorem isPlain_listed (n : String) : IsPlain ("refs/" ++ n) :=
  isPlain_append ⟨'r', _, rfl, by decide, by decide⟩ n

theorem isPlain_head : IsPlain "HEAD" := ⟨'H', _, rfl, by decide, by decide⟩

theorem isPlain_packed : IsPlain "packed-refs" := ⟨'p', _, rfl, by decide, by decide⟩

/-- **The blob of a plain name** is next to the directory of objects. -/
theorem keyOf_plain (h : IsPlain text) :
    keyOf d (Utf8.encodeText text) =
      if d.objectsKey.toList = [] then none
      else some (String.ofList
        (Key.below (Key.parent d.objectsKey.toList) (Key.dropEndSlash text.toList))) := by
  obtain ⟨c, rest, htext, hdot, hslash⟩ := h
  rw [keyOf, Utf8.decodeText_encodeText]
  dsimp only
  rw [Database.refPath, Key.resolve_marker htext hdot hslash, htext]
  split <;> rfl

theorem toList_of_keyOf_plain (h : IsPlain text) (hkey : keyOf d (Utf8.encodeText text) = some key) :
    key.toList = Key.below (Key.parent d.objectsKey.toList) (Key.dropEndSlash text.toList) := by
  rw [keyOf_plain h] at hkey
  split at hkey
  · cases hkey
  · cases hkey
    exact String.toList_ofList

/-- **Plain names with one key** differ at most in a slash at the end. -/
theorem dropEndSlash_eq_of_keyOf (h : IsPlain text) (h' : IsPlain text')
    (hkey : keyOf d (Utf8.encodeText text) = some key)
    (hkey' : keyOf d (Utf8.encodeText text') = some key) :
    Key.dropEndSlash text.toList = Key.dropEndSlash text'.toList :=
  Key.below_injective
    ((toList_of_keyOf_plain h hkey).symm.trans (toList_of_keyOf_plain h' hkey'))

/-- **Plain names that begin differently** have different keys. -/
theorem head?_eq_of_keyOf (h : IsPlain text) (h' : IsPlain text')
    (hkey : keyOf d (Utf8.encodeText text) = some key)
    (hkey' : keyOf d (Utf8.encodeText text') = some key) :
    text.toList.head? = text'.toList.head? := by
  have hdrop := dropEndSlash_eq_of_keyOf h h' hkey hkey'
  obtain ⟨c, rest, htext, -, hslash⟩ := h
  obtain ⟨c', rest', htext', -, hslash'⟩ := h'
  obtain ⟨more, hmore⟩ := Key.exists_dropEndSlash_cons hslash rest
  obtain ⟨more', hmore'⟩ := Key.exists_dropEndSlash_cons hslash' rest'
  rw [htext, htext', hmore, hmore', List.cons.injEq] at hdrop
  rw [htext, htext', List.head?_cons, List.head?_cons, hdrop.1]

/-- The current branch has a blob of its own. -/
theorem keyOf_headName_ne (n : String) (hkey : keyOf d headName = some key) :
    keyOf d (listedName n) ≠ some key := by
  intro hlisted
  have hhead := head?_eq_of_keyOf isPlain_head (isPlain_listed n) hkey hlisted
  rw [String.toList_append] at hhead
  exact absurd (Option.some.inj hhead) (by decide)

/-- The file of packed references is not the blob of a listed reference. -/
theorem keyOf_packedName_ne (n : String) (hkey : keyOf d packedName = some key) :
    keyOf d (listedName n) ≠ some key := by
  intro hlisted
  have hhead := head?_eq_of_keyOf isPlain_packed (isPlain_listed n) hkey hlisted
  rw [String.toList_append] at hhead
  exact absurd (Option.some.inj hhead) (by decide)

/-- The file of packed references is not the blob of the current branch. -/
theorem keyOf_packedName_ne_headName (hkey : keyOf d packedName = some key) :
    keyOf d headName ≠ some key := by
  intro hhead
  exact absurd (Option.some.inj (head?_eq_of_keyOf isPlain_packed isPlain_head hkey hhead))
    (by decide)

/-! ### Listed names -/

variable {s : Session Memory} {directory n : String}

/-- What is listed is listed below the directory of references. -/
theorem toList_listed (hdirectory : Key.resolve d.objectsKey refsPath = .ok directory) (n : String) :
    d.objectsKey.toList ≠ [] ∧
      (directory ++ "/" ++ n).toList =
        Key.below (Key.parent d.objectsKey.toList) ("refs/" ++ n).toList := by
  have hrefs : keyOf d (Utf8.encodeText "refs") = some directory := by
    have hpath : Database.refPath "refs" = refsPath := by decide +kernel
    refine keyOf_eq_some_iff.2 ⟨"refs", rfl, ?_⟩
    rw [hpath, hdirectory]
  refine ⟨?_, ?_⟩
  · intro hnil
    rw [keyOf_plain isPlain_refs, if_pos hnil] at hrefs
    cases hrefs
  · rw [String.toList_append, String.toList_append, String.toList_append,
      toList_of_keyOf_plain isPlain_refs hrefs]
    show Key.below _ ['r', 'e', 'f', 's'] ++ ['/'] ++ n.toList =
      Key.below _ ('r' :: 'e' :: 'f' :: 's' :: '/' :: n.toList)
    rw [Key.below, Key.below]
    split
    · rfl
    · rw [List.append_assoc, List.append_assoc]
      rfl

/-- **The key of a listed reference** is the one that was listed, unless a slash is at its end. -/
theorem keyOf_listedName (hdirectory : Key.resolve d.objectsKey refsPath = .ok directory)
    (hslash : ("refs/" ++ n).toList.getLast? ≠ some '/') :
    keyOf d (listedName n) = some (directory ++ "/" ++ n) := by
  obtain ⟨hbase, hlisted⟩ := toList_listed hdirectory n
  rw [listedName, keyOf_plain (isPlain_listed n), if_neg hbase, Option.some.injEq,
    ← String.toList_inj, String.toList_ofList, Key.dropEndSlash_of_ne hslash, hlisted]

/-- The file of packed references is not listed. -/
theorem packed_ne_listed (hdirectory : Key.resolve d.objectsKey refsPath = .ok directory)
    (hkey : keyOf d packedName = some key) (n : String) : key ≠ directory ++ "/" ++ n := by
  rintro rfl
  have hpacked := toList_of_keyOf_plain isPlain_packed hkey
  rw [(toList_listed hdirectory n).2, String.toList_append] at hpacked
  exact absurd (List.cons.inj (Key.below_injective hpacked)).1 (by decide)

/-- **A name below `refs/` that has a key** is one that could be listed. -/
theorem exists_listedName {name : Bytes} (hbelow : Utf8.encodeText "refs/" <+: name)
    (hkey : keyOf d name = some key) : ∃ n, name = listedName n := by
  obtain ⟨rest, rfl⟩ := hbelow
  obtain ⟨text, htext, -⟩ := keyOf_eq_some_iff.1 hkey
  obtain ⟨n, rfl⟩ := Utf8.decodeText_append (Utf8.decodeText_eq_ok_iff.2 htext.symm)
  exact ⟨n, htext⟩

/-- A name that is not empty and has no slash at its end has none behind the directory either. -/
theorem getLast?_refs_append (hn : n ≠ "") (hslash : n.toList.getLast? ≠ some '/') :
    ("refs/" ++ n).toList.getLast? ≠ some '/' := by
  have hne : n.toList ≠ [] := by
    intro hnil
    exact hn (String.toList_inj.1 hnil)
  obtain ⟨c, hc⟩ := Option.ne_none_iff_exists'.1 (mt List.getLast?_eq_none_iff.1 hne)
  rw [String.toList_append, List.getLast?_append, hc, Option.some_or, ← hc]
  exact hslash

/-- The bytes of a name end in a slash if its text does. -/
theorem getLast?_encodeText (h : (Utf8.encodeText text).getLast? ≠ some 0x2F) :
    text.toList.getLast? ≠ some '/' := by
  intro hslash
  obtain ⟨start, hstart⟩ := List.getLast?_eq_some_iff.1 hslash
  refine h ?_
  have hbyte : Utf8.encode ['/'] = [0x2F] := by decide +kernel
  rw [Utf8.encodeText, hstart, Utf8.encode_append, hbyte]
  exact List.getLast?_concat

theorem mem_listedNames_iff {name : Bytes}
    (hdirectory : Key.resolve d.objectsKey refsPath = .ok directory) :
    name ∈ listedNames d s ↔
      ∃ n ∈ s.store.list s.remote.bucket directory, listedName n = name := by
  rw [listedNames, hdirectory]
  dsimp only
  rw [List.mem_map]
  have hperm : (Names.sorted (s.store.list s.remote.bucket directory)).Perm
      (s.store.list s.remote.bucket directory) := List.mergeSort_perm _ _
  constructor
  · rintro ⟨n, hn, hname⟩
    exact ⟨n, hperm.mem_iff.1 hn, hname⟩
  · rintro ⟨n, hn, hname⟩
    exact ⟨n, hperm.mem_iff.2 hn, hname⟩

theorem exists_of_mem_listedNames {name : Bytes} (h : name ∈ listedNames d s) :
    ∃ n, listedName n = name := by
  rw [listedNames] at h
  split at h
  · cases h
  · obtain ⟨n, -, hn⟩ := List.mem_map.1 h
    exact ⟨n, hn⟩

theorem mem_turns_iff {name : Bytes} :
    name ∈ turns d s ↔ name ∈ listedNames d s ∨ name = headName := by
  rw [turns, List.mem_append, List.mem_singleton]

end Scan

end BlobRemote
