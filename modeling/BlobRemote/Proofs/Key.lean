import Mathlib
import BlobRemote.Key

/-!
# Which key a path has

A path is some markers `../` and what stands behind them. Each marker takes a segment off the base,
so the key of a path is what stands behind the markers below what is left of the base
(`BlobRemote.Key.eq_of_climb`), and there are at most as many markers as the base has segments. Two
paths with the same key may still differ in two ways: in the number of their markers, and in a slash
at the end that does not count. In nothing else (`BlobRemote.Key.resolve_injective`).
-/

namespace BlobRemote

namespace Key

/-! ### Markers -/

/-- The number of markers at the beginning of a path. -/
def climbs : List Char → Nat
  | '.' :: '.' :: '/' :: path => climbs path + 1
  | _ => 0

/-- What stands behind the markers. -/
def target : List Char → List Char
  | '.' :: '.' :: '/' :: path => target path
  | path => path

/-- A number of markers. -/
def markers : Nat → List Char
  | 0 => []
  | n + 1 => '.' :: '.' :: '/' :: markers n

/-- **A path is its markers and what stands behind them.** -/
theorem markers_append_target (path : List Char) : markers (climbs path) ++ target path = path := by
  fun_induction climbs path with
  | case1 path ih => rw [target, markers, List.cons_append, List.cons_append, List.cons_append, ih]
  | case2 path hpath =>
    rw [markers, List.nil_append, target]
    exact hpath

/-- A path that begins with no marker has none. -/
theorem climbs_eq_zero {path : List Char} (h : ¬ ['.', '.', '/'] <+: path) : climbs path = 0 := by
  rw [climbs.eq_def]
  split
  · next rest => exact absurd ⟨rest, rfl⟩ h
  · rfl

/-! ### Segments -/

theorem length_fields {α : Type} [DecidableEq α] (a : α) (l : List α) :
    (Cut.fields a l).length = l.count a + 1 := by
  induction l with
  | nil => rfl
  | cons x xs ih =>
    rw [Cut.fields]
    split
    · next hx => rw [List.length_cons, ih, hx, List.count_cons_self]
    · next hx =>
      rw [List.count_cons_of_ne hx, ← ih]
      cases hf : Cut.fields a xs with
      | nil => exact absurd hf (Cut.fields_ne_nil a xs)
      | cons f fs => rfl

/-- What is left of a key without its last segment has fewer segments, or nothing is left. -/
theorem parent_eq_nil_or (key : List Char) :
    parent key = [] ∨
      (Cut.fields '/' (parent key)).length + 1 ≤ (Cut.fields '/' key).length := by
  rw [parent]
  cases hcut : Cut.atLast '/' key with
  | none => exact Or.inl rfl
  | some cut =>
    refine Or.inr ?_
    obtain ⟨before, after⟩ := cut
    obtain ⟨rfl, -⟩ := Cut.eq_of_atLast hcut
    rw [length_fields, length_fields, List.count_append, List.count_cons_self]
    change before.count '/' + 1 + 1 ≤ _
    omega

/-- **The last segment of a key** is taken off it. -/
theorem parent_append_cons {segment : List Char} (h : '/' ∉ segment) (key : List Char) :
    parent (key ++ '/' :: segment) = key := by
  rw [parent, Cut.atLast_append_cons h]
  rfl

/-- **Where a path leads**: below what is left of the key, which has a segment for each marker. -/
theorem eq_of_climb {key path k : List Char} (h : climb key path = some k) :
    climbs path ≤ (if key = [] then 0 else (Cut.fields '/' key).length) ∧
      k = below (parent^[climbs path] key) (target path) := by
  fun_induction climb key path with
  | case1 path => cases h
  | case2 key path hkey ih =>
    obtain ⟨hle, hk⟩ := ih h
    rw [climbs, target, if_neg hkey]
    refine ⟨?_, ?_⟩
    · have hpos : 0 < (Cut.fields '/' key).length := by
        rw [length_fields]
        omega
      rcases parent_eq_nil_or key with hnil | hfields
      · rw [if_pos hnil] at hle
        omega
      · split at hle <;> omega
    · rw [Function.iterate_succ_apply]
      exact hk
  | case3 key path hpath =>
    cases h
    have hclimbs : climbs path = 0 := by
      rw [climbs]
      exact hpath
    have htarget : target path = path := by
      rw [target]
      exact hpath
    rw [hclimbs, htarget]
    exact ⟨Nat.zero_le _, rfl⟩

theorem below_injective {key path path' : List Char} (h : below key path = below key path') :
    path = path' := by
  rw [below, below] at h
  split at h
  · exact h
  · rw [List.append_cancel_left_eq, List.cons.injEq] at h
    exact h.2

/-- **Paths with as many markers lead to different keys.** -/
theorem climb_injective {key path path' k : List Char} (h : climb key path = some k)
    (h' : climb key path' = some k) (hclimbs : climbs path = climbs path') : path = path' := by
  obtain ⟨-, hk⟩ := eq_of_climb h
  obtain ⟨-, hk'⟩ := eq_of_climb h'
  rw [hclimbs] at hk
  have htarget : target path = target path' := below_injective (hk.symm.trans hk')
  rw [← markers_append_target path, ← markers_append_target path', hclimbs, htarget]

/-! ### Slashes at the end -/

theorem dropEndSlash_of_ne {path : List Char} (h : path.getLast? ≠ some '/') :
    dropEndSlash path = path := if_neg h

theorem dropEndSlash_prefix (path : List Char) : dropEndSlash path <+: path := by
  rw [dropEndSlash]
  split
  · exact List.dropLast_prefix path
  · exact List.prefix_rfl

theorem dropEndSlash_injective {path path' : List Char} (h : dropEndSlash path = dropEndSlash path')
    (hlast : path.getLast? = some '/' ↔ path'.getLast? = some '/') : path = path' := by
  rw [dropEndSlash, dropEndSlash] at h
  by_cases hslash : path.getLast? = some '/'
  · have hslash' := hlast.1 hslash
    rw [if_pos hslash, if_pos hslash'] at h
    rw [← List.dropLast_append_getLast? _ hslash, ← List.dropLast_append_getLast? _ hslash', h]
  · rw [if_neg hslash, if_neg fun hslash' => hslash (hlast.2 hslash')] at h
    exact h

/-- A slash at the end is not the first character of a path that begins with another one. -/
theorem exists_dropEndSlash_cons {c : Char} (hslash : c ≠ '/') (rest : List Char) :
    ∃ rest', dropEndSlash (c :: rest) = c :: rest' := by
  rw [dropEndSlash]
  split
  · next hlast =>
    cases rest with
    | nil => exact absurd (Option.some.inj hlast) hslash
    | cons b bs => exact ⟨_, List.dropLast_cons_cons⟩
  · exact ⟨rest, rfl⟩

theorem dropEndSlash_marker (c : Char) (rest : List Char) :
    dropEndSlash ('.' :: '.' :: '/' :: c :: rest) =
      '.' :: '.' :: '/' :: dropEndSlash (c :: rest) := by
  rw [dropEndSlash, dropEndSlash, List.getLast?_cons_cons, List.getLast?_cons_cons,
    List.getLast?_cons_cons]
  split
  · rfl
  · rfl

/-! ### Keys -/

theorem resolve_eq_ok_iff {base path key : String} :
    resolve base path = .ok key ↔
      climb base.toList (dropEndSlash path.toList) = some key.toList := by
  rw [resolve]
  cases climb base.toList (dropEndSlash path.toList) with
  | none =>
    constructor
    · intro h
      cases h
    · intro h
      cases h
  | some k =>
    rw [Except.ok.injEq, Option.some.injEq, ← String.toList_inj, String.toList_ofList]

/-- **Two paths of a key** are the same if they have as many markers and both or neither of them
end in a slash. -/
theorem resolve_injective {base path path' key : String} (h : resolve base path = .ok key)
    (h' : resolve base path' = .ok key)
    (hclimbs : climbs (dropEndSlash path.toList) = climbs (dropEndSlash path'.toList))
    (hlast : path.toList.getLast? = some '/' ↔ path'.toList.getLast? = some '/') : path = path' := by
  rw [resolve_eq_ok_iff] at h h'
  exact String.toList_inj.1 (dropEndSlash_injective (climb_injective h h' hclimbs) hlast)

/-- A path that leads to a key climbs at most as far as its base has segments. -/
theorem climbs_le_of_resolve {base path key : String} (h : resolve base path = .ok key) :
    climbs (dropEndSlash path.toList) ≤ (Cut.fields '/' base.toList).length := by
  obtain ⟨hle, -⟩ := eq_of_climb (resolve_eq_ok_iff.1 h)
  split at hle
  · exact hle.trans (Nat.zero_le _)
  · exact hle

/-- **What begins with no marker** stays where it is. -/
theorem climb_of_not_prefix {path : List Char} (h : ¬ ['.', '.', '/'] <+: path) (key : List Char) :
    climb key path = some (below key path) := by
  rw [climb.eq_def]
  split
  · next rest => exact absurd ⟨rest, rfl⟩ h
  · rfl

theorem climb_of_ne {c : Char} (hdot : c ≠ '.') (key rest : List Char) :
    climb key (c :: rest) = some (below key (c :: rest)) := by
  refine climb_of_not_prefix ?_ key
  rintro ⟨behind, he⟩
  exact hdot (List.cons.inj he).1.symm

theorem below_append (key path path' : List Char) :
    below key (path ++ path') = below key path ++ path' := by
  rw [below, below]
  split
  · rfl
  · rw [← List.cons_append, List.append_assoc]

/-- **A file in a directory** has as its key that of the directory, a slash and its name. -/
theorem exists_resolve_file (directory name : String) {c : Char} {rest : List Char}
    (hdirectory : directory.toList = c :: rest) (hdot : c ≠ '.')
    (hend : directory.toList.getLast? ≠ some '/') (hname : name ≠ "")
    (hlast : name.toList.getLast? ≠ some '/') (base : String) :
    ∃ key, resolve base directory = .ok key ∧
      resolve base (directory ++ "/" ++ name) = .ok (key ++ "/" ++ name) := by
  have hpath : (directory ++ "/" ++ name).toList = c :: (rest ++ '/' :: name.toList) := by
    rw [String.toList_append, String.toList_append, hdirectory]
    exact List.append_assoc ..
  have hslash : (c :: (rest ++ '/' :: name.toList)).getLast? ≠ some '/' := by
    rw [← List.cons_append, List.getLast?_append_cons, List.getLast?_cons_of_ne_nil]
    · exact hlast
    · exact fun h => hname (String.toList_eq_nil_iff.1 h)
  refine ⟨String.ofList (below base.toList (c :: rest)), ?_, ?_⟩
  · rw [resolve_eq_ok_iff, dropEndSlash_of_ne hend, hdirectory, climb_of_ne hdot,
      String.toList_ofList]
  · rw [resolve_eq_ok_iff, hpath, dropEndSlash_of_ne hslash, climb_of_ne hdot, String.toList_append,
      String.toList_append, String.toList_ofList, List.append_assoc, ← below_append]
    rfl

/-- **A path with one marker** leads next to the base, unless the base is the root of the bucket. -/
theorem resolve_marker {base text : String} {c : Char} {rest : List Char}
    (htext : text.toList = c :: rest) (hdot : c ≠ '.') (hslash : c ≠ '/') :
    resolve base ("../" ++ text) =
      if base.toList = [] then .error ⟨base, "../" ++ text⟩
      else .ok (String.ofList (below (parent base.toList) (dropEndSlash (c :: rest)))) := by
  have hpath : ("../" ++ text).toList = '.' :: '.' :: '/' :: c :: rest := by
    rw [String.toList_append, htext]
    rfl
  obtain ⟨rest', hrest⟩ := exists_dropEndSlash_cons hslash rest
  rw [resolve, hpath, dropEndSlash_marker, hrest, climb]
  by_cases hbase : base.toList = []
  · rw [if_pos hbase, if_pos hbase]
  · rw [if_neg hbase, if_neg hbase, climb_of_ne hdot]

end Key

end BlobRemote
