import Mathlib
import BlobRemote.Proofs.Key

/-!
# How far a path climbs

A base is made of segments, and each marker of a path takes the last one off. Where a path leads is
therefore a matter of two numbers, that of its markers and that of the segments
(`BlobRemote.Key.resolve_segments`): with fewer markers the path continues below the segments that are
left, with as many it continues at the root of the bucket, and with more it is refused.

The climb itself tells the root from a base by the empty text. That is sound because no segment is
empty: what is left of a base is the empty text only if no segment is left
(`BlobRemote.Key.joined_eq_nil_iff`).
-/

namespace BlobRemote

namespace Key

/-! ### Bases and their segments -/

/-- **A segment of a key**: a text that is not empty and holds no slash. -/
def IsSegment (segment : String) : Prop := segment ≠ "" ∧ '/' ∉ segment.toList

/-- The key that is made of segments, with a slash between any two. -/
def joined (segments : List String) : String := "/".intercalate segments

theorem toList_joined_concat {init : List String} (h : init ≠ []) (last : String) :
    (joined (init ++ [last])).toList = (joined init).toList ++ '/' :: last.toList := by
  rw [joined, String.intercalate_append_of_ne_nil h (List.cons_ne_nil last []),
    String.intercalate_singleton, String.toList_append, String.toList_append, List.append_assoc]
  rfl

variable {segments : List String}

theorem joined_eq_nil_iff (h : ∀ s ∈ segments, IsSegment s) :
    (joined segments).toList = [] ↔ segments = [] := by
  constructor
  · intro hnil
    rcases List.eq_nil_or_concat segments with rfl | ⟨init, last, rfl⟩
    · rfl
    · cases init with
      | nil => exact absurd (String.toList_eq_nil_iff.1 hnil) (h last (by simp)).1
      | cons s init =>
        rw [List.concat_eq_append, toList_joined_concat (List.cons_ne_nil s init)] at hnil
        exact absurd hnil (by simp)
  · rintro rfl
    rfl

/-- **Taking off a segment.** -/
theorem parent_joined (h : ∀ s ∈ segments, IsSegment s) :
    parent (joined segments).toList = (joined segments.dropLast).toList := by
  rcases List.eq_nil_or_concat segments with rfl | ⟨init, last, rfl⟩
  · rfl
  · have hlast : '/' ∉ last.toList := (h last (by simp)).2
    rw [List.concat_eq_append, List.dropLast_concat]
    cases init with
    | nil =>
      -- the only segment has no slash in front of it
      change parent last.toList = []
      rw [parent, Cut.atLast_eq_none_iff.2 hlast]
      rfl
    | cons s init => rw [toList_joined_concat (List.cons_ne_nil s init), parent_append_cons hlast]

/-! ### Markers and the rest -/

/-- **How a path is read**: as a number of markers and a rest that begins with none. One slash at
the end of the path does not count. -/
structure ReadAs (path : String) (count : Nat) (rest : String) : Prop where
  /-- The path is its markers and the rest. -/
  toList_eq : dropEndSlash path.toList = markers count ++ rest.toList
  /-- No marker is left. -/
  not_prefix : ¬ ['.', '.', '/'] <+: rest.toList

theorem not_prefix_target (path : List Char) : ¬ ['.', '.', '/'] <+: target path := by
  fun_induction target path with
  | case1 path ih => exact ih
  | case2 path hpath =>
    rintro ⟨rest, rfl⟩
    exact hpath rest rfl

theorem climbs_markers_append {rest : List Char} (h : ¬ ['.', '.', '/'] <+: rest) (count : Nat) :
    climbs (markers count ++ rest) = count := by
  induction count with
  | zero => exact climbs_eq_zero h
  | succ count ih => rw [markers, List.cons_append, List.cons_append, List.cons_append, climbs, ih]

/-- **A path is read in one way only.** -/
theorem existsUnique_readAs (path : String) :
    ∃! parts : Nat × String, ReadAs path parts.1 parts.2 := by
  refine ⟨⟨climbs (dropEndSlash path.toList), String.ofList (target (dropEndSlash path.toList))⟩,
    ⟨?_, ?_⟩, ?_⟩
  · rw [String.toList_ofList, markers_append_target]
  · rw [String.toList_ofList]
    exact not_prefix_target _
  · rintro ⟨count, rest⟩ ⟨hpath, hrest⟩
    have hcount : climbs (dropEndSlash path.toList) = count :=
      hpath ▸ climbs_markers_append hrest count
    have htarget : markers count ++ target (dropEndSlash path.toList) =
        markers count ++ rest.toList := by
      rw [← hpath, ← hcount, markers_append_target]
    rw [hcount, List.append_cancel_left htarget, String.ofList_toList]

/-! ### The climb -/

/-- **Each marker takes a segment off the base**, as long as there is one. -/
theorem climb_joined (h : ∀ s ∈ segments, IsSegment s) {rest : List Char}
    (hrest : ¬ ['.', '.', '/'] <+: rest) (count : Nat) :
    climb (joined segments).toList (markers count ++ rest) =
      if count ≤ segments.length then
        some (below (joined (segments.take (segments.length - count))).toList rest)
      else none := by
  induction count generalizing segments with
  | zero =>
    rw [if_pos (Nat.zero_le _), Nat.sub_zero, List.take_length]
    exact climb_of_not_prefix hrest _
  | succ count ih =>
    rw [markers, List.cons_append, List.cons_append, List.cons_append, climb]
    by_cases hnil : segments = []
    · rw [if_pos ((joined_eq_nil_iff h).2 hnil), if_neg (by simp [hnil])]
    · have hpos : 0 < segments.length := List.length_pos_iff.2 hnil
      have hinit : ∀ s ∈ segments.dropLast, IsSegment s := fun s hs => h s (List.dropLast_subset _ hs)
      have htake : segments.dropLast.take (segments.dropLast.length - count) =
          segments.take (segments.length - (count + 1)) := by
        rw [List.dropLast_eq_take, List.take_take, List.length_take]
        congr 1
        omega
      rw [if_neg fun hkey => hnil ((joined_eq_nil_iff h).1 hkey), parent_joined h, ih hinit, htake]
      refine if_congr ?_ rfl rfl
      rw [List.length_dropLast]
      omega

/-- **A path climbs one segment for each marker, and never above the root of the bucket.** A path is
read in one way as markers and a rest. With fewer markers than the base has segments, its key is the
segments that are left, a slash and the rest; with as many it is the rest alone; and the path is
refused, with the base and the path told, exactly if it has more. -/
theorem resolve_segments (h : ∀ s ∈ segments, IsSegment s) (path : String) :
    (∃! parts : Nat × String, ReadAs path parts.1 parts.2) ∧
      ∀ count rest, ReadAs path count rest →
        (count < segments.length →
          resolve (joined segments) path =
            .ok (joined (segments.take (segments.length - count)) ++ "/" ++ rest)) ∧
        (count = segments.length → resolve (joined segments) path = .ok rest) ∧
        ∀ refusal, resolve (joined segments) path = .error refusal ↔
          segments.length < count ∧ refusal = ⟨joined segments, path⟩ := by
  refine ⟨existsUnique_readAs path, fun count rest hread => ?_⟩
  have hclimb := climb_joined h hread.not_prefix count
  rw [← hread.toList_eq] at hclimb
  refine ⟨fun hlt => ?_, ?_, fun refusal => ?_⟩
  · have hleft : segments.take (segments.length - count) ≠ [] := by
      rw [← List.length_pos_iff, List.length_take]
      omega
    have hkey : (joined (segments.take (segments.length - count))).toList ≠ [] := fun hnil =>
      hleft ((joined_eq_nil_iff fun s hs => h s (List.mem_of_mem_take hs)).1 hnil)
    rw [if_pos hlt.le, below, if_neg hkey] at hclimb
    rw [resolve_eq_ok_iff, hclimb, String.toList_append, String.toList_append, List.append_assoc]
    rfl
  · rintro rfl
    rw [if_pos le_rfl, Nat.sub_self, List.take_zero] at hclimb
    exact resolve_eq_ok_iff.2 hclimb
  · rw [resolve, hclimb]
    split_ifs with hle
    · simp [hle]
    · simp [Nat.lt_of_not_le hle, eq_comm]

/-- A path that ends in a second marker without being one: the slash at its end does not count. -/
theorem resolve_segments_of_open_marker :
    (∀ s ∈ ["p", "objects"], IsSegment s) ∧ ReadAs "../../" 1 ".." ∧
      resolve "p/objects" "../../" = .ok "p/.." := by
  have hsegments : ∀ s ∈ ["p", "objects"], IsSegment s := by
    intro s hs
    rcases List.mem_pair.1 hs with rfl | rfl
    · exact ⟨by decide, by decide⟩
    · exact ⟨by decide, by decide⟩
  have hread : ReadAs "../../" 1 ".." := ⟨by decide, by decide⟩
  exact ⟨hsegments, hread, ((resolve_segments hsegments "../../").2 1 ".." hread).1 (by decide)⟩

end Key

end BlobRemote
