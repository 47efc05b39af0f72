import Mathlib
import BlobRemote.Data.Names

/-!
# Which names a listing holds

The names below a directory are exactly what has to be put behind the directory and a slash to make
one of the names (`BlobRemote.Names.mem_below_iff`), and each of them is there once.
-/

namespace BlobRemote

namespace Names

theorem mem_ofList_iff {n : String} {names : List String} : n ∈ ofList names ↔ n ∈ names := by
  rw [ofList]
  induction hlen : names.length using Nat.strong_induction_on generalizing names with
  | h k ih =>
    cases names with
    | nil => simp
    | cons m names =>
      have hlt : (names.filter fun b => !b == m).length < k := by
        have := List.length_filter_le (fun b => !b == m) names
        rw [List.length_cons] at hlen
        omega
      rw [List.eraseDups_cons, List.mem_cons, List.mem_cons, ih _ hlt rfl, List.mem_filter]
      by_cases hn : n = m <;> simp [hn]

theorem nodup_ofList (names : List String) : (ofList names).Nodup := by
  rw [ofList]
  induction hlen : names.length using Nat.strong_induction_on generalizing names with
  | h k ih =>
    cases names with
    | nil => simp
    | cons m names =>
      have hlt : (names.filter fun b => !b == m).length < k := by
        have := List.length_filter_le (fun b => !b == m) names
        rw [List.length_cons] at hlen
        omega
      rw [List.eraseDups_cons, List.nodup_cons]
      refine ⟨fun hm => ?_, ih _ hlt _ rfl⟩
      have := mem_ofList_iff.1 hm
      simp at this

/-- **A beginning is dropped** from the names that have it. -/
theorem after?_eq_some_iff {start name rest : String} :
    after? start name = some rest ↔ start ++ rest = name := by
  rw [after?]
  constructor
  · intro h
    split at h
    · next hp =>
      obtain ⟨t, ht⟩ := List.isPrefixOf_iff_prefix.1 hp
      cases h
      rw [← String.toList_inj, String.toList_append, String.toList_ofList, ← ht,
        ← String.length_toList, List.drop_left]
    · cases h
  · rintro rfl
    have hp : start.toList.isPrefixOf (start ++ rest).toList = true := by
      rw [List.isPrefixOf_iff_prefix, String.toList_append]
      exact List.prefix_append _ _
    rw [if_pos hp, String.toList_append, ← String.length_toList, List.drop_left,
      String.ofList_toList]

/-- **The names below a directory**: those that make a name behind it. -/
theorem mem_below_iff {directory n : String} {names : List String} :
    n ∈ below directory names ↔ directory ++ "/" ++ n ∈ names := by
  rw [below, mem_ofList_iff, List.mem_filterMap]
  constructor
  · rintro ⟨name, hname, h⟩
    rw [after?_eq_some_iff.1 h]
    exact hname
  · intro h
    exact ⟨_, h, after?_eq_some_iff.2 rfl⟩

theorem nodup_below (directory : String) (names : List String) : (below directory names).Nodup :=
  nodup_ofList _

end Names

end BlobRemote
