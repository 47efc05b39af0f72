import Mathlib
import BlobRemote.Proofs.Key

/-!
# Slashes around a key

One slash on either side of a path does not count (`BlobRemote.Key.normalize`). What is left is
normal, with no slash on either side, unless there were two of them
(`BlobRemote.Key.isNormal_normalize_iff`); and what is normal already is all that stays as it is
(`BlobRemote.Key.normalize_eq_self_iff`). So a path with more slashes around it is shortened each
time that it is normalised.
-/

namespace BlobRemote

namespace Key

/-- **A key in normal form** neither starts nor ends with a slash. -/
def IsNormal (key : String) : Prop :=
  key.toList.head? ≠ some '/' ∧ key.toList.getLast? ≠ some '/'

instance (key : String) : Decidable (IsNormal key) := inferInstanceAs (Decidable (_ ∧ _))

theorem toList_normalize (path : String) :
    (normalize path).toList = dropEndSlash (dropSlash path.toList) := String.toList_ofList

/-! ### At the beginning -/

theorem dropSlash_of_ne {path : List Char} (h : path.head? ≠ some '/') : dropSlash path = path := by
  fun_cases dropSlash path with
  | case1 => exact absurd rfl h
  | case2 => rfl

theorem dropSlash_suffix (path : List Char) : dropSlash path <:+ path := by
  fun_cases dropSlash path with
  | case1 rest => exact List.suffix_cons '/' rest
  | case2 => exact List.suffix_rfl

/-- **A slash is left at the beginning** where there were two. -/
theorem head?_dropSlash_iff {path : List Char} :
    (dropSlash path).head? = some '/' ↔ ['/', '/'] <+: path := by
  fun_cases dropSlash path with
  | case1 rest =>
    rw [List.cons_prefix_cons, and_iff_right rfl, List.head?_eq_some_iff]
    exact ⟨fun ⟨r, hr⟩ => ⟨r, hr.symm⟩, fun ⟨r, hr⟩ => ⟨r, hr.symm⟩⟩
  | case2 _ hslash =>
    constructor
    · intro h
      obtain ⟨rest, rfl⟩ := List.head?_eq_some_iff.1 h
      exact (hslash rest rfl).elim
    · rintro ⟨rest, rfl⟩
      exact (hslash _ rfl).elim

/-! ### At the end -/

/-- **A slash is left at the end** where there were two. -/
theorem getLast?_dropEndSlash_iff {path : List Char} :
    (dropEndSlash path).getLast? = some '/' ↔ ['/', '/'] <:+ path := by
  by_cases hlast : path.getLast? = some '/'
  · obtain ⟨init, rfl⟩ := List.getLast?_eq_some_iff.1 hlast
    rw [dropEndSlash, if_pos hlast, List.dropLast_concat, List.getLast?_eq_some_iff]
    constructor
    · rintro ⟨rest, rfl⟩
      exact ⟨rest, by simp⟩
    · rintro ⟨rest, hrest⟩
      have hends : rest ++ ['/'] ++ ['/'] = init ++ ['/'] := by
        rw [List.append_assoc]
        exact hrest
      exact ⟨rest, (List.append_cancel_right hends).symm⟩
  · rw [dropEndSlash_of_ne hlast]
    refine ⟨fun h => absurd h hlast, ?_⟩
    rintro ⟨rest, rfl⟩
    exact absurd (by simp) hlast

/-- Whether there are two slashes at the end is not changed at the beginning, unless these two are
all. -/
theorem suffix_dropSlash_iff {path : List Char} (h : dropSlash path ≠ ['/']) :
    ['/', '/'] <:+ dropSlash path ↔ ['/', '/'] <:+ path := by
  refine ⟨fun hs => hs.trans (dropSlash_suffix path), fun hs => ?_⟩
  fun_cases dropSlash path with
  | case1 rest =>
    rcases List.suffix_cons_iff.1 hs with hrest | hrest
    · exact absurd (List.cons_injective hrest).symm h
    · exact hrest
  | case2 => exact hs

theorem head?_dropEndSlash {path : List Char} (h : dropEndSlash path ≠ []) :
    (dropEndSlash path).head? = path.head? := by
  obtain ⟨rest, hrest⟩ := dropEndSlash_prefix path
  conv_rhs => rw [← hrest, List.head?_append_of_ne_nil _ h]

/-! ### On both sides -/

/-- **A path stays as it is** if it is in normal form, and only then. -/
theorem normalize_eq_self_iff {key : String} : normalize key = key ↔ IsNormal key := by
  rw [← String.toList_inj, toList_normalize]
  constructor
  · intro h
    -- nothing is taken off at the end, and therefore nothing at the beginning
    have hend := dropEndSlash_prefix (dropSlash key.toList)
    rw [h] at hend
    have hstart : dropSlash key.toList = key.toList :=
      (dropSlash_suffix _).eq_of_length_le hend.length_le
    rw [hstart] at h
    constructor
    · intro hhead
      obtain ⟨rest, hrest⟩ := List.head?_eq_some_iff.1 hhead
      rw [hrest] at hstart
      exact absurd hstart (by simp [dropSlash])
    · intro hlast
      obtain ⟨init, hinit⟩ := List.getLast?_eq_some_iff.1 hlast
      rw [dropEndSlash, if_pos hlast, hinit, List.dropLast_concat] at h
      exact absurd h (by simp)
  · rintro ⟨hhead, hlast⟩
    rw [dropSlash_of_ne hhead, dropEndSlash_of_ne hlast]

/-- A slash in front of a key in normal form is taken off again. -/
theorem normalize_slash {key : String} (h : IsNormal key) :
    normalize (String.ofList ('/' :: key.toList)) = key := by
  rw [← String.toList_inj, toList_normalize, String.toList_ofList]
  exact dropEndSlash_of_ne h.2

/-- **What is left is in normal form** if there is anything left and there was no more than one
slash on either side. -/
theorem isNormal_normalize_iff {path : String} (h : normalize path ≠ "") :
    IsNormal (normalize path) ↔ ¬ ['/', '/'] <+: path.toList ∧ ¬ ['/', '/'] <:+ path.toList := by
  have hne : dropEndSlash (dropSlash path.toList) ≠ [] := by
    rw [← toList_normalize]
    exact fun hnil => h (String.toList_eq_nil_iff.1 hnil)
  have hslash : dropSlash path.toList ≠ ['/'] := by
    intro hslash
    rw [hslash] at hne
    exact hne rfl
  rw [IsNormal, toList_normalize, head?_dropEndSlash hne, ne_eq, ne_eq, head?_dropSlash_iff,
    getLast?_dropEndSlash_iff, suffix_dropSlash_iff hslash]

end Key

end BlobRemote
