import Mathlib
import BlobRemote.Manifest

/-!
# What tracking does to a manifest

Tracking and untracking a key change the entry of that key and no other, and a manifest that is
still clean afterwards is the one that it was. A manifest becomes dirty exactly when an entry
changes (`BlobRemote.Manifest.Edit.dirty_iff`), and stays dirty even if the entry changes back.
-/

namespace BlobRemote

namespace Manifest

variable (m : Manifest) (key k : String)

/-- **Tracking a key** files the version that the store told, if it told one. -/
theorem version?_track (version : Option String) :
    (m.track key version).version? k =
      if key = k then version.or (m.version? key) else m.version? k := by
  cases version with
  | none =>
    rw [track, Option.none_or]
    split
    · next h => rw [h]
    · rfl
  | some v =>
    rw [track, Option.some_or]
    split
    · next h =>
      split
      · next hk => rw [← hk, h]
      · rfl
    · exact Dict.get?_insert ..

/-- **Untracking a key** drops its entry. -/
theorem version?_untrack :
    (m.untrack key).version? k = if key = k then none else m.version? k := by
  rw [untrack]
  split
  · exact Dict.get?_erase ..
  · next h =>
    split
    · next hk =>
      rw [Dict.contains, Bool.not_eq_true, Option.isSome_eq_false_iff,
        Option.isNone_iff_eq_none] at h
      rw [← hk]
      exact h
    · rfl

/-- **An entry that changes makes the manifest dirty.** -/
theorem track_eq_of_clean {m : Manifest} {key : String} {version : Option String}
    (h : (m.track key version).dirty = false) : m.track key version = m := by
  cases version with
  | none => rfl
  | some v =>
    rw [track] at h ⊢
    split at h
    · next he => rw [if_pos he]
    · cases h

theorem untrack_eq_of_clean {m : Manifest} {key : String} (h : (m.untrack key).dirty = false) :
    m.untrack key = m := by
  rw [untrack] at h ⊢
  split at h
  · cases h
  · next he => rw [if_neg he]

/-! ### What makes a manifest dirty -/

/-- **What can become of a manifest** that is told of one key at the most. -/
inductive Edit : Manifest → Manifest → Prop where
  /-- Nothing happens. -/
  | idle (m : Manifest) : Edit m m
  /-- A key is tracked. -/
  | track (m : Manifest) (key : String) (version : Option String) : Edit m (m.track key version)
  /-- A key is untracked. -/
  | untrack (m : Manifest) (key : String) : Edit m (m.untrack key)

namespace Edit

variable {m m' : Manifest}

/-- A manifest that is still clean is the one that it was. -/
theorem eq_of_clean (h : Edit m m') (hd : m'.dirty = false) : m' = m := by
  cases h with
  | idle => rfl
  | track key version => exact track_eq_of_clean hd
  | untrack key => exact untrack_eq_of_clean hd

/-- **A manifest that has become dirty** has another entry than before. -/
theorem exists_changed (h : Edit m m') (hd : m.dirty = false) (hd' : m'.dirty = true) :
    ∃ key, m'.version? key ≠ m.version? key := by
  cases h with
  | idle => exact absurd (hd.symm.trans hd') (by decide)
  | track key version =>
    refine ⟨key, fun h => ?_⟩
    cases version with
    | none => exact absurd (hd.symm.trans hd') (by decide)
    | some v =>
      rw [version?_track, if_pos rfl, Option.some_or] at h
      rw [Manifest.track, if_pos h.symm, hd] at hd'
      cases hd'
  | untrack key =>
    refine ⟨key, fun h => ?_⟩
    rw [version?_untrack, if_pos rfl] at h
    have habsent : m.versions.contains key = false := by rw [Dict.contains, ← version?, ← h]; rfl
    rw [Manifest.untrack, if_neg (by rw [habsent]; decide), hd] at hd'
    cases hd'

/-- **What makes a manifest dirty** is an entry that changes, and nothing makes it clean again. -/
theorem dirty_iff (h : Edit m m') :
    m'.dirty = true ↔ m.dirty = true ∨ ∃ key, m'.version? key ≠ m.version? key := by
  constructor
  · intro hd'
    cases hd : m.dirty with
    | true => exact .inl rfl
    | false => exact .inr (h.exists_changed hd hd')
  · intro hor
    by_contra hclean
    rw [Bool.not_eq_true] at hclean
    obtain rfl := h.eq_of_clean hclean
    rcases hor with hd | ⟨key, hne⟩
    · rw [hclean] at hd
      cases hd
    · exact hne rfl

end Edit

end Manifest

end BlobRemote
