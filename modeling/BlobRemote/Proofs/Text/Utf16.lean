import Mathlib
import BlobRemote.Text.Utf16

/-!
# Folding what was cut into UTF-16 code units

A text that is cut into code units, character by character, is put together again by
`BlobRemote.Utf16.fold` (`BlobRemote.Utf16.fold_flatMap_units`). A character of the basic plane is
one unit, which is no surrogate, and any other one is a high surrogate and a low one.
-/

namespace BlobRemote

namespace Utf16

/-- The number of a character is a code point and no surrogate. -/
theorem toNat_cases (c : Char) : c.toNat < 0xD800 ∨ 0xE000 ≤ c.toNat ∧ c.toNat < 0x110000 := by
  have h := c.valid
  rw [UInt32.isValidChar, Nat.isValidChar] at h
  change c.val.toNat < 0xD800 ∨ 0xE000 ≤ c.val.toNat ∧ c.val.toNat < 0x110000
  omega

theorem fold_cons_of_plain {u : Nat} (hh : isHigh u = false) (hl : isLow u = false)
    (rest : List Nat) : fold (u :: rest) = (fold rest).map (Char.ofNat u :: ·) := by
  cases rest with
  | nil => simp [fold, hh, hl]
  | cons v rest => simp [fold, hh, hl]

theorem fold_cons_cons_of_pair {u v : Nat} (hu : isHigh u = true) (hv : isLow v = true)
    (rest : List Nat) : fold (u :: v :: rest) = (fold rest).map (pair u v :: ·) := by
  simp [fold, hu, hv]

/-- **The units of a character are folded into it**, whatever follows. -/
theorem fold_units_append (c : Char) (rest : List Nat) :
    fold (units c.toNat ++ rest) = (fold rest).map (c :: ·) := by
  have hc := toNat_cases c
  have hof : Char.ofNat c.toNat = c := Char.ofNat_toNat c
  by_cases h : c.toNat < 0x10000
  · have hh : isHigh c.toNat = false := by simp [isHigh]; omega
    have hl : isLow c.toNat = false := by simp [isLow]; omega
    rw [units, if_pos h, List.cons_append, List.nil_append, fold_cons_of_plain hh hl, hof]
  · have hh : isHigh (0xD800 + (c.toNat - 0x10000) / 0x400) = true := by simp [isHigh]; omega
    have hl : isLow (0xDC00 + (c.toNat - 0x10000) % 0x400) = true := by simp [isLow]; omega
    have hp : pair (0xD800 + (c.toNat - 0x10000) / 0x400)
        (0xDC00 + (c.toNat - 0x10000) % 0x400) = c := by
      rw [pair, Nat.add_sub_cancel_left, Nat.add_sub_cancel_left]
      refine (congrArg Char.ofNat ?_).trans hof
      omega
    rw [units, if_neg h, List.cons_append, List.cons_append, List.nil_append,
      fold_cons_cons_of_pair hh hl, hp]

/-- **Folding undoes cutting.** -/
theorem fold_flatMap_units (s : List Char) :
    fold (s.flatMap fun c => units c.toNat) = some s := by
  induction s with
  | nil => rfl
  | cons c s ih =>
    rw [List.flatMap_cons, fold_units_append, ih]
    rfl

/-- A unit is below `0x10000`. -/
theorem lt_of_mem_units {c : Char} {u : Nat} (h : u ∈ units c.toNat) : u < 0x10000 := by
  have hc := toNat_cases c
  rw [units] at h
  split at h
  · simp only [List.mem_singleton] at h
    omega
  · simp only [List.mem_cons, List.not_mem_nil, or_false] at h
    omega

/-- Below `0x10000` a number is its own unit. -/
theorem units_of_lt {u : Nat} (h : u < 0x10000) : units u = [u] := if_pos h

end Utf16

end BlobRemote
