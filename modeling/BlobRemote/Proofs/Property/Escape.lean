import Mathlib
import BlobRemote.Property.Escape
import BlobRemote.Proofs.Number.Hex
import BlobRemote.Proofs.Text.Utf16

/-!
# Escapes are read as what they were written for

A key or a value that the writer has escaped spells, for the reader, the text that it was made of
(`BlobRemote.Property.unescape_escapeKey`, `BlobRemote.Property.unescape_escapeValue`). Both sides
work one character at a time, the writer by appending what stands for the character, the reader by
taking a backslash and what belongs to it off the front, so the statements say what the reader makes
of a piece in front of a rest that it can read.
-/

namespace BlobRemote

namespace Property

open Number (upperDigit)

/-! ### One step of the reader -/

section Steps

variable {whole rest : List Char} {us : List Nat}

theorem unitsOf_cons {c : Char} (hc : c ≠ '\\') (h : unitsOf whole rest = .ok us) :
    unitsOf whole (c :: rest) = .ok (Utf16.units c.toNat ++ us) := by
  rw [unitsOf, h]
  · rfl
  all_goals
    intros
    contradiction

theorem unitsOf_slash {c : Char} (hc : c ≠ 'u') (h : unitsOf whole rest = .ok us) :
    unitsOf whole ('\\' :: c :: rest) = .ok (Utf16.units (ofShort c).toNat ++ us) := by
  rw [unitsOf, h]
  · rfl
  all_goals
    intros
    contradiction

theorem unitsOf_digits {a b c d : Char} {n : Nat} (hn : n < 0x10000)
    (hd : Number.readHex? [a, b, c, d] = some (n : Int)) (h : unitsOf whole rest = .ok us) :
    unitsOf whole ('\\' :: 'u' :: a :: b :: c :: d :: rest) = .ok (n :: us) := by
  have hu : escapedUnits [a, b, c, d] = .ok [n] := by
    have h0 : (0 : Int) ≤ (n : Int) ∧ (n : Int) < 0x110000 := by omega
    rw [escapedUnits, hd]
    simp only [if_pos h0, Int.toNat_natCast, Utf16.units_of_lt hn]
  rw [unitsOf, hu, h]
  rfl

end Steps

/-! ### Code units -/

theorem isHexDigit_upperDigit {n : Nat} (h : n < 16) :
    Number.isHexDigit (upperDigit n) = true ∧ Number.hexValue (upperDigit n) = n := by
  have key : ∀ n < 16, Number.isHexDigit (upperDigit n) = true ∧
      Number.hexValue (upperDigit n) = n := by decide +kernel
  exact key n h

/-- **The four digits of a unit** are read as its number. -/
theorem readHex?_upperDigits {u : Nat} (hu : u < 0x10000) :
    Number.readHex? [upperDigit (u / 0x1000 % 16), upperDigit (u / 0x100 % 16),
      upperDigit (u / 0x10 % 16), upperDigit (u % 16)] = some (u : Int) := by
  obtain ⟨ha, va⟩ := isHexDigit_upperDigit (Nat.mod_lt (u / 0x1000) (by decide : 0 < 16))
  obtain ⟨hb, vb⟩ := isHexDigit_upperDigit (Nat.mod_lt (u / 0x100) (by decide : 0 < 16))
  obtain ⟨hc, vc⟩ := isHexDigit_upperDigit (Nat.mod_lt (u / 0x10) (by decide : 0 < 16))
  obtain ⟨hd, vd⟩ := isHexDigit_upperDigit (Nat.mod_lt u (by decide : 0 < 16))
  rw [Number.readHex?_of_isHexDigit ha hb hc hd, Number.ofDigits_four, va, vb, vc, vd]
  refine congrArg (fun n : Nat => some (n : Int)) ?_
  omega

theorem unitsOf_escapeUnits {whole rest : List Char} {us : List Nat} {vs : List Nat}
    (hv : ∀ v ∈ vs, v < 0x10000) (h : unitsOf whole rest = .ok us) :
    unitsOf whole (vs.flatMap escapeUnit ++ rest) = .ok (vs ++ us) := by
  induction vs with
  | nil => exact h
  | cons v vs ih =>
    -- the digits of `v` are taken off the front, and what is left is the case of `vs`
    have hlt : v < 0x10000 := hv v (by simp)
    rw [List.flatMap_cons, List.append_assoc]
    exact unitsOf_digits hlt (readHex?_upperDigits hlt) (ih fun w hw => hv w (by simp [hw]))

/-! ### Characters -/

theorem short?_eq_some {c letter : Char} (h : short? c = some letter) :
    letter ≠ 'u' ∧ ofShort letter = c := by
  unfold short? at h
  repeat' split at h
  all_goals cases h
  all_goals
    subst_vars
    decide

theorem ofShort_of_isSpecial {c : Char} (h : isSpecial c = true) : c ≠ 'u' ∧ ofShort c = c := by
  simp only [isSpecial, Bool.or_eq_true, beq_iff_eq] at h
  rcases h with (((rfl | rfl) | rfl) | rfl) | rfl <;> decide

/-- **What stands for a character is read as that character.** -/
theorem unitsOf_escapeChar {whole rest : List Char} {us : List Nat} (c : Char)
    (h : unitsOf whole rest = .ok us) :
    unitsOf whole (escapeChar c ++ rest) = .ok (Utf16.units c.toNat ++ us) := by
  unfold escapeChar
  split
  · next letter hletter =>
    obtain ⟨hu, hof⟩ := short?_eq_some hletter
    rw [List.cons_append, List.cons_append, List.nil_append, unitsOf_slash hu h, hof]
  · split
    · next hspecial =>
      obtain ⟨hu, hof⟩ := ofShort_of_isSpecial hspecial
      rw [List.cons_append, List.cons_append, List.nil_append, unitsOf_slash hu h, hof]
    · next hspecial =>
      have hslash : c ≠ '\\' := fun he => hspecial (by subst he; rfl)
      split
      · exact unitsOf_cons hslash h
      · exact unitsOf_escapeUnits (fun v => Utf16.lt_of_mem_units) h

theorem unitsOf_blank {whole rest : List Char} {us : List Nat} (h : unitsOf whole rest = .ok us) :
    unitsOf whole ('\\' :: ' ' :: rest) = .ok (Utf16.units ' '.toNat ++ us) :=
  unitsOf_slash (by decide) h

/-! ### Keys and values -/

theorem unitsOf_escapeKey (whole s : List Char) :
    unitsOf whole (escapeKey s) = .ok (s.flatMap fun c => Utf16.units c.toNat) := by
  induction s with
  | nil => rfl
  | cons c s ih =>
    rw [escapeKey, List.flatMap_cons, List.flatMap_cons]
    split
    · next hc =>
      subst hc
      exact unitsOf_blank ih
    · exact unitsOf_escapeChar c ih

theorem unitsOf_escapeInner (whole s : List Char) :
    unitsOf whole (escapeInner s) = .ok (s.flatMap fun c => Utf16.units c.toNat) := by
  induction s with
  | nil => rfl
  | cons c s ih =>
    rw [escapeInner, List.flatMap_cons, List.flatMap_cons]
    split
    · next hc =>
      subst hc
      exact unitsOf_cons (by decide) ih
    · exact unitsOf_escapeChar c ih

theorem unitsOf_escapeValue (whole s : List Char) :
    unitsOf whole (escapeValue s) = .ok (s.flatMap fun c => Utf16.units c.toNat) := by
  unfold escapeValue
  split
  · next rest =>
    -- only the first blank of a value has a backslash
    rw [List.flatMap_cons]
    exact unitsOf_blank (unitsOf_escapeInner whole rest)
  · exact unitsOf_escapeInner whole s

theorem unescape_of_unitsOf {s t : List Char}
    (h : unitsOf s s = .ok (t.flatMap fun c => Utf16.units c.toNat)) : unescape s = .ok t := by
  rw [unescape, h]
  simp only [Utf16.fold_flatMap_units]

/-- **An escaped key spells the key.** -/
theorem unescape_escapeKey (s : List Char) : unescape (escapeKey s) = .ok s :=
  unescape_of_unitsOf (unitsOf_escapeKey _ s)

/-- **An escaped value spells the value.** -/
theorem unescape_escapeValue (s : List Char) : unescape (escapeValue s) = .ok s :=
  unescape_of_unitsOf (unitsOf_escapeValue _ s)

end Property

end BlobRemote
