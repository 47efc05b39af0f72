import Mathlib
import BlobRemote.Proofs.Number.Hex
import BlobRemote.Proofs.Property.Layout

/-!
# No escape is cut in two

A file is cut three times before an escape in it is decoded: into natural lines, of which the
continued ones lose the backslash at their end, then at the end of the key, and once more where the
value begins. None of these cuts falls between a backslash and the character behind it. Logical
lines end in an even number of backslashes, the last one too if the file ends where a line is
continued; that makes them paired (`BlobRemote.Property.paired_iff_even`), and the key and the value
of a paired line are paired (`BlobRemote.Property.paired_splitLine`).

The decoder takes a backslash with nothing behind it for itself. What it makes of such a stray
backslash is nothing that a file can show (`BlobRemote.Property.even_of_mem_logicalLines`): a
decoder that makes something else of it (`BlobRemote.Property.unitsOfWith`) decodes every key and
every value alike. That takes more than pairs, because behind `\u` four characters are taken at
once, and backslashes may be among them; but then they are no number, and decoding ends there.
-/

namespace BlobRemote

namespace Property

/-! ### Lines -/

/-- **Logical lines are whole**, if what is kept at the beginning is: a line is closed when it does
not go on, and what is kept of one that goes on is whole. -/
theorem continues_of_mem_logicalFrom {pending : Option (List Char)} (h : Whole pending)
    {lines : List (List Char)} {line : List Char} (hline : line ∈ logicalFrom pending lines) :
    continues line = false := by
  induction lines generalizing pending with
  | nil =>
    -- the file ends, and with it a logical line that is still open
    cases pending with
    | none => cases hline
    | some begun =>
      obtain rfl := List.mem_singleton.1 hline
      exact h line rfl
  | cons raw rest ih =>
    rw [logicalFrom_cons] at hline
    rcases List.mem_append.1 hline with hline | hline
    · rw [advance] at hline
      split at hline
      · cases hline
      · split at hline
        · cases hline
        · next hcont =>
          obtain rfl := List.mem_singleton.1 hline
          simpa using hcont
    · exact ih (isSome_advance h raw).1 hline

/-! ### Keys and values -/

section Splitting

variable {p : Char → Prop} {s : List Char}

/-- **The key and what follows it** are paired, if the line is. -/
theorem paired_splitKey (h : Paired p s) :
    Paired IsInKey (splitKey s).1 ∧ Paired p (splitKey s).2 := by
  induction h with
  | nil => exact ⟨.nil, .nil⟩
  | escape c _ ih => exact ⟨ih.1.escape c, ih.2⟩
  | @plain c s hc hp hs ih =>
    by_cases hends : isSeparator c = true ∨ isBlank c = true
    · rw [splitKey_of_ends hends]
      exact ⟨.nil, hs.plain hc hp⟩
    · rw [not_or, Bool.not_eq_true, Bool.not_eq_true] at hends
      have hkey : Paired IsInKey [c] := .plain hc ⟨hends.2, hends.1⟩ .nil
      rw [← List.singleton_append, splitKey_append hkey]
      exact ⟨hkey.append ih.1, ih.2⟩

theorem Paired.of_cons {c : Char} (hc : c ≠ '\\') (h : Paired p (c :: s)) : Paired p s := by
  cases h with
  | escape => exact absurd rfl hc
  | plain _ _ hs => exact hs

theorem Paired.of_escape {c : Char} (h : Paired p ('\\' :: c :: s)) : Paired p s := by
  cases h with
  | escape _ hs => exact hs
  | plain hslash => exact absurd rfl hslash

/-- Blanks at the front can be taken off a paired text. -/
theorem Paired.dropWhile_isBlank (h : Paired p s) : Paired p (s.dropWhile isBlank) := by
  induction s with
  | nil => exact h
  | cons c s ih =>
    rw [List.dropWhile_cons]
    split
    · next hc => exact ih (h.of_cons (plain_of_isBlank hc).2)
    · exact h

theorem paired_afterSeparator (h : Paired p s) : Paired p (afterSeparator s) := by
  have hdrop := h.dropWhile_isBlank
  rw [afterSeparator]
  cases hs : s.dropWhile isBlank with
  | nil => exact .nil
  | cons c rest =>
    rw [hs] at hdrop
    dsimp only
    split
    · next hc =>
      have hslash : c ≠ '\\' := by
        rintro rfl
        exact absurd hc (by decide)
      exact (hdrop.of_cons hslash).dropWhile_isBlank
    · exact hdrop

/-- **The key and the value of a paired line** are paired. -/
theorem paired_splitLine (h : Paired p s) :
    Paired IsInKey (splitLine s).1 ∧ Paired p (splitLine s).2 :=
  ⟨(paired_splitKey h).1, paired_afterSeparator (paired_splitKey h).2⟩

end Splitting

/-! ### Decoding -/

/-- The code units that a text spells for a decoder that makes `stray` of a backslash with nothing
behind it. -/
def unitsOfWith (stray : Except Fault (List Nat)) (whole : List Char) :
    List Char → Except Fault (List Nat)
  | [] => .ok []
  | ['\\'] => stray
  | '\\' :: 'u' :: a :: b :: c :: d :: rest =>
    (escapedUnits [a, b, c, d]).bind fun units => (unitsOfWith stray whole rest).map (units ++ ·)
  | '\\' :: 'u' :: _ => .error (.shortEscape (String.ofList whole))
  | '\\' :: c :: rest =>
    (unitsOfWith stray whole rest).map (Utf16.units (ofShort c).toNat ++ ·)
  | c :: rest => (unitsOfWith stray whole rest).map (Utf16.units c.toNat ++ ·)

theorem notMem_of_escapedUnits {digits : List Char} {units : List Nat}
    (h : escapedUnits digits = .ok units) : '\\' ∉ digits := by
  intro hmem
  rw [escapedUnits] at h
  split at h
  · cases h
  · next n hread =>
    exact absurd (Number.isHexDigit_of_mem hread hmem (by decide) (by decide) (by decide))
      (by decide)

/-- **A stray backslash is not met in a paired text.** Everywhere else the decoder is the one that
takes it for itself. -/
theorem unitsOfWith_eq {stray : Except Fault (List Nat)} (whole : List Char) {s : List Char}
    (h : stray = .ok (Utf16.units '\\'.toNat) ∨ Paired (fun _ => True) s) :
    unitsOfWith stray whole s = unitsOf whole s := by
  fun_induction unitsOf whole s with
  | case1 => rfl
  | case2 a b c d rest ih =>
    rw [unitsOfWith]
    cases hunits : escapedUnits [a, b, c, d] with
    | error fault => rfl
    | ok units =>
      -- what is behind the four digits is paired, because no backslash is among them
      have hdigits := notMem_of_escapedUnits hunits
      simp only [List.mem_cons, List.not_mem_nil, or_false, not_or] at hdigits
      obtain ⟨ha, hb, hc, hd⟩ := hdigits
      have hrest : Paired (fun _ => True) ('\\' :: 'u' :: a :: b :: c :: d :: rest) →
          Paired (fun _ => True) rest := fun h =>
        (((h.of_escape.of_cons (Ne.symm ha)).of_cons (Ne.symm hb)).of_cons (Ne.symm hc)).of_cons
          (Ne.symm hd)
      rw [ih (h.imp_right hrest)]
  | case3 rest hshort =>
    rw [unitsOfWith]
    exact hshort
  | case4 c rest hshort hu ih =>
    rw [unitsOfWith, ih (h.imp_right Paired.of_escape)]
    · exact hshort
    · exact hu
  | case5 c rest hunit hshort hescape ih =>
    by_cases hc : c = '\\'
    · subst hc
      cases rest with
      | nil =>
        rcases h with rfl | h
        · rfl
        · cases h
          contradiction
      | cons d rest => exact (hescape d rest rfl rfl).elim
    · rw [unitsOfWith, ih (h.imp_right (Paired.of_cons hc))]
      all_goals
        intros
        contradiction

example : unitsOf ['\\'] ['\\'] = .ok [0x5C] ∧
    unitsOfWith (.error .surrogate) ['\\'] ['\\'] = .error .surrogate := ⟨rfl, rfl⟩

/-- **No escape is cut in two before it is decoded.** Whatever the natural lines of a file are,
every logical line ends in an even number of backslashes, and so do the key and the value that it is
split into. Decoding these never meets a backslash with nothing behind it: what a decoder makes of
one does not matter. -/
theorem even_of_mem_logicalLines {lines : List (List Char)} {line : List Char}
    (h : line ∈ logicalLines lines) :
    endSlashes line % 2 = 0 ∧
      ∀ piece ∈ [(splitLine line).1, (splitLine line).2], endSlashes piece % 2 = 0 ∧
        ∀ stray, unitsOfWith stray piece piece = unitsOf piece piece := by
  have hline : endSlashes line % 2 = 0 := by
    have hcont := continues_of_mem_logicalFrom whole_none h
    rw [continues, beq_eq_false_iff_ne] at hcont
    omega
  obtain ⟨hkey, hvalue⟩ := paired_splitLine (paired_iff_even.2 hline)
  have hpieces : ∀ piece ∈ [(splitLine line).1, (splitLine line).2],
      Paired (fun _ => True) piece := by
    intro piece hpiece
    rcases List.mem_pair.1 hpiece with rfl | rfl
    · exact hkey.mono fun _ _ => trivial
    · exact hvalue
  refine ⟨hline, fun piece hpiece => ⟨paired_iff_even.1 (hpieces piece hpiece), fun stray => ?_⟩⟩
  exact unitsOfWith_eq piece (.inr (hpieces piece hpiece))

/-- A file that ends where a line is continued: of three backslashes and one more, two stay, and
they are an escape. -/
theorem even_of_mem_logicalLines_of_open :
    logicalLines [['a', '\\', ':', '=', 'v', '\\', '\\', '\\'], [' ', '\\']] =
        [['a', '\\', ':', '=', 'v', '\\', '\\']] ∧
      splitLine ['a', '\\', ':', '=', 'v', '\\', '\\'] = (['a', '\\', ':'], ['v', '\\', '\\']) ∧
      endSlashes ['a', '\\', ':', '=', 'v', '\\', '\\'] % 2 = 0 ∧
      ∀ piece ∈ [['a', '\\', ':'], ['v', '\\', '\\']], endSlashes piece % 2 = 0 ∧
        ∀ stray, unitsOfWith stray piece piece = unitsOf piece piece := by
  have hlines : logicalLines [['a', '\\', ':', '=', 'v', '\\', '\\', '\\'], [' ', '\\']] =
      [['a', '\\', ':', '=', 'v', '\\', '\\']] := by decide
  exact ⟨hlines, by decide, even_of_mem_logicalLines (hlines ▸ List.mem_singleton_self _)⟩

end Property

end BlobRemote
