import Mathlib
import BlobRemote.Property.Line
import BlobRemote.Proofs.Property.Escape

/-!
# Texts in which no escape is cut in two

The reader of a property file looks at backslashes three times: to see whether a line goes on, to
find the end of the key, and to read the escapes. All three agree on a text that is *paired*
(`BlobRemote.Property.Paired`): every backslash has the character that it escapes behind it. A
paired text does not go on in the next line (`BlobRemote.Property.continues_of_paired`), and the
search for the end of the key runs through a paired text in which no separator stands unescaped
(`BlobRemote.Property.splitKey_append`). What the writer escapes is paired.
-/

namespace BlobRemote

namespace Property

open Number (upperDigit)

/-- **A text in which no escape is cut**: a backslash always has the character behind it that it
escapes, and `p` holds of the characters that are not escaped. -/
inductive Paired (p : Char → Prop) : List Char → Prop
  /-- There is nothing to pair. -/
  | nil : Paired p []
  /-- An escaped character. -/
  | escape (c : Char) {s : List Char} : Paired p s → Paired p ('\\' :: c :: s)
  /-- A character that stands for itself. -/
  | plain {c : Char} {s : List Char} : c ≠ '\\' → p c → Paired p s → Paired p (c :: s)

namespace Paired

variable {p q : Char → Prop} {s t : List Char}

theorem append (hs : Paired p s) (ht : Paired p t) : Paired p (s ++ t) := by
  induction hs with
  | nil => exact ht
  | escape c _ ih => exact ih.escape c
  | plain hc hp _ ih => exact ih.plain hc hp

theorem mono (h : ∀ c, p c → q c) (hs : Paired p s) : Paired q s := by
  induction hs with
  | nil => exact nil
  | escape c _ ih => exact ih.escape c
  | plain hc hp _ ih => exact ih.plain hc (h _ hp)

theorem flatMap {α : Type} {f : α → List Char} {l : List α} (h : ∀ a ∈ l, Paired p (f a)) :
    Paired p (l.flatMap f) := by
  induction l with
  | nil => exact nil
  | cons a l ih =>
    rw [List.flatMap_cons]
    exact (h a (by simp)).append (ih fun b hb => h b (by simp [hb]))

/-- A text without backslashes is paired. -/
theorem of_forall (h : ∀ c ∈ s, c ≠ '\\' ∧ p c) : Paired p s := by
  induction s with
  | nil => exact nil
  | cons c s ih =>
    obtain ⟨hc, hp⟩ := h c List.mem_cons_self
    exact (ih fun d hd => h d (List.mem_cons_of_mem c hd)).plain hc hp

/-- A paired text begins with a backslash or with a character that stands for itself. -/
theorem head {c : Char} (h : Paired p (c :: s)) : c = '\\' ∨ p c := by
  cases h with
  | escape => exact Or.inl rfl
  | plain _ hp _ => exact Or.inr hp

end Paired

/-! ### Backslashes at the end -/

theorem endSlashes_of_all {s : List Char} (h : s.all (· == '\\') = true) :
    endSlashes s = s.length := by
  have hr : ∀ a ∈ s.reverse, (a == '\\') = true := fun a ha =>
    List.all_eq_true.1 h a (List.mem_reverse.1 ha)
  rw [endSlashes, List.takeWhile_eq_self_iff.2 hr, List.length_reverse]

/-- **The backslashes at the end** reach into what stands before a text only if it is nothing but
backslashes. -/
theorem endSlashes_append (s t : List Char) :
    endSlashes (s ++ t) =
      if t.all (· == '\\') then endSlashes s + t.length else endSlashes t := by
  rw [endSlashes, List.reverse_append, List.takeWhile_append]
  by_cases h : t.all (· == '\\') = true
  · have hr : ∀ a ∈ t.reverse, (a == '\\') = true := fun a ha =>
      List.all_eq_true.1 h a (List.mem_reverse.1 ha)
    rw [if_pos h, List.takeWhile_eq_self_iff.2 hr, if_pos rfl, List.length_append,
      List.length_reverse, Nat.add_comm, endSlashes]
  · have hr : (t.reverse.takeWhile (· == '\\')).length ≠ t.reverse.length := fun he => by
      refine h (List.all_eq_true.2 fun a ha => ?_)
      have hall := List.takeWhile_eq_self_iff.1
        ((List.takeWhile_prefix (· == '\\')).eq_of_length he)
      exact hall a (List.mem_reverse.2 ha)
    rw [if_neg h, if_neg hr, endSlashes]

theorem endSlashes_cons (c : Char) (s : List Char) :
    endSlashes (c :: s) =
      if s.all (· == '\\') then s.length + (if c = '\\' then 1 else 0) else endSlashes s := by
  have hc : endSlashes [c] = if c = '\\' then 1 else 0 := by
    by_cases hc : c = '\\' <;> simp [endSlashes, hc]
  rw [← List.singleton_append, endSlashes_append, hc, Nat.add_comm]

/-- An escape at the front of a text leaves the parity of the backslashes at its end. -/
theorem endSlashes_escape (c : Char) (s : List Char) :
    endSlashes ('\\' :: c :: s) % 2 = endSlashes s % 2 := by
  -- the escape is counted only if nothing but backslashes follows it
  by_cases hs : s.all (· == '\\') = true
  · rw [endSlashes_cons, endSlashes_cons, if_pos hs, endSlashes_of_all hs]
    by_cases hc : c = '\\'
    · have hcs : (c :: s).all (· == '\\') = true := by simpa [hc] using hs
      rw [if_pos hcs, if_pos rfl, List.length_cons]
      omega
    · have hcs : ¬ (c :: s).all (· == '\\') = true := by simp [hc]
      rw [if_neg hcs, if_neg hc, Nat.add_zero]
  · have hcs : ¬ (c :: s).all (· == '\\') = true :=
      fun h => hs (by simpa using (by simpa using h : _ ∧ _).2)
    rw [endSlashes_cons, if_neg hcs, endSlashes_cons, if_neg hs]

/-- A character other than a backslash ends the backslashes. -/
theorem endSlashes_cons_of_ne {c : Char} (hc : c ≠ '\\') (s : List Char) :
    endSlashes (c :: s) = endSlashes s := by
  rw [endSlashes_cons, if_neg hc, Nat.add_zero]
  split
  · next hs => rw [endSlashes_of_all hs]
  · rfl

/-- **A paired text ends in an even number of backslashes.** -/
theorem even_endSlashes {p : Char → Prop} {s : List Char} (h : Paired p s) :
    endSlashes s % 2 = 0 := by
  induction h with
  | nil => rfl
  | escape c _ ih => rw [endSlashes_escape, ih]
  | plain hc _ _ ih => rw [endSlashes_cons_of_ne hc, ih]

/-- **A text that ends in an even number of backslashes is paired**: from the front, escapes and
characters are taken off it until nothing is left. -/
theorem paired_of_even (s : List Char) (h : endSlashes s % 2 = 0) : Paired (fun _ => True) s := by
  match s with
  | [] => exact .nil
  | [c] =>
    have hc : c ≠ '\\' := by
      rintro rfl
      exact absurd h (by decide)
    exact .plain hc trivial .nil
  | c :: d :: s =>
    by_cases hc : c = '\\'
    · subst hc
      rw [endSlashes_escape] at h
      exact (paired_of_even s h).escape d
    · rw [endSlashes_cons_of_ne hc] at h
      exact (paired_of_even (d :: s) h).plain hc trivial
termination_by s.length

theorem paired_iff_even {s : List Char} : Paired (fun _ => True) s ↔ endSlashes s % 2 = 0 :=
  ⟨even_endSlashes, paired_of_even s⟩

theorem continues_of_paired {p : Char → Prop} {s : List Char} (h : Paired p s) :
    continues s = false := by
  rw [continues, even_endSlashes h]
  rfl

/-- **Whether a text goes on is a matter of its end**: what stands before it does not count, if that
is whole. -/
theorem continues_append {s : List Char} (hs : continues s = false) (t : List Char) :
    continues (s ++ t) = continues t := by
  rw [continues, endSlashes_append]
  split
  · next ht =>
    rw [continues, beq_eq_false_iff_ne] at hs
    rw [continues, endSlashes_of_all ht]
    refine congrArg (· == 1) ?_
    omega
  · rfl

/-! ### The end of the key -/

/-- **The characters that may stand unescaped in a key**: those at which it does not end. -/
def IsInKey (c : Char) : Prop := isBlank c = false ∧ isSeparator c = false

/-- The characters that stand for themselves in a key as it is written. -/
def IsKeyChar (c : Char) : Prop := isBlank c = false ∧ isSpecial c = false

theorem IsKeyChar.isInKey {c : Char} (h : IsKeyChar c) : IsInKey c := by
  have h2 := h.2
  simp only [isSpecial, Bool.or_eq_false_iff] at h2
  exact ⟨h.1, by simp only [isSeparator, h2.1.1.1.2, h2.1.1.2, Bool.or_self]⟩

/-- **The search for the end of the key** runs through a paired text without bare separators. -/
theorem splitKey_append {k : List Char} (h : Paired IsInKey k) (rest : List Char) :
    splitKey (k ++ rest) = (k ++ (splitKey rest).1, (splitKey rest).2) := by
  induction h with
  | nil => rfl
  | escape c _ ih =>
    rw [List.cons_append, List.cons_append, splitKey, ih]
    rfl
  | plain hc hp _ ih =>
    rw [List.cons_append, splitKey, hp.2, hp.1, ih]
    · rfl
    · intros
      contradiction

/-- **The key ends** at a blank or a separator that is not escaped. -/
theorem splitKey_of_ends {c : Char} (h : isSeparator c = true ∨ isBlank c = true)
    (rest : List Char) : splitKey (c :: rest) = ([], c :: rest) := by
  rw [splitKey, if_pos (by simpa using h)]
  rintro _ _ rfl
  simp [isSeparator, isBlank] at h

/-! ### What the writer escapes -/

/-- A character of a written entry: one of the printable characters of ASCII. -/
def IsPrintable (c : Char) : Prop := ' ' ≤ c ∧ c ≤ '~'

theorem IsPrintable.not_lineEnd {c : Char} (h : IsPrintable c) : isLineEnd c = false := by
  simp only [isLineEnd, Bool.or_eq_false_iff, beq_eq_false_iff_ne]
  constructor
  · rintro rfl
    exact absurd h.1 (by decide)
  · rintro rfl
    exact absurd h.1 (by decide)

theorem upperDigit_isKeyChar {n : Nat} (h : n < 16) :
    upperDigit n ≠ '\\' ∧ IsKeyChar (upperDigit n) ∧ IsPrintable (upperDigit n) := by
  have key : ∀ n < 16, upperDigit n ≠ '\\' ∧
      (isBlank (upperDigit n) = false ∧ isSpecial (upperDigit n) = false) ∧
        (' ' ≤ upperDigit n ∧ upperDigit n ≤ '~') := by decide +kernel
  exact key n h

theorem paired_escapeUnit (u : Nat) : Paired IsKeyChar (escapeUnit u) := by
  have h : ∀ m, upperDigit (m % 16) ≠ '\\' ∧ IsKeyChar (upperDigit (m % 16)) := fun m =>
    ⟨(upperDigit_isKeyChar (Nat.mod_lt m (by decide))).1,
      (upperDigit_isKeyChar (Nat.mod_lt m (by decide))).2.1⟩
  refine Paired.escape 'u' (.plain (h _).1 (h _).2 (.plain (h _).1 (h _).2 ?_))
  exact .plain (h _).1 (h _).2 (.plain (h _).1 (h _).2 .nil)

theorem isPrintable_of_mem_escapeUnit {u : Nat} {d : Char} (h : d ∈ escapeUnit u) :
    IsPrintable d := by
  have hd : ∀ m, IsPrintable (upperDigit (m % 16)) := fun m =>
    (upperDigit_isKeyChar (Nat.mod_lt m (by decide))).2.2
  simp only [escapeUnit, List.mem_cons, List.not_mem_nil, or_false] at h
  rcases h with rfl | rfl | rfl | rfl | rfl | rfl
  · exact ⟨by decide, by decide⟩
  · exact ⟨by decide, by decide⟩
  all_goals exact hd _

theorem paired_escapeChar (c : Char) : Paired IsKeyChar (escapeChar c) := by
  unfold escapeChar
  split
  · exact .escape _ .nil
  · split
    · exact .escape _ .nil
    · next hspecial =>
      -- the backslash is a special character, so this one is none
      rw [Bool.not_eq_true] at hspecial
      have hslash : c ≠ '\\' := fun he => by subst he; exact absurd hspecial (by decide)
      split
      · next hc =>
        refine .plain hslash ⟨?_, hspecial⟩ .nil
        simp only [isBlank, Bool.or_eq_false_iff, beq_eq_false_iff_ne]
        refine ⟨⟨?_, ?_⟩, ?_⟩ <;> rintro rfl <;> exact absurd hc.1 (by decide)
      · exact Paired.flatMap fun u _ => paired_escapeUnit u

theorem isPrintable_of_mem_escapeChar {c d : Char} (h : d ∈ escapeChar c) : IsPrintable d := by
  unfold escapeChar at h
  split at h
  · next letter hletter =>
    have hl : IsPrintable letter := by
      unfold short? at hletter
      repeat' split at hletter
      all_goals cases hletter
      all_goals exact ⟨by decide, by decide⟩
    simp only [List.mem_cons, List.not_mem_nil, or_false] at h
    rcases h with rfl | rfl
    · exact ⟨by decide, by decide⟩
    · exact hl
  · split at h
    · next hspecial =>
      have hc : IsPrintable c := by
        simp only [isSpecial, Bool.or_eq_true, beq_iff_eq] at hspecial
        rcases hspecial with (((rfl | rfl) | rfl) | rfl) | rfl <;> exact ⟨by decide, by decide⟩
      simp only [List.mem_cons, List.not_mem_nil, or_false] at h
      rcases h with rfl | rfl
      · exact ⟨by decide, by decide⟩
      · exact hc
    · split at h
      · next hc =>
        simp only [List.mem_singleton] at h
        subst h
        exact ⟨le_of_lt hc.1, hc.2⟩
      · obtain ⟨u, -, hu⟩ := List.mem_flatMap.1 h
        exact isPrintable_of_mem_escapeUnit hu

theorem escapeChar_ne_nil (c : Char) : escapeChar c ≠ [] := by
  unfold escapeChar
  split
  · simp
  · split
    · simp
    · split
      · simp
      · unfold Utf16.units
        split <;> simp [escapeUnit]

end Property

end BlobRemote
