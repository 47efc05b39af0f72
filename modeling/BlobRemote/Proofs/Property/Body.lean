import Mathlib
import BlobRemote.Property.Line

/-!
# What a line is stripped of

The reader of a property file strips a natural line of what ends it and of the blanks before it, and
looks at the rest alone (`BlobRemote.Property.body`). The two ends are stripped one after the other,
and yet neither disturbs the other: a blank ends no line, so that the blanks in front of a line do not
count even where there is nothing else on it (`BlobRemote.Property.body_blanks_append`).
-/

namespace BlobRemote

namespace Property

/-- A blank is neither the end of a line nor a backslash. -/
theorem plain_of_isBlank {c : Char} (h : isBlank c = true) : isLineEnd c = false ∧ c ≠ '\\' := by
  simp only [isBlank, Bool.or_eq_true, beq_iff_eq] at h
  rcases h with (rfl | rfl) | rfl <;> exact ⟨rfl, by decide⟩

/-! ### Blanks -/

theorem dropWhile_isBlank_eq_self {s : List Char} (h : ∀ c ∈ s.head?, isBlank c = false) :
    s.dropWhile isBlank = s := by
  cases s with
  | nil => rfl
  | cons c s => rw [List.dropWhile_cons, h c rfl, if_neg (by decide)]

theorem dropWhile_isBlank_append {s : List Char} (h : ∀ c ∈ s.head?, isBlank c = false)
    (first : List Char) : (first ++ s).dropWhile isBlank = first.dropWhile isBlank ++ s := by
  rw [List.dropWhile_append, dropWhile_isBlank_eq_self h]
  split
  · next hnil => rw [List.isEmpty_iff.1 hnil, List.nil_append]
  · rfl

/-! ### Lines -/

variable {blanks ends raw : List Char}

/-- **Nothing is stripped** off a line that begins with no blank and ends with something else than a
line end. -/
theorem body_eq_self (hstart : ∀ c ∈ raw.head?, isBlank c = false)
    (hend : ∀ c ∈ raw.getLast?, isLineEnd c = false) : body raw = raw := by
  rw [body, dropEndWhile_eq_self hend, dropWhile_isBlank_eq_self hstart]

/-- A line that begins with neither a blank nor a line end is stripped behind its first character. -/
theorem body_cons {c : Char} (hend : isLineEnd c = false) (hblank : isBlank c = false)
    (rest : List Char) : body (c :: rest) = c :: dropEndWhile isLineEnd rest := by
  have hstrip : dropEndWhile isLineEnd (c :: rest) = c :: dropEndWhile isLineEnd rest :=
    dropEndWhile_append_cons hend [] rest
  rw [body, hstrip, List.dropWhile_cons, if_neg (by simp [hblank])]

/-- What ends a line does not count. -/
theorem body_append_lineEnds (h : ∀ c ∈ ends, isLineEnd c = true) :
    body (raw ++ ends) = body raw := by
  rw [body, dropEndWhile_append_of_all h, body]

theorem body_lineEnds (h : ∀ c ∈ ends, isLineEnd c = true) : body ends = [] := by
  rw [← List.nil_append ends, body_append_lineEnds h]
  rfl

/-- **Blanks in front of a line** do not count. -/
theorem body_blanks_append (h : ∀ c ∈ blanks, isBlank c = true) (raw : List Char) :
    body (blanks ++ raw) = body raw := by
  by_cases hraw : ∀ c ∈ raw, isLineEnd c = true
  · have hblanks : dropEndWhile isLineEnd blanks = blanks :=
      dropEndWhile_eq_self fun c hc => (plain_of_isBlank (h c (List.mem_of_getLast? hc))).1
    rw [body_append_lineEnds hraw, body_lineEnds hraw, body, hblanks]
    exact List.dropWhile_eq_nil_iff.2 h
  · -- the line has something in it, up to which the stripping of its end does not reach
    push Not at hraw
    obtain ⟨c, hc, hend⟩ := hraw
    obtain ⟨l, r, rfl⟩ := List.append_of_mem hc
    have hend : isLineEnd c = false := by simpa using hend
    rw [body, ← List.append_assoc, dropEndWhile_append_cons hend, List.append_assoc,
      dropWhile_append_of_all h, body, dropEndWhile_append_cons hend]

end Property

end BlobRemote
