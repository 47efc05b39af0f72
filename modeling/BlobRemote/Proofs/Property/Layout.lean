import Mathlib
import BlobRemote.Proofs.Property.RoundTrip

/-!
# Layout does not change what a property file says

A property file may be laid out in many ways: with other line ends, with blank lines and comments
between its entries, with lines that are indented, and with entries that are folded onto several
lines. Each edit of the layout (`BlobRemote.Property.Edit`) leaves the logical lines as they are
(`BlobRemote.Property.logicalLines_of_edit`), and therefore the outcome of reading, be it a dictionary
or a fault (`BlobRemote.Property.read_of_edits`).

The reader takes one natural line after another (`BlobRemote.Property.advance`), and between two of
them all that it keeps is the beginning of a logical line, if one is open. Whether one is open can be
told without joining lines: a line is continued if it ends in an odd number of backslashes itself and
is no comment (`BlobRemote.Property.isContinued`). For what the reader keeps ends in an even number
of them, one having been dropped, and so it never adds to those of the next line
(`BlobRemote.Property.isSome_advance`).
-/

namespace BlobRemote

namespace Property

/-! ### Natural lines -/

/-- **A line is continued** by the next one if it ends in an odd number of backslashes, unless it is
blank or a comment and does not continue a line itself. -/
def isContinued (opened : Bool) (raw : List Char) : Bool :=
  continues (dropEndWhile isLineEnd raw) && (opened || !isSilent (body raw))

/-- Whether the last of some lines is continued by the one behind them. -/
def leavesOpen (lines : List (List Char)) : Bool := lines.foldl isContinued false

/-- **A blank line or a comment**: after blanks there is nothing but what ends the line, or one of
the two signs. -/
def SaysNothing (raw : List Char) : Prop :=
  ∃ blanks rest, raw = blanks ++ rest ∧ (∀ c ∈ blanks, isBlank c = true) ∧
    ((∀ c ∈ rest, isLineEnd c = true) ∨ rest.head? = some '#' ∨ rest.head? = some '!')

/-- **The reader finds nothing** in a blank line and in a comment, and nowhere else. -/
theorem saysNothing_iff (raw : List Char) : SaysNothing raw ↔ isSilent (body raw) = true := by
  constructor
  · rintro ⟨blanks, rest, rfl, hblanks, hrest⟩
    rw [body_blanks_append hblanks]
    rcases hrest with hrest | hrest | hrest
    · rw [body_lineEnds hrest]
      rfl
    · obtain ⟨r, rfl⟩ := List.head?_eq_some_iff.1 hrest
      rw [body_cons rfl rfl]
      rfl
    · obtain ⟨r, rfl⟩ := List.head?_eq_some_iff.1 hrest
      rw [body_cons rfl rfl]
      rfl
  · intro h
    obtain ⟨ends, hends, hraw⟩ := exists_append_dropEndWhile isLineEnd raw
    have hbody : (dropEndWhile isLineEnd raw).takeWhile isBlank ++ body raw =
        dropEndWhile isLineEnd raw := List.takeWhile_append_dropWhile
    refine ⟨(dropEndWhile isLineEnd raw).takeWhile isBlank, body raw ++ ends, ?_,
      fun c hc => List.mem_takeWhile_imp hc, ?_⟩
    · rw [← List.append_assoc, hbody, ← hraw]
    · -- what the reader has of the line is nothing, or it begins with one of the signs
      cases hline : body raw with
      | nil => exact Or.inl hends
      | cons c r =>
        rw [hline] at h
        simp only [isSilent, Bool.or_eq_true, beq_iff_eq] at h
        rcases h with rfl | rfl
        · exact Or.inr (Or.inl rfl)
        · exact Or.inr (Or.inr rfl)

/-- The blanks in front of a text do not change whether it is continued. -/
theorem continues_dropWhile_isBlank (s : List Char) :
    continues (s.dropWhile isBlank) = continues s := by
  have hwhole : continues (s.takeWhile isBlank) = false :=
    continues_of_paired (p := fun _ => True) (Paired.of_forall fun c hc =>
      ⟨(plain_of_isBlank (List.mem_takeWhile_imp hc)).2, trivial⟩)
  rw [← continues_append hwhole, List.takeWhile_append_dropWhile]

/-! ### One line after another -/

/-- **What the reader makes of a natural line**: the logical line that it closes, if it closes one,
and the beginning of the logical line that it leaves open. -/
def advance (pending : Option (List Char)) (raw : List Char) :
    List (List Char) × Option (List Char) :=
  let line := pending.getD [] ++ body raw
  if pending = none ∧ isSilent line = true then ([], none)
  else if continues line then ([], some line.dropLast)
  else ([line], none)

theorem logicalFrom_cons (pending : Option (List Char)) (raw : List Char)
    (rest : List (List Char)) :
    logicalFrom pending (raw :: rest) =
      (advance pending raw).1 ++ logicalFrom (advance pending raw).2 rest := by
  cases pending with
  | none =>
    rw [logicalFrom, advance, Option.getD_none, List.nil_append]
    by_cases hsilent : isSilent (body raw) = true
    · simp [hsilent]
    · by_cases hcont : continues (body raw) = true <;> simp [hsilent, hcont]
  | some pending =>
    rw [logicalFrom, advance, Option.getD_some]
    by_cases hcont : continues (pending ++ body raw) = true <;> simp [hcont]

theorem advance_congr (pending : Option (List Char)) {raw raw' : List Char}
    (h : body raw' = body raw) : advance pending raw' = advance pending raw := by
  simp only [advance, h]

/-- **What the reader keeps is whole**: it ends in an even number of backslashes. -/
def Whole (pending : Option (List Char)) : Prop := ∀ begun ∈ pending, continues begun = false

theorem whole_none : Whole none := by simp [Whole]

theorem whole_some_iff {begun : List Char} : Whole (some begun) ↔ continues begun = false := by
  simp [Whole]

/-- **A text that is continued** is whole without its last backslash. -/
theorem continues_dropLast {s : List Char} (h : continues s = true) :
    continues s.dropLast = false := by
  rcases List.eq_nil_or_concat s with rfl | ⟨l, c, rfl⟩
  · exact absurd h (by decide)
  · rw [List.concat_eq_append] at h ⊢
    rw [List.dropLast_concat]
    by_contra hl
    -- a backslash less cannot leave their number odd
    rw [Bool.not_eq_false, continues, beq_iff_eq] at hl
    rw [continues, endSlashes_append, beq_iff_eq] at h
    split at h
    · rw [List.length_singleton] at h
      omega
    · next hc =>
      have hc : c ≠ '\\' := by simpa using hc
      simp [endSlashes, hc] at h

/-- **A line is continued** or not for what stands on it alone, as what the reader keeps is whole. -/
theorem isSome_advance {pending : Option (List Char)} (h : Whole pending) (raw : List Char) :
    Whole (advance pending raw).2 ∧
      (advance pending raw).2.isSome = isContinued pending.isSome raw := by
  have hbegun : continues (pending.getD []) = false := by
    cases pending with
    | none => rfl
    | some begun => exact whole_some_iff.1 h
  have hline : continues (pending.getD [] ++ body raw) = continues (dropEndWhile isLineEnd raw) := by
    rw [continues_append hbegun, body, continues_dropWhile_isBlank]
  rw [isContinued, ← hline, advance]
  by_cases hsilent : pending = none ∧ isSilent (pending.getD [] ++ body raw) = true
  · rw [if_pos hsilent]
    obtain ⟨rfl, hsilent⟩ := hsilent
    rw [Option.getD_none, List.nil_append] at hsilent
    exact ⟨whole_none, by simp [hsilent]⟩
  · rw [if_neg hsilent]
    have hopen : (pending.isSome || !isSilent (body raw)) = true := by
      cases pending with
      | none => simpa using hsilent
      | some begun => rfl
    rw [hopen, Bool.and_true]
    by_cases hcont : continues (pending.getD [] ++ body raw) = true
    · rw [if_pos hcont, hcont]
      exact ⟨whole_some_iff.2 (continues_dropLast hcont), rfl⟩
    · rw [if_neg hcont]
      exact ⟨whole_none, (Bool.not_eq_true _ ▸ hcont).symm⟩

/-- **The reader runs over some lines** the same way whatever comes behind them: it closes the same
logical lines, and it leaves one open if the last of them is continued. -/
theorem exists_logicalFrom_append {pending : Option (List Char)} (h : Whole pending)
    (pre : List (List Char)) :
    ∃ closed begun, Whole begun ∧ begun.isSome = pre.foldl isContinued pending.isSome ∧
      ∀ post, logicalFrom pending (pre ++ post) = closed ++ logicalFrom begun post := by
  induction pre generalizing pending with
  | nil => exact ⟨[], pending, h, rfl, fun _ => rfl⟩
  | cons raw pre ih =>
    obtain ⟨hwhole, hsome⟩ := isSome_advance h raw
    obtain ⟨closed, begun, hbegun, hopen, hrun⟩ := ih hwhole
    refine ⟨(advance pending raw).1 ++ closed, begun, hbegun, ?_, fun post => ?_⟩
    · rw [hopen, hsome, List.foldl_cons]
    · rw [List.cons_append, logicalFrom_cons, hrun, List.append_assoc]

/-- **Lines with the same text in them** make the same logical lines. -/
theorem logicalFrom_congr {lines lines' : List (List Char)}
    (h : List.Forall₂ (fun raw raw' => body raw' = body raw) lines lines')
    (pending : Option (List Char)) : logicalFrom pending lines' = logicalFrom pending lines := by
  induction h generalizing pending with
  | nil => rfl
  | cons hbody _ ih => rw [logicalFrom_cons, logicalFrom_cons, advance_congr pending hbody, ih]

/-! ### Edits of the layout -/

/-- A text with a carriage return in front of every line feed. -/
def withReturns (s : List Char) : List Char :=
  s.flatMap fun c => if c = '\n' then ['\r', '\n'] else [c]

/-- **An edit of the layout** of a text, of which the lines are what stands between its line
feeds. -/
inductive Edit (s t : List Char) : Prop
  /-- Lines end in a carriage return and a line feed. -/
  | returns : t = withReturns s → Edit s t
  /-- A blank line or a comment is put in front of a line that does not continue the one before. -/
  | insert {pre post : List (List Char)} {line silent : List Char} :
      Cut.fields '\n' s = pre ++ line :: post → leavesOpen pre = false → SaysNothing silent →
      Cut.fields '\n' t = pre ++ silent :: line :: post → Edit s t
  /-- A line is indented. -/
  | indent {pre post : List (List Char)} {line blanks : List Char} :
      Cut.fields '\n' s = pre ++ line :: post → (∀ c ∈ blanks, isBlank c = true) →
      Cut.fields '\n' t = pre ++ (blanks ++ line) :: post → Edit s t
  /-- A line that says something is folded between two parts, the first of which ends in an even
  number of backslashes while the second one does not begin with a blank. -/
  | fold {pre post : List (List Char)} {first second returns blanks : List Char} :
      Cut.fields '\n' s = pre ++ (first ++ second ++ returns) :: post →
      (leavesOpen pre = true ∨ ¬ SaysNothing (first ++ second ++ returns)) →
      (∀ c ∈ returns, c = '\r') → (first ++ second).getLast? ≠ some '\r' →
      continues first = false → (∀ c ∈ second.head?, isBlank c = false) →
      (∀ c ∈ blanks, isBlank c = true) →
      Cut.fields '\n' t =
        pre ++ (first ++ ['\\']) :: (blanks ++ second ++ returns) :: post → Edit s t

/-- **Carriage returns at the ends of lines** are all that the line feeds are given. -/
theorem forall₂_fields_withReturns (s : List Char) :
    List.Forall₂ (fun raw raw' => raw' = raw ∨ raw' = raw ++ ['\r'])
      (Cut.fields '\n' s) (Cut.fields '\n' (withReturns s)) := by
  induction s with
  | nil => exact .cons (Or.inl rfl) .nil
  | cons c s ih =>
    by_cases hc : c = '\n'
    · subst hc
      have hret : withReturns ('\n' :: s) = ['\r'] ++ '\n' :: withReturns s := rfl
      rw [hret, Cut.fields_append_cons (by decide), Cut.fields_cons_eq]
      exact .cons (Or.inr rfl) ih
    · have hret : withReturns (c :: s) = c :: withReturns s := by
        rw [withReturns, List.flatMap_cons, if_neg hc]
        rfl
      rw [hret, Cut.fields, if_neg hc, Cut.fields, if_neg hc]
      generalize Cut.fields '\n' s = lines at ih ⊢
      generalize Cut.fields '\n' (withReturns s) = lines' at ih ⊢
      cases ih with
      | nil => exact .cons (Or.inl rfl) .nil
      | cons hline hlines =>
        refine .cons ?_ hlines
        rcases hline with rfl | rfl
        · exact Or.inl rfl
        · exact Or.inr rfl

section Folding

variable {begun : Option (List Char)} {first second returns blanks : List Char}

/-- **The first part of a folded line** is what the reader keeps. -/
theorem advance_fold_first (hwhole : Whole begun) (hfirst : continues first = false)
    (htells : begun = none → isSilent (first.dropWhile isBlank ++ second) = false) :
    advance begun (first ++ ['\\']) =
      ([], some (begun.getD [] ++ first.dropWhile isBlank)) := by
  have hbody : body (first ++ ['\\']) = first.dropWhile isBlank ++ ['\\'] := by
    rw [body, dropEndWhile_append_cons rfl]
    exact dropWhile_isBlank_append (by simp [isBlank]) first
  have hsilent : ¬ (begun = none ∧
      isSilent (begun.getD [] ++ (first.dropWhile isBlank ++ ['\\'])) = true) := by
    rintro ⟨rfl, hsilent⟩
    have hline := htells rfl
    rw [Option.getD_none, List.nil_append] at hsilent
    -- with the backslash behind it, nothing becomes something
    cases hx : first.dropWhile isBlank with
    | nil => exact absurd (hx ▸ hsilent) (by decide)
    | cons c x =>
      rw [hx] at hline hsilent
      exact absurd (hline.symm.trans hsilent) (by decide)
  have hbegun : continues (begun.getD [] ++ first.dropWhile isBlank) = false := by
    cases begun with
    | none => rwa [Option.getD_none, List.nil_append, continues_dropWhile_isBlank]
    | some begun => rwa [Option.getD_some, continues_append (whole_some_iff.1 hwhole),
        continues_dropWhile_isBlank]
  have hcont : continues
      (begun.getD [] ++ (first.dropWhile isBlank ++ ['\\'])) = true := by
    rw [← List.append_assoc, continues_append hbegun]
    rfl
  simp only [advance, hbody]
  rw [if_neg hsilent, if_pos hcont, ← List.append_assoc, List.dropLast_concat]

/-- **A folded line**: with its second part the reader has what it would have had of the line. -/
theorem logicalFrom_fold (hwhole : Whole begun)
    (htells : begun.isSome = true ∨ ¬ SaysNothing (first ++ second ++ returns))
    (hreturns : ∀ c ∈ returns, isLineEnd c = true)
    (hlast : ∀ c, (first ++ second).getLast? = some c → isLineEnd c = false)
    (hfirst : continues first = false) (hsecond : ∀ c ∈ second.head?, isBlank c = false)
    (hblanks : ∀ c ∈ blanks, isBlank c = true) (post : List (List Char)) :
    logicalFrom begun ((first ++ ['\\']) :: (blanks ++ second ++ returns) :: post) =
      logicalFrom begun ((first ++ second ++ returns) :: post) := by
  have hbody : body (first ++ second ++ returns) = first.dropWhile isBlank ++ second := by
    rw [body_append_lineEnds hreturns, body, dropEndWhile_eq_self hlast,
      dropWhile_isBlank_append hsecond]
  have hrest : body (blanks ++ second ++ returns) = second := by
    rw [body_append_lineEnds hreturns, body_blanks_append hblanks]
    exact body_eq_self hsecond fun c hc => hlast c (by rw [List.getLast?_append, hc]; rfl)
  have hsilent : begun = none → isSilent (first.dropWhile isBlank ++ second) = false := by
    rintro rfl
    rw [saysNothing_iff, hbody, Bool.not_eq_true] at htells
    exact htells.resolve_left (by decide)
  have hline : ¬ (begun = none ∧
      isSilent (begun.getD [] ++ (first.dropWhile isBlank ++ second)) = true) := by
    rintro ⟨rfl, h⟩
    exact absurd ((hsilent rfl).symm.trans h) (by decide)
  have hsame : advance (some (begun.getD [] ++ first.dropWhile isBlank))
      (blanks ++ second ++ returns) = advance begun (first ++ second ++ returns) := by
    simp only [advance, hbody, hrest, Option.getD_some]
    rw [if_neg (by simp), if_neg hline, List.append_assoc]
  rw [logicalFrom_cons, advance_fold_first hwhole hfirst hsilent, List.nil_append,
    logicalFrom_cons, hsame, ← logicalFrom_cons]

end Folding

/-- **An edit of the layout leaves the logical lines as they are.** -/
theorem logicalLines_of_edit {s t : List Char} (h : Edit s t) :
    logicalLines (Cut.fields '\n' t) = logicalLines (Cut.fields '\n' s) := by
  cases h with
  | returns ht =>
    subst ht
    refine logicalFrom_congr ((forall₂_fields_withReturns s).imp fun raw raw' hraw => ?_) none
    rcases hraw with rfl | rfl
    · rfl
    · exact body_append_lineEnds fun c hc => by rw [List.mem_singleton.1 hc]; rfl
  | @insert pre post line silent hs hclosed hsilent ht =>
    obtain ⟨closed, begun, -, hopen, hrun⟩ := exists_logicalFrom_append whole_none pre
    obtain rfl : begun = none :=
      Option.isNone_iff_eq_none.1 (Option.isSome_eq_false_iff.1 (hopen.trans hclosed))
    have hadvance : advance none silent = ([], none) :=
      if_pos ⟨rfl, (saysNothing_iff silent).1 hsilent⟩
    rw [logicalLines, logicalLines, hs, ht, hrun, hrun, logicalFrom_cons none silent, hadvance,
      List.nil_append]
  | @indent pre post line blanks hs hblanks ht =>
    obtain ⟨closed, begun, -, -, hrun⟩ := exists_logicalFrom_append whole_none pre
    rw [logicalLines, logicalLines, hs, ht, hrun, hrun, logicalFrom_cons begun (blanks ++ line),
      advance_congr begun (body_blanks_append hblanks line), ← logicalFrom_cons]
  | @fold pre post first second returns blanks hs htells hreturns hlast hfirst hsecond hblanks ht =>
    obtain ⟨closed, begun, hwhole, hopen, hrun⟩ := exists_logicalFrom_append whole_none pre
    have hfeed : '\n' ∉ first ++ second ++ returns :=
      Cut.notMem_of_mem_fields (by rw [hs]; simp)
    have hend : ∀ c, (first ++ second).getLast? = some c → isLineEnd c = false := by
      intro c hc
      simp only [isLineEnd, Bool.or_eq_false_iff, beq_eq_false_iff_ne]
      refine ⟨fun he => hlast (he ▸ hc), fun he => hfeed ?_⟩
      exact List.mem_append_left _ (List.mem_of_getLast? (he ▸ hc))
    have hreturns : ∀ c ∈ returns, isLineEnd c = true := fun c hc => by rw [hreturns c hc]; rfl
    rw [logicalLines, logicalLines, hs, ht, hrun, hrun]
    refine congrArg (closed ++ ·) ?_
    refine logicalFrom_fold hwhole ?_ hreturns hend hfirst hsecond hblanks post
    exact hopen ▸ htells

/-- **Layout does not change what a property file says**: however often a text is edited, reading it
has the outcome that it had. -/
theorem read_of_edits {s t : List Char} (h : Relation.ReflTransGen Edit s t) :
    read (Utf8.encode t) = read (Utf8.encode s) := by
  induction h with
  | refl => rfl
  | tail _ hedit ih =>
    rw [← ih, read, read, Utf8.decode_encode, Utf8.decode_encode]
    simp only [readText, logicalLines_of_edit hedit]

/-- One edit after another: carriage returns, a comment that ends in a backslash, an indented line and
a line that is folded in front of its value. -/
theorem read_of_edits_of_each_kind :
    Relation.ReflTransGen Edit "a=1\nb=2".toList "a=\\\n 1\r\n!x\\\n\tb=2".toList ∧
      read (Utf8.encode "a=\\\n 1\r\n!x\\\n\tb=2".toList) =
        read (Utf8.encode "a=1\nb=2".toList) := by
  have hreturns : Edit "a=1\nb=2".toList "a=1\r\nb=2".toList := .returns (by decide +kernel)
  have hinsert : Edit "a=1\r\nb=2".toList "a=1\r\n!x\\\nb=2".toList :=
    @Edit.insert _ _ ["a=1\r".toList] [] "b=2".toList "!x\\".toList (by decide +kernel)
      (by decide +kernel) ⟨[], _, rfl, by simp, Or.inr (Or.inr rfl)⟩ (by decide +kernel)
  have hindent : Edit "a=1\r\n!x\\\nb=2".toList "a=1\r\n!x\\\n\tb=2".toList :=
    @Edit.indent _ _ ["a=1\r".toList, "!x\\".toList] [] "b=2".toList ['\t'] (by decide +kernel)
      (by simp [isBlank]) (by decide +kernel)
  have htells : ¬ SaysNothing (['a', '='] ++ ['1'] ++ ['\r']) := by
    rw [saysNothing_iff]
    decide +kernel
  have hfold : Edit "a=1\r\n!x\\\n\tb=2".toList "a=\\\n 1\r\n!x\\\n\tb=2".toList :=
    @Edit.fold _ _ [] ["!x\\".toList, "\tb=2".toList] ['a', '='] ['1'] ['\r'] [' ']
      (by decide +kernel) (Or.inr htells) (by simp) (by decide +kernel) (by decide +kernel)
      (by simp [isBlank]) (by simp [isBlank]) (by decide +kernel)
  have h := ((Relation.ReflTransGen.single hreturns).tail hinsert).tail hindent |>.tail hfold
  exact ⟨h, read_of_edits h⟩

end Property

end BlobRemote
