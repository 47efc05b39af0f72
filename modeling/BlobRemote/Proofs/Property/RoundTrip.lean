import Mathlib
import BlobRemote.Property.File
import BlobRemote.Proofs.Data.Dict
import BlobRemote.Proofs.Property.Body
import BlobRemote.Proofs.Property.Pairing
import BlobRemote.Proofs.Text.Utf8

/-!
# Property files are read as they were written

The file that `BlobRemote.Property.write` makes of a dictionary is read by
`BlobRemote.Property.read` as that dictionary, whatever its keys and values are made of and whatever
comment stands above it. Between the two lie four steps of the reader, and the writer defeats each
of them on its own: a written entry holds no line feed, so that the cut into lines finds it whole;
it begins with nothing that a reader drops and is paired, so that it is a logical line of its own;
its key is paired and holds no bare separator, and its value begins with no blank, so that it is
split where the writer put the equal sign; and what stands for a character is read as that
character.
-/

namespace BlobRemote

namespace Property

/-! ### Keys and values as they are written -/

theorem paired_escapeKey (s : List Char) : Paired IsKeyChar (escapeKey s) := by
  refine Paired.flatMap fun c _ => ?_
  split
  · exact .escape _ .nil
  · exact paired_escapeChar c

theorem paired_escapeInner (s : List Char) : Paired (fun _ => True) (escapeInner s) := by
  refine Paired.flatMap fun c _ => ?_
  split
  · exact .plain (by decide) trivial .nil
  · exact (paired_escapeChar c).mono fun _ _ => trivial

theorem paired_escapeValue (s : List Char) : Paired (fun _ => True) (escapeValue s) := by
  unfold escapeValue
  split
  · exact (paired_escapeInner _).escape ' '
  · exact paired_escapeInner s

theorem isPrintable_of_mem_escapeKey {s : List Char} {d : Char} (h : d ∈ escapeKey s) :
    IsPrintable d := by
  obtain ⟨c, -, hc⟩ := List.mem_flatMap.1 h
  split at hc
  · simp only [List.mem_cons, List.not_mem_nil, or_false] at hc
    rcases hc with rfl | rfl <;> exact ⟨by decide, by decide⟩
  · exact isPrintable_of_mem_escapeChar hc

theorem isPrintable_of_mem_escapeInner {s : List Char} {d : Char} (h : d ∈ escapeInner s) :
    IsPrintable d := by
  obtain ⟨c, -, hc⟩ := List.mem_flatMap.1 h
  split at hc
  · rw [List.mem_singleton] at hc
    subst hc
    exact ⟨by decide, by decide⟩
  · exact isPrintable_of_mem_escapeChar hc

theorem isPrintable_of_mem_escapeValue {s : List Char} {d : Char} (h : d ∈ escapeValue s) :
    IsPrintable d := by
  unfold escapeValue at h
  split at h
  · simp only [List.mem_cons] at h
    rcases h with rfl | rfl | h
    · exact ⟨by decide, by decide⟩
    · exact ⟨by decide, by decide⟩
    · exact isPrintable_of_mem_escapeInner h
  · exact isPrintable_of_mem_escapeInner h

/-- **A written value begins with no blank**: only its first blank has a backslash. -/
theorem dropWhile_escapeValue (s : List Char) :
    (escapeValue s).dropWhile isBlank = escapeValue s := by
  cases s with
  | nil => rfl
  | cons c s =>
    by_cases hc : c = ' '
    · subst hc
      rfl
    · -- any other character is written as a text that begins with no blank
      obtain ⟨d, r, hd⟩ : ∃ d r, escapeChar c = d :: r :=
        List.exists_cons_of_ne_nil (escapeChar_ne_nil c)
      have hblank : isBlank d = false := by
        rcases (hd ▸ paired_escapeChar c).head with rfl | h
        · rfl
        · exact h.1
      have hv : escapeValue (c :: s) = d :: (r ++ escapeInner s) := by
        rw [escapeValue, escapeInner, List.flatMap_cons, if_neg hc, hd]
        · rfl
        · rintro _ ⟨⟩
          exact hc rfl
      rw [hv, List.dropWhile_cons, if_neg (by simp [hblank])]

/-! ### One entry -/

/-- The line of an entry, without the line feed that ends it. -/
def entryText (entry : String × String) : List Char :=
  escapeKey entry.1.toList ++ '=' :: escapeValue entry.2.toList

/-- **A written entry is split at the equal sign that the writer put.** -/
theorem splitLine_entryText (entry : String × String) :
    splitLine (entryText entry) = (escapeKey entry.1.toList, escapeValue entry.2.toList) := by
  have hkey : splitKey ('=' :: escapeValue entry.2.toList) =
      ([], '=' :: escapeValue entry.2.toList) := splitKey_of_ends (Or.inl rfl) _
  have hafter : afterSeparator ('=' :: escapeValue entry.2.toList) =
      escapeValue entry.2.toList := dropWhile_escapeValue _
  simp only [splitLine, entryText,
    splitKey_append ((paired_escapeKey _).mono fun _ => IsKeyChar.isInKey), hkey, List.append_nil,
    hafter]

theorem readLine_entryText (entry : String × String) : readLine (entryText entry) = .ok entry := by
  rw [readLine, splitLine_entryText]
  simp only [unescape_escapeKey, unescape_escapeValue, String.ofList_toList]

theorem isPrintable_of_mem_entryText {entry : String × String} {d : Char}
    (h : d ∈ entryText entry) : IsPrintable d := by
  rcases List.mem_append.1 h with h | h
  · exact isPrintable_of_mem_escapeKey h
  · rcases List.mem_cons.1 h with rfl | h
    · exact ⟨by decide, by decide⟩
    · exact isPrintable_of_mem_escapeValue h

theorem paired_entryText (entry : String × String) :
    Paired (fun _ => True) (entryText entry) :=
  ((paired_escapeKey _).mono fun _ _ => trivial).append
    ((paired_escapeValue _).plain (by decide) trivial)

/-- A written entry begins with a backslash, with a character of the key that has no meaning of its
own, or with the equal sign after an empty key. -/
theorem entryText_eq_cons (entry : String × String) :
    ∃ c s, entryText entry = c :: s ∧ (c = '\\' ∨ c = '=' ∨ IsKeyChar c) := by
  have hpaired := paired_escapeKey entry.1.toList
  cases hk : escapeKey entry.1.toList with
  | nil => exact ⟨'=', _, by rw [entryText, hk]; rfl, Or.inr (Or.inl rfl)⟩
  | cons c s =>
    refine ⟨c, s ++ '=' :: escapeValue entry.2.toList, by rw [entryText, hk]; rfl, ?_⟩
    rcases (hk ▸ hpaired).head with h | h
    · exact Or.inl h
    · exact Or.inr (Or.inr h)

/-- **Nothing is stripped off a written entry.** -/
theorem body_entryText (entry : String × String) : body (entryText entry) = entryText entry := by
  refine body_eq_self (fun c hc => ?_) fun d hd =>
    (isPrintable_of_mem_entryText (List.mem_of_getLast? hd)).not_lineEnd
  obtain ⟨d, s, hds, hd⟩ := entryText_eq_cons entry
  rw [hds] at hc
  obtain rfl : d = c := Option.some.inj hc
  rcases hd with rfl | rfl | h
  · rfl
  · rfl
  · exact h.1

theorem isSilent_entryText (entry : String × String) : isSilent (entryText entry) = false := by
  obtain ⟨c, s, hcs, hc⟩ := entryText_eq_cons entry
  rw [hcs, isSilent]
  rcases hc with rfl | rfl | h
  · rfl
  · rfl
  · have h2 := h.2
    simp only [isSpecial, Bool.or_eq_false_iff] at h2
    simp only [h2.1.2, h2.2, Bool.or_self]

/-! ### Lines -/

/-- **Written entries are logical lines**, one each, with nothing after the last line feed. -/
theorem logicalLines_entries (entries : List (String × String)) :
    logicalFrom none (entries.map entryText ++ [[]]) = entries.map entryText := by
  induction entries with
  | nil => rfl
  | cons entry entries ih =>
    rw [List.map_cons, List.cons_append, logicalFrom, body_entryText, isSilent_entryText,
      continues_of_paired (paired_entryText entry), if_neg (by simp), if_neg (by simp), ih]

/-- A comment says nothing, whatever it ends with. -/
theorem logicalFrom_comment (text : List Char) (rest : List (List Char)) :
    logicalFrom none (('#' :: text) :: rest) = logicalFrom none rest := by
  rw [logicalFrom, body_cons rfl rfl]
  exact if_pos rfl

/-- **Lines that hold no line feed** are found again behind their line feeds. -/
theorem fields_flatMap_lines {lines : List (List Char)} (h : ∀ l ∈ lines, '\n' ∉ l) :
    Cut.fields '\n' (lines.flatMap fun l => l ++ ['\n']) = lines ++ [[]] := by
  induction lines with
  | nil => rfl
  | cons l lines ih =>
    rw [List.flatMap_cons, List.append_assoc, List.singleton_append,
      Cut.fields_append_cons (h l (by simp)), ih fun l' hl => h l' (by simp [hl])]
    rfl

theorem isLineBreak_of_mem_lines {s l : List Char} {c : Char} (hl : l ∈ Text.lines s)
    (hc : c ∈ l) : Text.isLineBreak c = false := by
  -- a line is either closed by a break, or it is the first line of the rest with one more character
  induction s using Text.lines.induct generalizing l with
  | case1 => simp [Text.lines] at hl
  | case2 rest ih =>
    rw [Text.lines, List.mem_cons] at hl
    rcases hl with rfl | hl
    · simp at hc
    · exact ih hl hc
  | case3 b rest hrn hb ih =>
    rw [Text.lines, if_pos hb, List.mem_cons] at hl
    · rcases hl with rfl | hl
      · simp at hc
      · exact ih hl hc
    · exact hrn
  | case4 b rest hrn hb hempty ih =>
    rw [Text.lines, if_neg hb, hempty] at hl
    · simp only [List.mem_singleton] at hl
      subst hl
      rw [List.mem_singleton] at hc
      subst hc
      exact Bool.not_eq_true _ ▸ hb
    · exact hrn
  | case5 b rest hrn hb line more hlines ih =>
    rw [Text.lines, if_neg hb, hlines] at hl
    · rcases List.mem_cons.1 hl with rfl | hl
      · rcases List.mem_cons.1 hc with rfl | hc
        · exact Bool.not_eq_true _ ▸ hb
        · exact ih (by rw [hlines]; simp) hc
      · exact ih (by rw [hlines]; simp [hl]) hc
    · exact hrn

theorem not_mem_intercalate {a : Char} {ls : List (List Char)} (ha : a ≠ ' ')
    (h : ∀ l ∈ ls, a ∉ l) : a ∉ [' '].intercalate ls := by
  induction ls with
  | nil => simp
  | cons l ls ih =>
    have hl : a ∉ l := h l (by simp)
    cases ls with
    | nil => simpa using hl
    | cons l' ls =>
      rw [List.intercalate_cons_cons]
      simp only [List.mem_append, List.mem_singleton, not_or]
      exact ⟨⟨hl, ha⟩, ih fun m hm => h m (by simp [hm])⟩

/-- **A comment is one line**, whatever line boundaries it had. -/
theorem not_mem_joinLines (comment : List Char) : '\n' ∉ joinLines comment := by
  refine not_mem_intercalate (by decide) fun l hl hn => ?_
  exact absurd (isLineBreak_of_mem_lines hl hn) (by decide)

/-! ### Whole files -/

/-- The lines of a property file, without the line feeds that end them. -/
def fileLines (stamp : Stamp) (comment : Option String) (entries : Dict String String) :
    List (List Char) :=
  comment.elim [] (fun c => ['#' :: joinLines c.toList]) ++
    ('#' :: stamp.text.toList) :: entries.sorted.map entryText

variable (stamp : Stamp)

theorem writeText_eq_flatMap (comment : Option String) (entries : Dict String String) :
    writeText stamp comment entries =
      (fileLines stamp comment entries).flatMap fun l => l ++ ['\n'] := by
  have hentries : entries.sorted.flatMap entryLine =
      (entries.sorted.map entryText).flatMap fun l => l ++ ['\n'] := by
    rw [List.flatMap_map]
    rfl
  rw [writeText, fileLines, List.flatMap_append, List.flatMap_cons, hentries]
  cases comment with
  | none => rfl
  | some c => simp [commentLine]

theorem newline_not_mem_fileLines {comment : Option String} {entries : Dict String String}
    {l : List Char} (h : l ∈ fileLines stamp comment entries) : '\n' ∉ l := by
  rcases List.mem_append.1 h with h | h
  · cases comment with
    | none => simp at h
    | some c =>
      simp only [Option.elim_some, List.mem_singleton] at h
      subst h
      simpa using not_mem_joinLines c.toList
  · rcases List.mem_cons.1 h with rfl | h
    · simpa using stamp.oneLine
    · obtain ⟨entry, -, rfl⟩ := List.mem_map.1 h
      intro hn
      exact absurd (isPrintable_of_mem_entryText hn).not_lineEnd (by decide)

theorem logicalLines_fileLines (comment : Option String) (entries : Dict String String) :
    logicalLines (fileLines stamp comment entries ++ [[]]) = entries.sorted.map entryText := by
  have hstamp : logicalFrom none
      (('#' :: stamp.text.toList) :: (entries.sorted.map entryText ++ [[]])) =
        entries.sorted.map entryText := by
    rw [logicalFrom_comment, logicalLines_entries]
  rw [logicalLines, fileLines]
  cases comment with
  | none => exact hstamp
  | some c =>
    rw [Option.elim_some, List.append_assoc, List.singleton_append, logicalFrom_comment]
    exact hstamp

theorem readLines_map_entryText (entries : List (String × String)) :
    readLines (entries.map entryText) = .ok entries := by
  induction entries with
  | nil => rfl
  | cons entry entries ih =>
    rw [List.map_cons, readLines, readLine_entryText, ih]
    rfl

/-- **The text of a property file holds the entries in ascending order** and nothing else. -/
theorem readText_writeText (comment : Option String) (entries : Dict String String) :
    readText (writeText stamp comment entries) = .ok entries.sorted := by
  rw [readText, writeText_eq_flatMap,
    fields_flatMap_lines fun _ => newline_not_mem_fileLines stamp,
    logicalLines_fileLines, readLines_map_entryText]

theorem read_write (comment : Option String) (entries : Dict String String) :
    read (write stamp comment entries) = .ok (Dict.ofList entries.sorted) := by
  rw [read, write, Utf8.decode_encode]
  simp only [readText_writeText]
  rfl

/-- **Property files round-trip**: the file of a dictionary, whatever date is in its head and with or
without a comment above it, is read, and every key has the value that it had or, as before, none. -/
theorem read_write_eq (comment : Option String) (entries : Dict String String) :
    ∃ found, read (write stamp comment entries) = .ok found ∧
      ∀ key, found.get? key = entries.get? key :=
  ⟨_, read_write stamp comment entries, entries.get?_ofList_sorted⟩

end Property

end BlobRemote
