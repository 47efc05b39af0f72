import Mathlib
import BlobRemote.Proofs.Property.RoundTrip

/-!
# Every spelling of an entry is read

The writer has one way to write an entry, the reader takes many. A character may stand bare, behind a
backslash, as its letter behind a backslash, or as the hexadecimal digits of its code units
(`BlobRemote.Property.SpellsChar`); between a key and its value there may be blanks, a sign, or both.
What may not stand bare is what the reader would take for something else: in a key, a blank or a
separator, and at its beginning also the sign of a comment; at the beginning of a value, a blank or a
separator once more.

The split of the line and the decoding of its halves are two passes, each with an idea of its own of
what an escape is. They agree because a spelled text is paired
(`BlobRemote.Property.Spells.paired`): the split skips a backslash with one character behind it, and
the digits of a code unit, which the decoding takes in addition, end no key. So every spelling is
read as the entry that it spells (`BlobRemote.Property.read_spelled`).
-/

namespace BlobRemote

namespace Property

/-! ### Spelling characters -/

/-- **A hexadecimal digit**, in either case, for a number. -/
def IsHexDigitOf (n : Nat) (c : Char) : Prop :=
  n < 16 ∧ (c = Nat.digitChar n ∨ c = (Nat.digitChar n).toUpper)

instance (n : Nat) (c : Char) : Decidable (IsHexDigitOf n c) := inferInstanceAs (Decidable (_ ∧ _))

/-- **The escape of a code unit**: four digits, the highest first. -/
inductive SpellsUnit (u : Nat) : List Char → Prop
  /-- The digits behind a backslash and the letter `u`. -/
  | digits {a b c d : Char} : IsHexDigitOf (u / 0x1000) a → IsHexDigitOf (u / 0x100 % 0x10) b →
      IsHexDigitOf (u / 0x10 % 0x10) c → IsHexDigitOf (u % 0x10) d →
      SpellsUnit u ['\\', 'u', a, b, c, d]

/-- **The ways to write a character**, where `bare` says of which characters it is allowed that they
stand as they are. -/
inductive SpellsChar (bare : Char → Prop) : Char → List Char → Prop
  /-- It stands as it is. -/
  | bare {c : Char} : c ≠ '\\' → c ≠ '\r' → c ≠ '\n' → bare c → SpellsChar bare c [c]
  /-- It stands behind a backslash, with which it must not mean anything else. -/
  | escaped {c : Char} : c ∉ ['t', 'n', 'r', 'f', 'u', '\r', '\n'] → SpellsChar bare c ['\\', c]
  /-- Its letter stands behind a backslash. -/
  | letter {c l : Char} : (c, l) ∈ [('\t', 't'), ('\n', 'n'), ('\r', 'r'), ('\x0c', 'f')] →
      SpellsChar bare c ['\\', l]
  /-- Its number is its only code unit. -/
  | unit {c : Char} {s : List Char} : SpellsUnit c.toNat s → SpellsChar bare c s
  /-- It has two code units, the surrogates of a character beyond the basic plane. -/
  | pair {c : Char} {high low : Nat} {s t : List Char} :
      c.toNat = 0x10000 + high * 0x400 + low → low < 0x400 → SpellsUnit (0xD800 + high) s →
      SpellsUnit (0xDC00 + low) t → SpellsChar bare c (s ++ t)

/-- **The spellings of a text**, where the first character has a rule of its own for standing
bare. -/
inductive Spells (later : Char → Prop) : (Char → Prop) → List Char → List Char → Prop
  /-- Nothing is spelled by nothing. -/
  | nil {first : Char → Prop} : Spells later first [] []
  /-- One character after another. -/
  | cons {first : Char → Prop} {c : Char} {s piece t : List Char} : SpellsChar first c piece →
      Spells later later s t → Spells later first (c :: s) (piece ++ t)

/-- **A character that may begin a key bare**: it does not end a key, and begins no comment. -/
def IsKeyStart (c : Char) : Prop := IsInKey c ∧ c ≠ '#' ∧ c ≠ '!'

/-- **The spellings of a key.** -/
def SpellsKey (k key : List Char) : Prop := Spells IsInKey IsKeyStart k key

/-- **The spellings of a value**: all that matters is how it begins. -/
def SpellsValue (v value : List Char) : Prop := Spells (fun _ => True) IsInKey v value

/-! ### Digits -/

theorem IsHexDigitOf.spec {n : Nat} {c : Char} (h : IsHexDigitOf n c) :
    (Number.isHexDigit c = true ∧ Number.hexValue c = n) ∧
      c ≠ '\\' ∧ IsInKey c ∧ isLineEnd c = false := by
  have hlower : ∀ n < 16, (Number.isHexDigit (Nat.digitChar n) = true ∧
      Number.hexValue (Nat.digitChar n) = n) ∧ Nat.digitChar n ≠ '\\' ∧
        (isBlank (Nat.digitChar n) = false ∧ isSeparator (Nat.digitChar n) = false) ∧
          isLineEnd (Nat.digitChar n) = false := by
    decide +kernel
  have hupper : ∀ n < 16, (Number.isHexDigit (Nat.digitChar n).toUpper = true ∧
      Number.hexValue (Nat.digitChar n).toUpper = n) ∧ (Nat.digitChar n).toUpper ≠ '\\' ∧
        (isBlank (Nat.digitChar n).toUpper = false ∧
          isSeparator (Nat.digitChar n).toUpper = false) ∧
            isLineEnd (Nat.digitChar n).toUpper = false := by
    decide +kernel
  obtain ⟨hn, rfl | rfl⟩ := h
  · exact hlower n hn
  · exact hupper n hn

section Steps

variable {whole rest : List Char} {us : List Nat}

/-- **The escape of a code unit is read as that unit**, whatever follows. -/
theorem unitsOf_spellsUnit {u : Nat} {s : List Char} (h : SpellsUnit u s)
    (hrest : unitsOf whole rest = .ok us) :
    u < 0x10000 ∧ unitsOf whole (s ++ rest) = .ok (u :: us) := by
  cases h with
  | digits ha hb hc hd =>
    obtain ⟨⟨ha', va⟩, -⟩ := ha.spec
    obtain ⟨⟨hb', vb⟩, -⟩ := hb.spec
    obtain ⟨⟨hc', vc⟩, -⟩ := hc.spec
    obtain ⟨⟨hd', vd⟩, -⟩ := hd.spec
    have hlt : u < 0x10000 := by
      have := ha.1
      omega
    refine ⟨hlt, unitsOf_digits hlt ?_ hrest⟩
    rw [Number.readHex?_of_isHexDigit ha' hb' hc' hd', Number.ofDigits_four, va, vb, vc, vd]
    refine congrArg (fun n : Nat => some (n : Int)) ?_
    omega

/-- **Whatever way a character is written**, it is read as that character. -/
theorem unitsOf_spellsChar {bare : Char → Prop} {c : Char} {piece : List Char}
    (h : SpellsChar bare c piece) (hrest : unitsOf whole rest = .ok us) :
    unitsOf whole (piece ++ rest) = .ok (Utf16.units c.toNat ++ us) := by
  cases h with
  | bare hslash => exact unitsOf_cons hslash hrest
  | escaped hc =>
    simp only [List.mem_cons, List.not_mem_nil, or_false, not_or] at hc
    obtain ⟨ht, hn, hr, hf, hu, -⟩ := hc
    have hof : ofShort c = c := by rw [ofShort, if_neg ht, if_neg hn, if_neg hr, if_neg hf]
    rw [List.cons_append, List.cons_append, List.nil_append, unitsOf_slash hu hrest, hof]
  | @letter l hl =>
    have hread : l ≠ 'u' ∧ ofShort l = c := by
      simp only [List.mem_cons, Prod.mk.injEq, List.not_mem_nil, or_false] at hl
      rcases hl with ⟨rfl, rfl⟩ | ⟨rfl, rfl⟩ | ⟨rfl, rfl⟩ | ⟨rfl, rfl⟩ <;> decide
    rw [List.cons_append, List.cons_append, List.nil_append, unitsOf_slash hread.1 hrest, hread.2]
  | unit hunit =>
    obtain ⟨hlt, hread⟩ := unitsOf_spellsUnit hunit hrest
    rw [hread, Utf16.units_of_lt hlt, List.singleton_append]
  | @pair high low s t hc hlow hs ht =>
    obtain ⟨-, hread⟩ := unitsOf_spellsUnit ht hrest
    have hdiv : (c.toNat - 0x10000) / 0x400 = high := by omega
    have hmod : (c.toNat - 0x10000) % 0x400 = low := by omega
    have hunits : Utf16.units c.toNat = [0xD800 + high, 0xDC00 + low] := by
      rw [Utf16.units, if_neg (by omega), hdiv, hmod]
    rw [List.append_assoc, (unitsOf_spellsUnit hs hread).2, hunits]
    rfl

end Steps

/-! ### Spelled texts -/

variable {later first : Char → Prop} {s t : List Char}

theorem unitsOf_spells (h : Spells later first s t) (whole : List Char) :
    unitsOf whole t = .ok (s.flatMap fun c => Utf16.units c.toNat) := by
  induction h with
  | nil => rfl
  | cons hc _ ih => exact unitsOf_spellsChar hc ih

/-- **A spelled text is decoded to the text.** -/
theorem unescape_of_spells (h : Spells later first s t) : unescape t = .ok s :=
  unescape_of_unitsOf (unitsOf_spells h t)

theorem SpellsUnit.paired {u : Nat} (h : SpellsUnit u s) : Paired IsInKey s := by
  cases h with
  | digits ha hb hc hd =>
    obtain ⟨-, ha, ha', -⟩ := ha.spec
    obtain ⟨-, hb, hb', -⟩ := hb.spec
    obtain ⟨-, hc, hc', -⟩ := hc.spec
    obtain ⟨-, hd, hd', -⟩ := hd.spec
    exact .escape 'u' (.plain ha ha' (.plain hb hb' (.plain hc hc' (.plain hd hd' .nil))))

/-- In whatever way a character is written, what stands unescaped is the character, where it may, or
does not end a key. -/
theorem SpellsChar.paired {bare p : Char → Prop} {c : Char} {piece : List Char}
    (h : SpellsChar bare c piece) (hbare : ∀ c, bare c → p c) (hkey : ∀ c, IsInKey c → p c) :
    Paired p piece := by
  cases h with
  | bare hslash _ _ hc => exact .plain hslash (hbare c hc) .nil
  | escaped => exact .escape _ .nil
  | letter => exact .escape _ .nil
  | unit hunit => exact hunit.paired.mono hkey
  | pair _ _ hs ht => exact (hs.paired.mono hkey).append (ht.paired.mono hkey)

/-- **A spelled text is paired.** -/
theorem Spells.paired {p : Char → Prop} (h : Spells later first s t) (hfirst : ∀ c, first c → p c)
    (hlater : ∀ c, later c → p c) (hkey : ∀ c, IsInKey c → p c) : Paired p t := by
  induction h with
  | nil => exact .nil
  | cons hc _ ih => exact (hc.paired hfirst hkey).append (ih hlater)

theorem SpellsUnit.not_lineEnd {u : Nat} (h : SpellsUnit u s) : ∀ d ∈ s, isLineEnd d = false := by
  cases h with
  | digits ha hb hc hd =>
    intro e he
    simp only [List.mem_cons, List.not_mem_nil, or_false] at he
    rcases he with rfl | rfl | rfl | rfl | rfl | rfl
    · rfl
    · rfl
    · exact ha.spec.2.2.2
    · exact hb.spec.2.2.2
    · exact hc.spec.2.2.2
    · exact hd.spec.2.2.2

theorem SpellsChar.not_lineEnd {bare : Char → Prop} {c : Char} {piece : List Char}
    (h : SpellsChar bare c piece) : ∀ d ∈ piece, isLineEnd d = false := by
  intro d hd
  cases h with
  | bare _ hr hn =>
    rw [List.mem_singleton] at hd
    subst hd
    simp [isLineEnd, hr, hn]
  | escaped hc =>
    rcases List.mem_pair.1 hd with rfl | rfl
    · rfl
    · simp only [List.mem_cons, List.not_mem_nil, or_false, not_or] at hc
      simp [isLineEnd, hc.2.2.2.2.2]
  | letter hl =>
    rcases List.mem_pair.1 hd with rfl | rfl
    · rfl
    · simp only [List.mem_cons, Prod.mk.injEq, List.not_mem_nil, or_false] at hl
      rcases hl with ⟨-, rfl⟩ | ⟨-, rfl⟩ | ⟨-, rfl⟩ | ⟨-, rfl⟩ <;> rfl
  | unit hunit => exact hunit.not_lineEnd d hd
  | pair _ _ hs ht =>
    rcases List.mem_append.1 hd with hd | hd
    · exact hs.not_lineEnd d hd
    · exact ht.not_lineEnd d hd

/-- **A spelled text holds no line end.** -/
theorem Spells.not_lineEnd (h : Spells later first s t) : ∀ d ∈ t, isLineEnd d = false := by
  induction h with
  | nil => simp
  | cons hc _ ih =>
    intro d hd
    rcases List.mem_append.1 hd with hd | hd
    · exact hc.not_lineEnd d hd
    · exact ih d hd

theorem SpellsUnit.head {u : Nat} (h : SpellsUnit u s) : ∃ r, s = '\\' :: r := by
  cases h with
  | digits => exact ⟨_, rfl⟩

/-- **A spelled text begins** with a backslash or with a character that may begin it bare. -/
theorem Spells.head (h : Spells later first s t) (hs : s ≠ []) :
    ∃ d r, t = d :: r ∧ (d = '\\' ∨ first d) := by
  cases h with
  | nil => exact absurd rfl hs
  | cons hc _ =>
    cases hc with
    | bare _ _ _ hc => exact ⟨_, _, rfl, Or.inr hc⟩
    | escaped => exact ⟨_, _, rfl, Or.inl rfl⟩
    | letter => exact ⟨_, _, rfl, Or.inl rfl⟩
    | unit hunit =>
      obtain ⟨r, rfl⟩ := hunit.head
      exact ⟨_, _, rfl, Or.inl rfl⟩
    | pair _ _ hu =>
      obtain ⟨r, rfl⟩ := hu.head
      exact ⟨_, _, rfl, Or.inl rfl⟩

theorem Spells.eq_nil (h : Spells later first [] t) : t = [] := by
  cases h
  rfl

/-! ### Between a key and its value -/

section Entries

variable {k v key value before sep after : List Char}

/-- **What may separate a key from its value**: a sign, with blanks around it or not, or blanks
alone if there is a key. -/
structure Separates (k before sep after : List Char) : Prop where
  /-- Blanks come first. -/
  isBlank_before : ∀ c ∈ before, isBlank c = true
  /-- Blanks come last. -/
  isBlank_after : ∀ c ∈ after, isBlank c = true
  /-- The sign, or blanks in its place. -/
  sign : sep = ['='] ∨ sep = [':'] ∨ sep = [] ∧ k ≠ [] ∧ (before ≠ [] ∨ after ≠ [])

/-- Blanks and separators are neither line ends nor backslashes. -/
theorem Separates.plain (h : Separates k before sep after) :
    ∀ d ∈ before ++ sep ++ after, isLineEnd d = false ∧ d ≠ '\\' := by
  intro d hd
  simp only [List.mem_append] at hd
  rcases hd with (hd | hd) | hd
  · exact plain_of_isBlank (h.isBlank_before d hd)
  · rcases h.sign with rfl | rfl | ⟨rfl, -⟩
    · obtain rfl := List.mem_singleton.1 hd
      exact ⟨rfl, by decide⟩
    · obtain rfl := List.mem_singleton.1 hd
      exact ⟨rfl, by decide⟩
    · cases hd
  · exact plain_of_isBlank (h.isBlank_after d hd)

/-- **The key ends** where what separates it from its value begins. -/
theorem Separates.splitKey (h : Separates k before sep after) (value : List Char) :
    splitKey (before ++ sep ++ after ++ value) = ([], before ++ sep ++ after ++ value) := by
  obtain ⟨c, r, hcr, hc⟩ : ∃ c r, before ++ sep ++ after ++ value = c :: r ∧
      (isSeparator c = true ∨ isBlank c = true) := by
    cases before with
    | cons c before => exact ⟨c, _, rfl, Or.inr (h.isBlank_before c List.mem_cons_self)⟩
    | nil =>
      rcases h.sign with rfl | rfl | ⟨rfl, -, hblanks⟩
      · exact ⟨'=', _, rfl, Or.inl rfl⟩
      · exact ⟨':', _, rfl, Or.inl rfl⟩
      · cases after with
        | cons c after => exact ⟨c, _, rfl, Or.inr (h.isBlank_after c List.mem_cons_self)⟩
        | nil => simp at hblanks
  rw [hcr, splitKey_of_ends hc]

/-- **The value begins** where what separates it from its key ends. -/
theorem Separates.afterSeparator (h : Separates k before sep after)
    (hvalue : ∀ d ∈ value.head?, IsInKey d) :
    afterSeparator (before ++ sep ++ after ++ value) = value := by
  have hdrop : (after ++ value).dropWhile isBlank = value := by
    rw [dropWhile_append_of_all h.isBlank_after]
    exact dropWhile_isBlank_eq_self fun d hd => (hvalue d hd).1
  rw [Property.afterSeparator, List.append_assoc, List.append_assoc,
    dropWhile_append_of_all h.isBlank_before]
  rcases h.sign with rfl | rfl | ⟨rfl, -, -⟩
  · exact hdrop
  · exact hdrop
  · rw [List.nil_append, hdrop]
    cases value with
    | nil => rfl
    | cons d r =>
      dsimp only
      rw [if_neg (by simp [(hvalue d rfl).2])]

/-- A value begins neither with a blank nor with a separator. -/
theorem SpellsValue.isInKey_head (h : SpellsValue v value) : ∀ d ∈ value.head?, IsInKey d := by
  intro d hd
  cases v with
  | nil =>
    obtain rfl := h.eq_nil
    cases hd
  | cons c v =>
    obtain ⟨e, r, rfl, he⟩ := h.head (List.cons_ne_nil c v)
    obtain rfl : e = d := Option.some.inj hd
    rcases he with rfl | he
    · exact ⟨rfl, rfl⟩
    · exact he

/-- **A spelled line is split** where its key and its value are, and these are decoded. -/
theorem readLine_spelled (hk : SpellsKey k key) (hv : SpellsValue v value)
    (h : Separates k before sep after) :
    readLine (key ++ (before ++ sep ++ after ++ value)) =
      .ok (String.ofList k, String.ofList v) := by
  have hkey : Paired IsInKey key := hk.paired (fun _ hc => hc.1) (fun _ hc => hc) fun _ hc => hc
  rw [readLine, splitLine, splitKey_append hkey, h.splitKey, List.append_nil]
  simp only [h.afterSeparator hv.isInKey_head, unescape_of_spells hk, unescape_of_spells hv]

/-! ### Lines and files -/

/-- **A file of one line**, which begins with blanks and then with a character that is neither a
blank nor the sign of a comment. -/
theorem readText_of_line {blanks line : List Char} (hblanks : ∀ c ∈ blanks, isBlank c = true)
    (hstart : ∃ c r, line = c :: r ∧ isBlank c = false ∧ c ≠ '#' ∧ c ≠ '!')
    (hend : ∀ d ∈ line, isLineEnd d = false) (hpaired : Paired (fun _ => True) line) :
    readText (blanks ++ line) = readLines [line] := by
  obtain ⟨c, r, hcr, hc, hcomment, hcomment'⟩ := hstart
  have hfeed : '\n' ∉ blanks ++ line := by
    intro hn
    rcases List.mem_append.1 hn with hn | hn
    · exact absurd (hblanks _ hn) (by decide)
    · exact absurd (hend _ hn) (by decide)
  have hbody : body (blanks ++ line) = line := by
    rw [body_blanks_append hblanks]
    refine body_eq_self (fun d hd => ?_) fun d hd => hend d (List.mem_of_getLast? hd)
    rw [hcr] at hd
    obtain rfl : c = d := Option.some.inj hd
    exact hc
  have hsilent : isSilent line = false := by
    rw [hcr]
    simp [isSilent, hcomment, hcomment']
  rw [readText, Cut.fields_eq_singleton hfeed, logicalLines, logicalFrom, hbody]
  simp only [hsilent, continues_of_paired hpaired, Bool.false_eq_true, if_false, logicalFrom]

theorem readText_spelled {blanks : List Char} (hblanks : ∀ c ∈ blanks, isBlank c = true)
    (hk : SpellsKey k key) (hv : SpellsValue v value) (h : Separates k before sep after)
    (hstart : ∃ c r, key ++ (before ++ sep ++ after ++ value) = c :: r ∧ isBlank c = false ∧
      c ≠ '#' ∧ c ≠ '!') :
    readText (blanks ++ (key ++ (before ++ sep ++ after ++ value))) =
      .ok [(String.ofList k, String.ofList v)] := by
  have hpaired : Paired (fun _ => True) (key ++ (before ++ sep ++ after ++ value)) := by
    have hbetween : Paired (fun _ => True) (before ++ sep ++ after) :=
      .of_forall fun d hd => ⟨(h.plain d hd).2, trivial⟩
    have htrue : ∀ c, IsInKey c → True := fun _ _ => trivial
    exact (hk.paired (fun _ _ => trivial) htrue htrue).append
      (hbetween.append (hv.paired htrue (fun _ _ => trivial) htrue))
  have hends : ∀ d ∈ key ++ (before ++ sep ++ after ++ value), isLineEnd d = false := by
    intro d hd
    rcases List.mem_append.1 hd with hd | hd
    · exact hk.not_lineEnd d hd
    · rcases List.mem_append.1 hd with hd | hd
      · exact (h.plain d hd).1
      · exact hv.not_lineEnd d hd
  rw [readText_of_line hblanks hstart hends hpaired, readLines, readLine_spelled hk hv h]
  rfl

/-- **Every legal spelling of an entry is read as the entry.** A file of one line, with blanks before
the key, any spelling of the key, what may separate it from the value, and any spelling of the value,
holds the key with the value and nothing else. -/
theorem read_spelled {blanks : List Char} (hblanks : ∀ c ∈ blanks, isBlank c = true)
    (hk : SpellsKey k key) (hv : SpellsValue v value) (h : Separates k before sep after) :
    read (Utf8.encode (blanks ++ key ++ before ++ sep ++ after ++ value)) =
      .ok (Dict.ofList [(String.ofList k, String.ofList v)]) := by
  have htext : readText (blanks ++ key ++ before ++ sep ++ after ++ value) =
      .ok [(String.ofList k, String.ofList v)] := by
    cases k with
    | nil =>
      -- without a key, the blanks behind it belong to those at the beginning
      obtain rfl := hk.eq_nil
      have hgap : Separates [] [] sep after := ⟨by simp, h.isBlank_after, h.sign.imp_right fun hs =>
        hs.imp_right fun hnil => absurd rfl hnil.2.1⟩
      have hall : ∀ c ∈ blanks ++ before, isBlank c = true := by
        intro c hc
        rcases List.mem_append.1 hc with hc | hc
        · exact hblanks c hc
        · exact h.isBlank_before c hc
      have hstart : ∃ c r, [] ++ ([] ++ sep ++ after ++ value) = c :: r ∧ isBlank c = false ∧
          c ≠ '#' ∧ c ≠ '!' := by
        rcases h.sign with rfl | rfl | ⟨-, hnil, -⟩
        · exact ⟨'=', _, rfl, rfl, by decide, by decide⟩
        · exact ⟨':', _, rfl, rfl, by decide, by decide⟩
        · exact absurd rfl hnil
      have hread := readText_spelled hall hk hv hgap hstart
      simpa only [List.append_assoc, List.nil_append] using hread
    | cons c k =>
      obtain ⟨d, r, hd, hstart⟩ := hk.head (List.cons_ne_nil c k)
      have hread := readText_spelled hblanks hk hv h ⟨d, _, by rw [hd]; rfl, ?_⟩
      · simpa only [List.append_assoc] using hread
      · rcases hstart with rfl | hstart
        · exact ⟨rfl, by decide, by decide⟩
        · exact ⟨hstart.1.1, hstart.2⟩
  rw [read, Utf8.decode_encode]
  simp only [htext]
  rfl

end Entries

/-- A key with an escaped separator in it and an escape in lower case, and a value whose character
has two code units. -/
theorem read_spelled_of_escapes :
    SpellsKey ['a', '=', 'é'] ['a', '\\', '=', '\\', 'u', '0', '0', 'e', '9'] ∧
      SpellsValue ['😀', ' '] ['\\', 'u', 'd', '8', '3', 'd', '\\', 'u', 'D', 'E', '0', '0', ' '] ∧
      Separates ['a', '=', 'é'] ['\t'] [] [] ∧
      read (Utf8.encode (['\x0c'] ++ ['a', '\\', '=', '\\', 'u', '0', '0', 'e', '9'] ++ ['\t'] ++
          [] ++ [] ++ ['\\', 'u', 'd', '8', '3', 'd', '\\', 'u', 'D', 'E', '0', '0', ' '])) =
        .ok (Dict.ofList [("a=é", "😀 ")]) := by
  have hk : SpellsKey ['a', '=', 'é'] ['a', '\\', '=', '\\', 'u', '0', '0', 'e', '9'] :=
    .cons (.bare (by decide) (by decide) (by decide) ⟨⟨rfl, rfl⟩, by decide, by decide⟩)
      (.cons (.escaped (by decide))
        (.cons (.unit (.digits (by decide) (by decide) (by decide) (by decide))) .nil))
  have hchar : '😀'.toNat = 0x10000 + 0x3D * 0x400 + 0x200 := by decide +kernel
  have hhigh : SpellsUnit (0xD800 + 0x3D) ['\\', 'u', 'd', '8', '3', 'd'] :=
    .digits (by decide +kernel) (by decide +kernel) (by decide +kernel) (by decide +kernel)
  have hlow : SpellsUnit (0xDC00 + 0x200) ['\\', 'u', 'D', 'E', '0', '0'] :=
    .digits (by decide +kernel) (by decide +kernel) (by decide +kernel) (by decide +kernel)
  have hpair : SpellsChar IsInKey '😀'
      (['\\', 'u', 'd', '8', '3', 'd'] ++ ['\\', 'u', 'D', 'E', '0', '0']) :=
    @SpellsChar.pair IsInKey '😀' 0x3D 0x200 _ _ hchar (by decide) hhigh hlow
  have hv : SpellsValue ['😀', ' ']
      ['\\', 'u', 'd', '8', '3', 'd', '\\', 'u', 'D', 'E', '0', '0', ' '] :=
    .cons hpair (.cons (.bare (by decide) (by decide) (by decide) trivial) .nil)
  have h : Separates ['a', '=', 'é'] ['\t'] [] [] :=
    ⟨by simp [isBlank], by simp, Or.inr (Or.inr ⟨rfl, by decide, Or.inl (by decide)⟩)⟩
  exact ⟨hk, hv, h, read_spelled (by simp [isBlank]) hk hv h⟩

end Property

end BlobRemote
