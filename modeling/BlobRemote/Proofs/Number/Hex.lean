import Mathlib
import BlobRemote.Number.Hex

/-!
# Four hexadecimal digits

Of all the spellings that `BlobRemote.Number.readHex?` takes, the plain one: hexadecimal digits of
either case and nothing else. They are read at their value
(`BlobRemote.Number.readHex?_of_isHexDigit`), because nothing in them is taken for a blank, a sign,
the mark of the base or an underscore. The other spellings add no more than these and the digits of
other scripts (`BlobRemote.Number.isHexDigit_of_mem`).
-/

namespace BlobRemote

namespace Number

/-- A character as it stands in a number in ASCII digits. -/
def asciiDigit (c : Char) : Char :=
  match Text.digitValue? c with
  | some d => Char.ofNat (0x30 + d)
  | none => c

theorem lt_of_isHexDigit {c : Char} (h : isHexDigit c = true) : c.toNat < 0x67 := by
  simp only [isHexDigit, Char.isDigit, Bool.or_eq_true, Bool.and_eq_true, decide_eq_true_eq,
    ge_iff_le, UInt32.le_iff_toNat_le, Char.le_def] at h
  have h9 : ('9' : Char).val.toNat = 0x39 := rfl
  have hf : ('f' : Char).val.toNat = 0x66 := rfl
  have hF : ('F' : Char).val.toNat = 0x46 := rfl
  change c.val.toNat < 0x67
  omega

/-- **A hexadecimal digit is nothing else**: no blank, no sign, no mark of a base, no underscore. -/
theorem plain_of_isHexDigit {c : Char} (h : isHexDigit c = true) :
    isPadding c = false ∧ asciiDigit c = c ∧
      c ≠ '-' ∧ c ≠ '+' ∧ c ≠ 'x' ∧ c ≠ 'X' ∧ c ≠ '_' := by
  have key : ∀ n < 0x67, isHexDigit (Char.ofNat n) = true →
      isPadding (Char.ofNat n) = false ∧ asciiDigit (Char.ofNat n) = Char.ofNat n ∧
        Char.ofNat n ≠ '-' ∧ Char.ofNat n ≠ '+' ∧ Char.ofNat n ≠ 'x' ∧ Char.ofNat n ≠ 'X' ∧
          Char.ofNat n ≠ '_' := by
    decide +kernel
  have := key c.toNat (lt_of_isHexDigit h)
  rw [Char.ofNat_toNat] at this
  exact this h

theorem plain_of_forall {s : List Char} (h : ∀ c ∈ s, isHexDigit c = true) : plain s = s := by
  have hp : ∀ c ∈ s, isPadding c = false := fun c hc => (plain_of_isHexDigit (h c hc)).1
  have h1 : s.dropWhile isPadding = s := by
    cases s with
    | nil => rfl
    | cons c s => rw [List.dropWhile_cons, if_neg (by simp [hp c (by simp)])]
  have h2 : s.reverse.dropWhile isPadding = s.reverse := by
    cases hr : s.reverse with
    | nil => rfl
    | cons c r =>
      have hc : c ∈ s := List.mem_reverse.1 (by simp [hr])
      rw [List.dropWhile_cons, if_neg (by simp [hp c hc])]
  have h3 : s.map asciiDigit = s := by
    refine (List.map_congr_left fun c hc => ?_).trans (List.map_id s)
    exact (plain_of_isHexDigit (h c hc)).2.1
  change ((s.dropWhile isPadding).reverse.dropWhile isPadding).reverse.map asciiDigit = s
  rw [h1, h2, List.reverse_reverse, h3]

theorem joinedFrom?_of_forall {s : List Char} (h : ∀ c ∈ s, isHexDigit c = true) (b : Bool) :
    joinedFrom? isHexDigit b s = some s := by
  induction s generalizing b with
  | nil => rw [joinedFrom?]
  | cons c s ih =>
    have hc : c ≠ '_' := (plain_of_isHexDigit (h c (by simp))).2.2.2.2.2.2
    rw [joinedFrom?, if_neg hc, ih fun x hx => h x (by simp [hx])]
    · rfl
    · rintro c' rest rfl
      exact absurd rfl hc

/-- **Four hexadecimal digits are read at their value.** -/
theorem readHex?_of_isHexDigit {a b c d : Char} (ha : isHexDigit a = true)
    (hb : isHexDigit b = true) (hc : isHexDigit c = true) (hd : isHexDigit d = true) :
    readHex? [a, b, c, d] = some (ofDigits 16 hexValue [a, b, c, d] : Int) := by
  have hall : ∀ x ∈ [a, b, c, d], isHexDigit x = true := by simp [ha, hb, hc, hd]
  obtain ⟨-, -, hminus, hplus, -⟩ := plain_of_isHexDigit ha
  obtain ⟨-, -, -, -, hx, hX, -⟩ := plain_of_isHexDigit hb
  have hs : sign [a, b, c, d] = (false, [a, b, c, d]) := by simp [sign, hminus, hplus]
  have hbase : afterBase [a, b, c, d] = [a, b, c, d] := by simp [afterBase, hx, hX]
  have hj : joined? isHexDigit [a, b, c, d] = some [a, b, c, d] := joinedFrom?_of_forall hall false
  have hd : ([a, b, c, d].isEmpty || !([a, b, c, d].all isHexDigit)) = false := by
    simp [ha, hb, hc, hd]
  rw [readHex?, plain_of_forall hall, hs]
  simp only [hbase, hj, hd, Option.bind_eq_bind, Option.bind_some, Option.pure_def,
    Bool.false_eq_true, if_false]

theorem ofDigits_four (base : Nat) (value : Char → Nat) (a b c d : Char) :
    ofDigits base value [a, b, c, d] =
      base * (base * (base * value a + value b) + value c) + value d := by
  simp only [ofDigits, List.foldl_cons, List.foldl_nil, Nat.mul_zero, Nat.zero_add]

/-! ### What may stand in a number -/

section Characters

variable {c : Char} {s : List Char}

theorem mem_dropWhile_of_mem {p : Char → Bool} (h : c ∈ s) (hc : p c = false) :
    c ∈ s.dropWhile p := by
  rw [← List.takeWhile_append_dropWhile (p := p) (l := s)] at h
  rcases List.mem_append.1 h with h | h
  · exact absurd (List.mem_takeWhile_imp h) (by simp [hc])
  · exact h

theorem mem_plain (h : c ∈ s) (hpadding : isPadding c = false) (hdigit : asciiDigit c = c) :
    c ∈ plain s := by
  have hinner : c ∈ ((s.dropWhile isPadding).reverse.dropWhile isPadding).reverse :=
    List.mem_reverse.2 (mem_dropWhile_of_mem
      (List.mem_reverse.2 (mem_dropWhile_of_mem h hpadding)) hpadding)
  exact List.mem_map.2 ⟨c, hinner, hdigit⟩

theorem mem_sign (h : c ∈ s) (hminus : c ≠ '-') (hplus : c ≠ '+') : c ∈ (sign s).2 := by
  fun_cases sign s with
  | case1 rest => exact List.mem_of_ne_of_mem hminus h
  | case2 rest => exact List.mem_of_ne_of_mem hplus h
  | case3 => exact h

theorem mem_afterBase (h : c ∈ s) (hmark : c ∉ ['0', 'x', 'X', '_']) : c ∈ afterBase s := by
  simp only [List.mem_cons, List.not_mem_nil, or_false, not_or] at hmark
  fun_cases afterBase s <;> simp_all

theorem mem_of_joinedFrom? {isDigit : Char → Bool} {b : Bool} {t : List Char}
    (ht : joinedFrom? isDigit b s = some t) (h : c ∈ s) (hc : c ≠ '_') : c ∈ t := by
  fun_induction joinedFrom? isDigit b s generalizing t with
  | case1 => cases h
  | case2 b d rest hd ih =>
    obtain ⟨u, hu, rfl⟩ := Option.map_eq_some_iff.1 ht
    rcases List.mem_cons.1 (List.mem_of_ne_of_mem hc h) with rfl | h
    · exact List.mem_cons_self
    · exact List.mem_cons_of_mem d (ih hu h)
  | case3 => cases ht
  | case4 => cases ht
  | case5 b d rest _ hd ih =>
    obtain ⟨u, hu, rfl⟩ := Option.map_eq_some_iff.1 ht
    rcases List.mem_cons.1 h with rfl | h
    · exact List.mem_cons_self
    · exact List.mem_cons_of_mem d (ih hu h)

/-- **A number holds hexadecimal digits**, and besides them only blanks, the digits of other
scripts, a sign, the mark of the base and underscores. -/
theorem isHexDigit_of_mem {n : Int} (hread : readHex? s = some n) (h : c ∈ s)
    (hpadding : isPadding c = false) (hdigit : asciiDigit c = c)
    (hmark : c ∉ ['-', '+', '0', 'x', 'X', '_']) : isHexDigit c = true := by
  simp only [List.mem_cons, List.not_mem_nil, or_false, not_or] at hmark
  obtain ⟨hminus, hplus, hzero, hx, hX, hunderscore⟩ := hmark
  rw [readHex?, Option.bind_eq_bind, Option.bind_eq_some_iff] at hread
  obtain ⟨digits, hdigits, hread⟩ := hread
  have hmem : c ∈ digits := by
    refine mem_of_joinedFrom? hdigits (mem_afterBase ?_ ?_) hunderscore
    · exact mem_sign (mem_plain h hpadding hdigit) hminus hplus
    · simp [hzero, hx, hX, hunderscore]
  obtain ⟨⟨-, hall⟩, -⟩ : (¬ digits = [] ∧ ∀ d ∈ digits, isHexDigit d = true) ∧ _ := by
    simpa using hread
  exact hall c hmem

end Characters

end Number

end BlobRemote
