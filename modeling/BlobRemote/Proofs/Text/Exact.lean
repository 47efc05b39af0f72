import Mathlib
import BlobRemote.Proofs.Text.Utf8

/-!
# Bytes that are read are the ones that spell the text

The strict reader takes no bytes for a text but those that spell it (`BlobRemote.Utf8.encode_decode`),
so two names of references with the same text are the same name. Overlong spellings, surrogates and
what lies beyond the last character are the sequences that would spoil this, and the reader refuses
them. As for the other direction, everything rests on one sequence
(`BlobRemote.Utf8.encodeChar_of_next`), which has one of four widths.
-/

namespace BlobRemote

namespace Utf8

/-! ### One sequence -/

/-- What is said of a byte's number is said of the byte. -/
theorem ofNat_eq_of_toNat {b : UInt8} {n : Nat} (h : b.toNat = n) : UInt8.ofNat n = b :=
  h ▸ UInt8.ofNat_toNat

theorem toNat_ofNat_char {n : Nat} (h : n.isValidChar) : (Char.ofNat n).val.toNat = n := by
  have := Char.toNat_ofNat n
  rwa [if_pos h] at this

/-- The bytes that spell the character with a number. -/
theorem encodeChar_eq {n : Nat} (h : n.isValidChar) :
    String.utf8EncodeChar (Char.ofNat n) =
      if n ≤ 0x7F then [UInt8.ofNat n]
      else if n ≤ 0x7FF then [UInt8.ofNat (n / 64 % 0x20 + 0xC0), UInt8.ofNat (n % 0x40 + 0x80)]
      else if n ≤ 0xFFFF then
        [UInt8.ofNat (n / 4096 % 0x10 + 0xE0), UInt8.ofNat (n / 64 % 0x40 + 0x80),
          UInt8.ofNat (n % 0x40 + 0x80)]
      else
        [UInt8.ofNat (n / 262144 % 0x08 + 0xF0), UInt8.ofNat (n / 4096 % 0x40 + 0x80),
          UInt8.ofNat (n / 64 % 0x40 + 0x80), UInt8.ofNat (n % 0x40 + 0x80)] := by
  unfold String.utf8EncodeChar
  dsimp only
  rw [toNat_ofNat_char h]

theorem isTail_iff {b : UInt8} : isTail b = true ↔ 0x80 ≤ b.toNat ∧ b.toNat ≤ 0xBF := by
  rw [isTail, Bool.and_eq_true, decide_eq_true_iff, decide_eq_true_iff, UInt8.le_iff_toNat_le,
    UInt8.le_iff_toNat_le]
  rfl

variable {b c d e : UInt8} {v : Nat}

theorem encodeChar_one (h : b.toNat < 0x80) :
    String.utf8EncodeChar (Char.ofNat b.toNat) = [b] := by
  have hv : b.toNat.isValidChar := Or.inl (by omega)
  rw [encodeChar_eq hv, if_pos (show b.toNat ≤ 0x7F by omega), UInt8.ofNat_toNat]

theorem encodeChar_two (hb : 0xC2 ≤ b.toNat) (hb' : b.toNat < 0xE0) (hc : isTail c = true)
    (hv : v = (b.toNat - 0xC0) * 0x40 + tailBits c) :
    String.utf8EncodeChar (Char.ofNat v) = [b, c] := by
  rw [isTail_iff] at hc
  unfold tailBits at hv
  have hvalid : v.isValidChar := Or.inl (by omega)
  have h1 : ¬ v ≤ 0x7F := by omega
  have h2 : v ≤ 0x7FF := by omega
  have hfirst : UInt8.ofNat (v / 64 % 0x20 + 0xC0) = b := ofNat_eq_of_toNat (by omega)
  have hlast : UInt8.ofNat (v % 0x40 + 0x80) = c := ofNat_eq_of_toNat (by omega)
  rw [encodeChar_eq hvalid, if_neg h1, if_pos h2, hfirst, hlast]

theorem isSecondOfThree_iff : isSecondOfThree b c = true ↔
    (0x80 ≤ c.toNat ∧ c.toNat ≤ 0xBF) ∧ ¬ (b.toNat = 0xE0 ∧ c.toNat < 0xA0) ∧
      ¬ (b.toNat = 0xED ∧ 0xA0 ≤ c.toNat) := by
  rw [isSecondOfThree, Bool.and_eq_true, Bool.and_eq_true, isTail_iff, Bool.not_eq_true',
    Bool.not_eq_true', ← Bool.not_eq_true, ← Bool.not_eq_true, Bool.and_eq_true, Bool.and_eq_true,
    beq_iff_eq, beq_iff_eq, decide_eq_true_iff, decide_eq_true_iff, UInt8.lt_iff_toNat_lt,
    UInt8.le_iff_toNat_le, ← UInt8.toNat_inj, ← UInt8.toNat_inj, and_assoc]
  rfl

theorem encodeChar_three (hb : 0xE0 ≤ b.toNat) (hb' : b.toNat < 0xF0)
    (hc : isSecondOfThree b c = true) (hd : isTail d = true)
    (hv : v = ((b.toNat - 0xE0) * 0x40 + tailBits c) * 0x40 + tailBits d) :
    String.utf8EncodeChar (Char.ofNat v) = [b, c, d] := by
  rw [isSecondOfThree_iff] at hc
  rw [isTail_iff] at hd
  obtain ⟨hc, hlong, hsurrogate⟩ := hc
  unfold tailBits at hv
  -- neither an overlong spelling nor a surrogate
  have hmin : 0x800 ≤ v := by omega
  have hvalid : v.isValidChar := by
    rw [Nat.isValidChar]
    omega
  have h1 : ¬ v ≤ 0x7F := by omega
  have h2 : ¬ v ≤ 0x7FF := by omega
  have h3 : v ≤ 0xFFFF := by omega
  have hfirst : UInt8.ofNat (v / 4096 % 0x10 + 0xE0) = b := ofNat_eq_of_toNat (by omega)
  have hsecond : UInt8.ofNat (v / 64 % 0x40 + 0x80) = c := ofNat_eq_of_toNat (by omega)
  have hlast : UInt8.ofNat (v % 0x40 + 0x80) = d := ofNat_eq_of_toNat (by omega)
  rw [encodeChar_eq hvalid, if_neg h1, if_neg h2, if_pos h3, hfirst, hsecond, hlast]

theorem isSecondOfFour_iff : isSecondOfFour b c = true ↔
    (0x80 ≤ c.toNat ∧ c.toNat ≤ 0xBF) ∧ ¬ (b.toNat = 0xF0 ∧ c.toNat < 0x90) ∧
      ¬ (b.toNat = 0xF4 ∧ 0x90 ≤ c.toNat) := by
  rw [isSecondOfFour, Bool.and_eq_true, Bool.and_eq_true, isTail_iff, Bool.not_eq_true',
    Bool.not_eq_true', ← Bool.not_eq_true, ← Bool.not_eq_true, Bool.and_eq_true, Bool.and_eq_true,
    beq_iff_eq, beq_iff_eq, decide_eq_true_iff, decide_eq_true_iff, UInt8.lt_iff_toNat_lt,
    UInt8.le_iff_toNat_le, ← UInt8.toNat_inj, ← UInt8.toNat_inj, and_assoc]
  rfl

theorem encodeChar_four (hb : 0xF0 ≤ b.toNat) (hb' : b.toNat < 0xF5)
    (hc : isSecondOfFour b c = true) (hd : isTail d = true) (he : isTail e = true)
    (hv : v =
      (((b.toNat - 0xF0) * 0x40 + tailBits c) * 0x40 + tailBits d) * 0x40 + tailBits e) :
    String.utf8EncodeChar (Char.ofNat v) = [b, c, d, e] := by
  rw [isSecondOfFour_iff] at hc
  rw [isTail_iff] at hd he
  obtain ⟨hc, hlong, hbeyond⟩ := hc
  unfold tailBits at hv
  -- neither an overlong spelling nor beyond the last character
  have hmin : 0x10000 ≤ v := by omega
  have hvalid : v.isValidChar := by
    rw [Nat.isValidChar]
    omega
  have h1 : ¬ v ≤ 0x7F := by omega
  have h2 : ¬ v ≤ 0x7FF := by omega
  have h3 : ¬ v ≤ 0xFFFF := by omega
  have hfirst : UInt8.ofNat (v / 262144 % 0x08 + 0xF0) = b := ofNat_eq_of_toNat (by omega)
  have hsecond : UInt8.ofNat (v / 4096 % 0x40 + 0x80) = c := ofNat_eq_of_toNat (by omega)
  have hthird : UInt8.ofNat (v / 64 % 0x40 + 0x80) = d := ofNat_eq_of_toNat (by omega)
  have hlast : UInt8.ofNat (v % 0x40 + 0x80) = e := ofNat_eq_of_toNat (by omega)
  rw [encodeChar_eq hvalid, if_neg h1, if_neg h2, if_neg h3, hfirst, hsecond, hthird, hlast]

/-- **What is read as a character spells it**: the first byte and those that belong to it. -/
theorem encodeChar_of_next {b : UInt8} {rest : Bytes} {c : Char} {width : Nat}
    (h : next b rest = (.char c, width)) :
    ∃ tail more, rest = tail ++ more ∧ String.utf8EncodeChar c = b :: tail ∧
      width = tail.length + 1 := by
  have lt : ∀ {n : Nat}, n < 0x100 → b < UInt8.ofNat n → b.toNat < n := by
    intro n hn hb
    rwa [UInt8.lt_iff_toNat_lt, toNat_ofNat_byte hn] at hb
  have le : ∀ {n : Nat}, n < 0x100 → ¬ b < UInt8.ofNat n → n ≤ b.toNat := by
    intro n hn hb
    rwa [UInt8.lt_iff_toNat_lt, toNat_ofNat_byte hn, not_lt] at hb
  rw [next] at h
  split at h
  · next h1 =>
    cases h
    exact ⟨[], rest, rfl, encodeChar_one (lt (by decide) h1), rfl⟩
  split at h
  · cases h
  next h2 =>
  split at h
  · next h3 =>
    rw [nextTwo.eq_def] at h
    split at h
    · cases h
    split at h
    · next x more hx =>
      rw [Prod.mk.injEq, Piece.char.injEq] at h
      obtain ⟨rfl, rfl⟩ := h
      exact ⟨[x], more, rfl,
        encodeChar_two (le (by decide) h2) (lt (by decide) h3) hx rfl, rfl⟩
    · cases h
  next h3 =>
  split at h
  · next h4 =>
    rw [nextThree.eq_def] at h
    split at h
    · cases h
    split at h
    · next x rest hx =>
      split at h
      · cases h
      split at h
      · next y more hy =>
        rw [Prod.mk.injEq, Piece.char.injEq] at h
        obtain ⟨rfl, rfl⟩ := h
        exact ⟨[x, y], more, rfl,
          encodeChar_three (le (by decide) h3) (lt (by decide) h4) hx hy rfl, rfl⟩
      · cases h
    · cases h
  next h4 =>
  split at h
  · next h5 =>
    rw [nextFour.eq_def] at h
    split at h
    · cases h
    split at h
    · next x rest hx =>
      split at h
      · cases h
      split at h
      · next y rest hy =>
        split at h
        · cases h
        split at h
        · next z more hz =>
          rw [Prod.mk.injEq, Piece.char.injEq] at h
          obtain ⟨rfl, rfl⟩ := h
          exact ⟨[x, y, z], more, rfl,
            encodeChar_four (le (by decide) h4) (lt (by decide) h5) hx hy hz rfl, rfl⟩
        · cases h
      · cases h
    · cases h
  · cases h

/-! ### Whole texts -/

/-- What is read from a position on spells what was read. -/
theorem encode_decodeFrom {bs : Bytes} {pos : Nat} {s : List Char}
    (h : decodeFrom 0 pos bs = .ok s) : encode s = bs := by
  -- the bytes left get fewer with every character
  induction hlen : bs.length using Nat.strong_induction_on generalizing bs pos s with
  | h k ih =>
    cases bs with
    | nil =>
      cases h
      rfl
    | cons b rest =>
      rw [decodeFrom] at h
      cases hnext : next b rest with
      | mk piece width =>
        rw [hnext] at h
        cases piece with
        | broken reason => cases h
        | char c =>
          obtain ⟨tail, more, rfl, hc, rfl⟩ := encodeChar_of_next hnext
          dsimp only at h
          rw [Nat.add_sub_cancel, decodeFrom_length_append] at h
          cases hmore : decodeFrom 0 (pos + 1 + tail.length) more with
          | error fault =>
            rw [hmore] at h
            cases h
          | ok s' =>
            rw [hmore] at h
            cases h
            have hlt : more.length < k := by
              rw [← hlen, List.length_cons, List.length_append]
              omega
            rw [encode_cons, hc, ih more.length hlt hmore rfl, List.cons_append]

/-- **Writing undoes reading.** -/
theorem encode_decode {bs : Bytes} {s : List Char} (h : decode bs = .ok s) : encode s = bs :=
  encode_decodeFrom h

theorem encodeText_decodeText {bs : Bytes} {text : String} (h : decodeText bs = .ok text) :
    encodeText text = bs := by
  rw [decodeText] at h
  cases hs : decode bs with
  | error fault =>
    rw [hs] at h
    cases h
  | ok s =>
    rw [hs] at h
    cases h
    rw [encodeText, String.toList_ofList, encode_decode hs]

/-- Bytes are text exactly if they spell it. -/
theorem decodeText_eq_ok_iff {bs : Bytes} {text : String} :
    decodeText bs = .ok text ↔ encodeText text = bs := by
  constructor
  · exact encodeText_decodeText
  · rintro rfl
    exact decodeText_encodeText text

/-- What is read behind the bytes of a text is read after the text. -/
theorem decodeFrom_encode_append (s : List Char) (pos : Nat) (rest : Bytes) :
    decodeFrom 0 pos (encode s ++ rest) =
      (decodeFrom 0 (pos + (encode s).length) rest).map (s ++ ·) := by
  induction s generalizing pos with
  | nil => cases h : decodeFrom 0 pos rest <;> simp [encode_nil, h, Except.map]
  | cons c s ih =>
    rw [encode_cons, List.append_assoc, decodeFrom_encodeChar, ih, List.length_append,
      ← Nat.add_assoc]
    cases decodeFrom 0 (pos + (String.utf8EncodeChar c).length + (encode s).length) rest <;> rfl

/-- **Bytes that begin with those of a text** are read as a text that begins with it. -/
theorem decodeText_append {start text : String} {rest : Bytes}
    (h : decodeText (encodeText start ++ rest) = .ok text) : ∃ more, text = start ++ more := by
  rw [decodeText, decode, encodeText, decodeFrom_encode_append] at h
  cases hrest : decodeFrom 0 (0 + (encode start.toList).length) rest with
  | error fault =>
    rw [hrest] at h
    cases h
  | ok s =>
    rw [hrest] at h
    cases h
    refine ⟨String.ofList s, ?_⟩
    rw [← String.toList_inj, String.toList_append, String.toList_ofList, String.toList_ofList]

end Utf8

end BlobRemote
