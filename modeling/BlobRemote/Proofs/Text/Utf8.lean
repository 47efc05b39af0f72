import Mathlib
import BlobRemote.Text.Utf8

/-!
# Reading what was written in UTF-8

The strict reader gives back the characters of a text from the bytes that spell it
(`BlobRemote.Utf8.decode_encode`). The reader looks at the front of what is left and says how many
bytes belong together, so everything rests on one statement about a single character
(`BlobRemote.Utf8.next_encodeChar`): the bytes that spell it are taken for that character, all of
them, whatever stands behind them. The four widths of a sequence are four lemmas, in which bytes are
compared as natural numbers.
-/

namespace BlobRemote

namespace Utf8

/-! ### Bytes as natural numbers -/

theorem toNat_ofNat_byte {n : Nat} (h : n < 0x100) : (UInt8.ofNat n).toNat = n := by
  rw [UInt8.toNat_ofNat']
  exact Nat.mod_eq_of_lt h

/-- A byte that follows the first one of a sequence holds six bits. -/
theorem isTail_ofNat (n : Nat) : isTail (UInt8.ofNat (n % 0x40 + 0x80)) = true := by
  have h : (UInt8.ofNat (n % 0x40 + 0x80)).toNat = n % 0x40 + 0x80 := toNat_ofNat_byte (by omega)
  rw [isTail, Bool.and_eq_true, decide_eq_true_iff, decide_eq_true_iff, UInt8.le_iff_toNat_le,
    UInt8.le_iff_toNat_le, h]
  constructor
  · change 0x80 ≤ _
    omega
  · change _ ≤ 0xBF
    omega

theorem tailBits_ofNat (n : Nat) : tailBits (UInt8.ofNat (n % 0x40 + 0x80)) = n % 0x40 := by
  have h : n % 0x40 + 0x80 < 0x100 := by omega
  unfold tailBits
  rw [toNat_ofNat_byte h]
  omega

/-! ### One sequence -/

theorem next_of_lt {n : Nat} (h : n < 0x80) (rest : Bytes) :
    next (UInt8.ofNat n) rest = (.char (Char.ofNat n), 1) := by
  have hn : (UInt8.ofNat n).toNat = n := toNat_ofNat_byte (by omega)
  have hlt : UInt8.ofNat n < 0x80 := by
    rw [UInt8.lt_iff_toNat_lt, hn]
    exact h
  rw [next, if_pos hlt, hn]

/-- **The first byte tells the width** of a sequence of more than one byte. -/
theorem next_of_le {n : Nat} (h : 0xC2 ≤ n) (h' : n < 0xF5) (rest : Bytes) :
    next (UInt8.ofNat n) rest =
      if n < 0xE0 then nextTwo (UInt8.ofNat n) rest
      else if n < 0xF0 then nextThree (UInt8.ofNat n) rest
      else nextFour (UInt8.ofNat n) rest := by
  have hn : (UInt8.ofNat n).toNat = n := toNat_ofNat_byte (by omega)
  have key : ∀ b : UInt8, UInt8.ofNat n < b ↔ n < b.toNat := fun b => by
    rw [UInt8.lt_iff_toNat_lt, hn]
  have h1 : ¬ n < (0x80 : UInt8).toNat := by change ¬ n < 0x80; omega
  have h2 : ¬ n < (0xC2 : UInt8).toNat := by change ¬ n < 0xC2; omega
  have h3 : n < (0xF5 : UInt8).toNat := h'
  simp only [next, key, if_neg h1, if_neg h2, if_pos h3]
  rfl

theorem nextTwo_ofNat {v : Nat} (h : 0x80 ≤ v) (h' : v < 0x800) (rest : Bytes) :
    nextTwo (UInt8.ofNat (v / 64 % 0x20 + 0xC0)) (UInt8.ofNat (v % 0x40 + 0x80) :: rest) =
      (.char (Char.ofNat v), 2) := by
  rw [nextTwo, if_pos (isTail_ofNat v), tailBits_ofNat, toNat_ofNat_byte (by omega)]
  congr 3
  omega

theorem nextThree_ofNat {v : Nat} (h : 0x800 ≤ v) (h' : v < 0x10000)
    (hs : ¬ (0xD800 ≤ v ∧ v < 0xE000)) (rest : Bytes) :
    nextThree (UInt8.ofNat (v / 4096 % 0x10 + 0xE0))
        (UInt8.ofNat (v / 64 % 0x40 + 0x80) :: UInt8.ofNat (v % 0x40 + 0x80) :: rest) =
      (.char (Char.ofNat v), 3) := by
  have hb : (UInt8.ofNat (v / 4096 % 0x10 + 0xE0)).toNat = v / 4096 % 0x10 + 0xE0 :=
    toNat_ofNat_byte (by omega)
  have hc : (UInt8.ofNat (v / 64 % 0x40 + 0x80)).toNat = v / 64 % 0x40 + 0x80 :=
    toNat_ofNat_byte (by omega)
  -- neither an overlong spelling nor a surrogate
  have second : isSecondOfThree (UInt8.ofNat (v / 4096 % 0x10 + 0xE0))
      (UInt8.ofNat (v / 64 % 0x40 + 0x80)) = true := by
    simp only [isSecondOfThree, isTail_ofNat, Bool.true_and, Bool.and_eq_true, Bool.not_eq_true',
      Bool.and_eq_false_iff, beq_eq_false_iff_ne, decide_eq_false_iff_not, ne_eq,
      ← UInt8.toNat_inj, UInt8.lt_iff_toNat_lt, UInt8.le_iff_toNat_le, hb, hc]
    constructor
    · change ¬ _ = 0xE0 ∨ ¬ _ < 0xA0
      omega
    · change ¬ _ = 0xED ∨ ¬ 0xA0 ≤ _
      omega
  rw [nextThree, if_pos second]
  simp only [isTail_ofNat, if_true, tailBits_ofNat, hb]
  congr 3
  omega

theorem nextFour_ofNat {v : Nat} (h : 0x10000 ≤ v) (h' : v < 0x110000) (rest : Bytes) :
    nextFour (UInt8.ofNat (v / 262144 % 0x08 + 0xF0))
        (UInt8.ofNat (v / 4096 % 0x40 + 0x80) :: UInt8.ofNat (v / 64 % 0x40 + 0x80) ::
          UInt8.ofNat (v % 0x40 + 0x80) :: rest) =
      (.char (Char.ofNat v), 4) := by
  have hb : (UInt8.ofNat (v / 262144 % 0x08 + 0xF0)).toNat = v / 262144 % 0x08 + 0xF0 :=
    toNat_ofNat_byte (by omega)
  have hc : (UInt8.ofNat (v / 4096 % 0x40 + 0x80)).toNat = v / 4096 % 0x40 + 0x80 :=
    toNat_ofNat_byte (by omega)
  -- neither an overlong spelling nor beyond the last character
  have second : isSecondOfFour (UInt8.ofNat (v / 262144 % 0x08 + 0xF0))
      (UInt8.ofNat (v / 4096 % 0x40 + 0x80)) = true := by
    simp only [isSecondOfFour, isTail_ofNat, Bool.true_and, Bool.and_eq_true, Bool.not_eq_true',
      Bool.and_eq_false_iff, beq_eq_false_iff_ne, decide_eq_false_iff_not, ne_eq,
      ← UInt8.toNat_inj, UInt8.lt_iff_toNat_lt, UInt8.le_iff_toNat_le, hb, hc]
    constructor
    · change ¬ _ = 0xF0 ∨ ¬ _ < 0x90
      omega
    · change ¬ _ = 0xF4 ∨ ¬ 0x90 ≤ _
      omega
  rw [nextFour, if_pos second]
  simp only [isTail_ofNat, if_true, tailBits_ofNat, hb]
  congr 3
  omega

/-- **The bytes of a character are read as that character**, all of them, whatever follows. -/
theorem next_encodeChar (c : Char) :
    ∃ b tail, String.utf8EncodeChar c = b :: tail ∧
      ∀ rest, next b (tail ++ rest) = (.char c, tail.length + 1) := by
  have hc : Char.ofNat c.val.toNat = c := Char.ofNat_toNat c
  have hv := c.valid
  rw [UInt32.isValidChar, Nat.isValidChar] at hv
  rw [String.utf8EncodeChar]
  by_cases h1 : c.val.toNat ≤ 0x7F
  · refine ⟨_, [], if_pos h1, fun rest => ?_⟩
    rw [List.nil_append, next_of_lt (by omega), hc]
    rfl
  by_cases h2 : c.val.toNat ≤ 0x7FF
  · refine ⟨_, _, by rw [if_neg h1, if_pos h2], fun rest => ?_⟩
    rw [next_of_le (by omega) (by omega), if_pos (by omega), List.cons_append, List.nil_append,
      nextTwo_ofNat (by omega) (by omega), hc]
    rfl
  by_cases h3 : c.val.toNat ≤ 0xFFFF
  · refine ⟨_, _, by rw [if_neg h1, if_neg h2, if_pos h3], fun rest => ?_⟩
    rw [next_of_le (by omega) (by omega), if_neg (by omega), if_pos (by omega), List.cons_append,
      List.cons_append, List.nil_append, nextThree_ofNat (by omega) (by omega) (by omega), hc]
    rfl
  · refine ⟨_, _, by rw [if_neg h1, if_neg h2, if_neg h3], fun rest => ?_⟩
    rw [next_of_le (by omega) (by omega), if_neg (by omega), if_neg (by omega), List.cons_append,
      List.cons_append, List.cons_append, List.nil_append,
      nextFour_ofNat (by omega) (by omega), hc]
    rfl

/-! ### Whole texts -/

/-- The bytes of a sequence that is read already are passed over. -/
theorem decodeFrom_length_append (tail rest : Bytes) (pos : Nat) :
    decodeFrom tail.length pos (tail ++ rest) = decodeFrom 0 (pos + tail.length) rest := by
  induction tail generalizing pos with
  | nil => rfl
  | cons b tail ih =>
    rw [List.length_cons, List.cons_append, decodeFrom, ih]
    congr 1
    omega

theorem decodeFrom_encodeChar (c : Char) (pos : Nat) (rest : Bytes) :
    decodeFrom 0 pos (String.utf8EncodeChar c ++ rest) =
      (decodeFrom 0 (pos + (String.utf8EncodeChar c).length) rest).map (c :: ·) := by
  obtain ⟨b, tail, hb, hnext⟩ := next_encodeChar c
  rw [hb, List.cons_append, decodeFrom, hnext]
  simp only [Nat.add_sub_cancel, decodeFrom_length_append, List.length_cons]
  congr 2
  omega

theorem decodeFrom_encode (s : List Char) (pos : Nat) : decodeFrom 0 pos (encode s) = .ok s := by
  induction s generalizing pos with
  | nil => rfl
  | cons c s ih =>
    rw [encode_cons, decodeFrom_encodeChar, ih]
    rfl

/-- **Reading undoes writing.** -/
theorem decode_encode (s : List Char) : decode (encode s) = .ok s := decodeFrom_encode s 0

theorem decodeText_encodeText (s : String) : decodeText (encodeText s) = .ok s := by
  rw [decodeText, encodeText, decode_encode]
  exact congrArg Except.ok (String.ofList_toList)

/-- **No two texts have the same bytes.** -/
theorem encodeText_injective {s t : String} (h : encodeText s = encodeText t) : s = t := by
  have := (decodeText_encodeText s).symm.trans ((congrArg decodeText h).trans
    (decodeText_encodeText t))
  exact Except.ok.inj this

end Utf8

end BlobRemote
