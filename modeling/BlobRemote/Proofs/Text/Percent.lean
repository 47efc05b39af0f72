import Mathlib
import BlobRemote.Proofs.Text.Exact
import BlobRemote.Text.Percent

/-!
# Percent-decoding undoes percent-encoding

A text that is percent-encoded is decoded to itself (`BlobRemote.Percent.decode_encode`), whatever
bytes stay as they are, as long as these are ASCII and the percent sign is not among them
(`BlobRemote.Percent.IsPlain`). In a query a blank stays too, but is written as a plus sign; a plus
sign of the text is encoded, so every plus sign of the query is a blank
(`BlobRemote.Percent.decodeQuery_encodeQuery`).

What makes encoded texts fit for the parts of a URL is that nothing stands in them but percent signs,
unreserved characters and what stays (`BlobRemote.Percent.notMem_encode`).
-/

namespace BlobRemote

namespace Utf8

/-- The bytes of a sequence that is read already are passed over. -/
theorem lossyFrom_length_append (tail rest : Bytes) :
    lossyFrom tail.length (tail ++ rest) = lossyFrom 0 rest := by
  induction tail with
  | nil => rfl
  | cons b tail ih => rw [List.length_cons, List.cons_append, lossyFrom, ih]

/-- **Lenient reading undoes writing**, too. -/
theorem lossyFrom_encode (s : List Char) : lossyFrom 0 (encode s) = s := by
  induction s with
  | nil => rfl
  | cons c s ih =>
    obtain ⟨b, tail, hb, hnext⟩ := next_encodeChar c
    rw [encode_cons, hb, List.cons_append, lossyFrom, hnext]
    simp only [Nat.add_sub_cancel, lossyFrom_length_append, ih]

theorem encode_eq_nil_iff {s : List Char} : encode s = [] ↔ s = [] := by
  refine ⟨fun h => ?_, fun h => h ▸ rfl⟩
  rw [← lossyFrom_encode s, h]
  rfl

theorem lossyFrom_eq_nil_iff {bs : Bytes} : lossyFrom 0 bs = [] ↔ bs = [] := by
  cases bs with
  | nil => simp [lossyFrom]
  | cons b rest =>
    rw [lossyFrom]
    split <;> simp

end Utf8

namespace Percent

open Number (upperDigit)

/-! ### One byte -/

/-- **A byte that can stand for itself** in an encoded text: it is ASCII and no percent sign. -/
def IsPlain (b : UInt8) : Prop := b.toNat < 0x80 ∧ b ≠ 0x25

theorem isPlain_of_isUnreserved {b : UInt8} (h : isUnreserved b = true) : IsPlain b := by
  have key : ∀ n < 0x100, isUnreserved (UInt8.ofNat n) = true → n < 0x80 ∧ n ≠ 0x25 := by
    decide +kernel
  obtain ⟨hlt, hne⟩ := key b.toNat b.toNat_lt (by rwa [UInt8.ofNat_toNat])
  exact ⟨hlt, fun he => hne (congrArg UInt8.toNat he)⟩

/-- The byte of a hexadecimal digit. -/
def digitByte (n : Nat) : UInt8 := UInt8.ofNat (upperDigit n).toNat

theorem digitByte_spec {n : Nat} (h : n < 16) :
    String.utf8EncodeChar (upperDigit n) = [digitByte n] ∧ digitValue? (digitByte n) = some n ∧
      isUnreserved (digitByte n) = true ∧ upperDigit n = Char.ofNat (digitByte n).toNat := by
  have key : ∀ n < 16, String.utf8EncodeChar (upperDigit n) = [digitByte n] ∧
      digitValue? (digitByte n) = some n ∧ isUnreserved (digitByte n) = true ∧
        upperDigit n = Char.ofNat (digitByte n).toNat := by
    decide +kernel
  exact key n h

/-- **The two digits of a byte** spell it. -/
theorem byte?_digitByte (b : UInt8) :
    byte? (digitByte (b.toNat / 16)) (digitByte (b.toNat % 16)) = some b := by
  have hb : b.toNat < 256 := b.toNat_lt
  have hhigh := (digitByte_spec (show b.toNat / 16 < 16 by omega)).2.1
  have hlow := (digitByte_spec (show b.toNat % 16 < 16 by omega)).2.1
  rw [byte?, hhigh, hlow]
  refine congrArg some (Utf8.ofNat_eq_of_toNat ?_)
  omega

theorem decodeBytesFrom_cons_of_ne {b : UInt8} (h : b ≠ 0x25) (rest : Bytes) :
    decodeBytesFrom 0 (b :: rest) = b :: decodeBytesFrom 0 rest := by
  rw [decodeBytesFrom.eq_def]
  exact if_neg h

variable {stays : UInt8 → Bool}

/-- **What stands for a byte is taken for it**, whatever follows. -/
theorem decodeBytesFrom_encodeByte (h : ∀ b, stays b = true → IsPlain b) (b : UInt8)
    (rest : Bytes) :
    decodeBytesFrom 0 (Utf8.encode (encodeByte stays b) ++ rest) =
      b :: decodeBytesFrom 0 rest := by
  rw [encodeByte]
  split
  · next hb =>
    obtain ⟨hlt, hne⟩ : IsPlain b := by
      rcases Bool.or_eq_true_iff.1 hb with hb | hb
      · exact isPlain_of_isUnreserved hb
      · exact h b hb
    have hbytes : Utf8.encode [Char.ofNat b.toNat] = [b] := by
      rw [Utf8.encode_cons, Utf8.encodeChar_one hlt]
      rfl
    rw [hbytes, List.cons_append, List.nil_append, decodeBytesFrom_cons_of_ne hne]
  · have hb : b.toNat < 256 := b.toNat_lt
    have hbytes : Utf8.encode ['%', upperDigit (b.toNat / 16), upperDigit (b.toNat % 16)] =
        [0x25, digitByte (b.toNat / 16), digitByte (b.toNat % 16)] := by
      rw [Utf8.encode_cons, Utf8.encode_cons, Utf8.encode_cons,
        (digitByte_spec (show b.toNat / 16 < 16 by omega)).1,
        (digitByte_spec (show b.toNat % 16 < 16 by omega)).1]
      rfl
    rw [hbytes, List.cons_append, List.cons_append, List.cons_append, List.nil_append,
      decodeBytesFrom, if_pos rfl]
    simp only [byte?_digitByte, decodeBytesFrom]

/-! ### Texts -/

theorem decodeBytes_flatMap (h : ∀ b, stays b = true → IsPlain b) (bs : Bytes) :
    decodeBytes (Utf8.encode (bs.flatMap (encodeByte stays))) = bs := by
  rw [decodeBytes]
  induction bs with
  | nil => rfl
  | cons b bs ih =>
    rw [List.flatMap_cons, Utf8.encode_append, decodeBytesFrom_encodeByte h, ih]

/-- **Decoding undoes encoding.** -/
theorem decode_encode (h : ∀ b, stays b = true → IsPlain b) (s : List Char) :
    decode (encode stays s) = s := by
  rw [decode, encode, decodeBytes_flatMap h, Utf8.lossyFrom_encode]

theorem decode_encodePart (s : List Char) : decode (encodePart s) = s :=
  decode_encode (fun _ hb => absurd hb Bool.false_ne_true) s

theorem decode_encodePath (s : List Char) : decode (encodePath s) = s := by
  refine decode_encode (fun b hb => ?_) s
  obtain rfl := beq_iff_eq.1 hb
  exact ⟨by decide, by decide⟩

theorem decodeBytes_eq_nil_iff {bs : Bytes} : decodeBytes bs = [] ↔ bs = [] := by
  cases bs with
  | nil => simp [decodeBytes, decodeBytesFrom]
  | cons b rest =>
    rw [decodeBytes, decodeBytesFrom.eq_def]
    repeat' split
    all_goals simp_all

/-- **Only nothing is decoded to nothing**: every byte leaves something behind. -/
theorem decode_eq_nil_iff {s : List Char} : decode s = [] ↔ s = [] := by
  rw [decode, Utf8.lossyFrom_eq_nil_iff, decodeBytes_eq_nil_iff, Utf8.encode_eq_nil_iff]

/-! ### What stands in an encoded text -/

/-- A slash of a path stays. -/
theorem encodePath_slash (s : List Char) : encodePath ('/' :: s) = '/' :: encodePath s := rfl

theorem char_ne_of_ne {b d : UInt8} (h : b ≠ d) : Char.ofNat b.toNat ≠ Char.ofNat d.toNat := by
  have hvalid : ∀ b : UInt8, b.toNat.isValidChar := fun b => Or.inl (b.toNat_lt.trans (by decide))
  intro he
  have hval := congrArg (fun c : Char => c.val.toNat) he
  rw [Utf8.toNat_ofNat_char (hvalid b), Utf8.toNat_ofNat_char (hvalid d)] at hval
  exact h (UInt8.toNat_inj.1 hval)

/-- **What stands in an encoded byte**: a percent sign, or what stands for an unreserved byte or for
one that stays. -/
theorem forall_mem_encodeByte {p : Char → Prop} (hpercent : p '%')
    (hplain : ∀ b, (isUnreserved b || stays b) = true → p (Char.ofNat b.toNat)) (b : UInt8) :
    ∀ c ∈ encodeByte stays b, p c := by
  have hdigit : ∀ n < 16, p (upperDigit n) := by
    intro n hn
    obtain ⟨-, -, hunreserved, hchar⟩ := digitByte_spec hn
    rw [hchar]
    exact hplain _ (by rw [hunreserved, Bool.true_or])
  have hb : b.toNat < 256 := b.toNat_lt
  intro c hc
  rw [encodeByte] at hc
  split at hc
  · next hstays =>
    obtain rfl := List.mem_singleton.1 hc
    exact hplain b hstays
  · simp only [List.mem_cons, List.not_mem_nil, or_false] at hc
    rcases hc with rfl | rfl | rfl
    · exact hpercent
    · exact hdigit _ (by omega)
    · exact hdigit _ (by omega)

theorem forall_mem_encode {p : Char → Prop} (hpercent : p '%')
    (hplain : ∀ b, (isUnreserved b || stays b) = true → p (Char.ofNat b.toNat)) (s : List Char) :
    ∀ c ∈ encode stays s, p c := by
  intro c hc
  obtain ⟨b, -, hb⟩ := List.mem_flatMap.1 hc
  exact forall_mem_encodeByte hpercent hplain b c hb

/-- **A reserved character that does not stay** does not stand in an encoded byte, unless it is the
percent sign. -/
theorem notMem_encodeByte {d : UInt8} (hreserved : isUnreserved d = false)
    (hstays : stays d = false) (hpercent : d ≠ 0x25) (b : UInt8) :
    Char.ofNat d.toNat ∉ encodeByte stays b := by
  intro hmem
  refine forall_mem_encodeByte (p := (Char.ofNat d.toNat ≠ ·)) (char_ne_of_ne (d := 0x25) hpercent)
    (fun b hb => char_ne_of_ne ?_) b _ hmem rfl
  rintro rfl
  rw [hreserved, hstays] at hb
  cases hb

theorem notMem_encode {d : UInt8} (hreserved : isUnreserved d = false) (hstays : stays d = false)
    (hpercent : d ≠ 0x25) (s : List Char) : Char.ofNat d.toNat ∉ encode stays s := by
  intro hmem
  obtain ⟨b, -, hb⟩ := List.mem_flatMap.1 hmem
  exact notMem_encodeByte hreserved hstays hpercent b hb

/-! ### Queries -/

/-- The text that a name or a value in a query spells: a plus sign is a blank. -/
def decodeQuery (s : List Char) : List Char :=
  decode (s.map fun c => if c = '+' then ' ' else c)

/-- A byte of a query is a byte of a text in which blanks stay, but for the plus sign. -/
theorem map_encodeQueryByte (b : UInt8) :
    (encodeQueryByte b).map (fun c => if c = '+' then ' ' else c) = encodeByte (· == 0x20) b := by
  rw [encodeQueryByte]
  by_cases hb : b = 0x20
  · subst hb
    decide
  · have hbyte : encodeByte (· == 0x20) b = encodeByte (fun _ => false) b := by
      rw [encodeByte, encodeByte, beq_false_of_ne hb]
    have hplus : '+' ∉ encodeByte (fun _ => false) b :=
      notMem_encodeByte (d := 0x2B) (by decide) rfl (by decide) b
    rw [if_neg hb, hbyte]
    refine (List.map_congr_left fun c hc => if_neg ?_).trans (List.map_id _)
    rintro rfl
    exact hplus hc

/-- **Decoding a query undoes encoding it.** -/
theorem decodeQuery_encodeQuery (s : List Char) : decodeQuery (encodeQuery s) = s := by
  have hblank : ∀ b : UInt8, (b == 0x20) = true → IsPlain b := by
    intro b hb
    obtain rfl := beq_iff_eq.1 hb
    exact ⟨by decide, by decide⟩
  have hmap : (encodeQuery s).map (fun c => if c = '+' then ' ' else c) =
      encode (· == 0x20) s := by
    rw [encodeQuery, List.map_flatMap, encode]
    simp only [map_encodeQueryByte]
  rw [decodeQuery, hmap, decode_encode hblank]

end Percent

end BlobRemote
