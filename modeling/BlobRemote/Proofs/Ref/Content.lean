import Mathlib
import BlobRemote.Ref.Content

/-!
# What the first line of a blob says

The blob of a loose reference is an object identifier or a symbolic reference, and never both,
because no identifier begins like a symbolic reference. What is written for a direct reference says
what it should (`BlobRemote.Ref.contentOf_objectBlob`).
-/

namespace BlobRemote

namespace Ref

theorem symbolicMark_eq : symbolicMark = [0x72, 0x65, 0x66, 0x3A, 0x20] := by decide +kernel

/-- **No object identifier begins like a symbolic reference.** -/
theorem isObjectId_symbolicMark_append (target : Bytes) :
    isObjectId (symbolicMark ++ target) = false := by
  have hhead : isHexByte 0x72 = false := by decide
  rw [symbolicMark_eq, isObjectId, List.cons_append, List.all_cons, hhead, Bool.false_and,
    Bool.and_false]

/-- A blob holds an object identifier exactly if its first line is one. -/
theorem contentOf_eq_object_iff {data objectId : Bytes} :
    contentOf data = .object objectId ↔ firstLine data = objectId ∧ isObjectId objectId = true := by
  rw [contentOf]
  split
  · next hdata =>
    subst hdata
    constructor
    · intro h
      cases h
    · rintro ⟨rfl, h⟩
      cases h
  · rw [contentOfLine]
    split
    · next hmark =>
      obtain ⟨target, htarget⟩ := List.isPrefixOf_iff_prefix.1 hmark
      rw [← htarget, List.drop_left]
      dsimp only
      constructor
      · intro h
        split at h <;> cases h
      · rintro ⟨rfl, h⟩
        rw [isObjectId_symbolicMark_append] at h
        cases h
    · split
      · next hid =>
        constructor
        · intro h
          cases h
          exact ⟨rfl, hid⟩
        · rintro ⟨rfl, -⟩
          rfl
      · next hid =>
        constructor
        · intro h
          cases h
        · rintro ⟨rfl, h⟩
          exact absurd h hid

/-- A blob holds a symbolic reference exactly if its first line has the mark of one before a
name. -/
theorem contentOf_eq_symbolic_iff {data target : Bytes} :
    contentOf data = .symbolic target ↔
      firstLine data = symbolicMark ++ target ∧ isName target = true := by
  have hne : ∀ t : Bytes, symbolicMark ++ t ≠ [] := by
    intro t h
    rw [symbolicMark_eq] at h
    cases h
  rw [contentOf]
  split
  · next hdata =>
    subst hdata
    constructor
    · intro h
      cases h
    · rintro ⟨h, -⟩
      exact absurd h.symm (hne target)
  · rw [contentOfLine]
    split
    · next hmark =>
      obtain ⟨target', htarget⟩ := List.isPrefixOf_iff_prefix.1 hmark
      rw [← htarget, List.drop_left, List.append_cancel_left_eq]
      dsimp only
      constructor
      · intro h
        split at h
        · next hname =>
          cases h
          exact ⟨rfl, hname⟩
        · cases h
      · rintro ⟨rfl, hname⟩
        rw [if_pos hname]
    · next hmark =>
      constructor
      · intro h
        split at h <;> cases h
      · rintro ⟨h, -⟩
        exact absurd (List.isPrefixOf_iff_prefix.2 ⟨target, h.symm⟩) hmark

/-- What is told of a malformed blob is its first line. -/
theorem line_of_contentOf_eq_malformed {data : Bytes} {line : Option Bytes} (hdata : data ≠ [])
    (h : contentOf data = .malformed line) : line = some (firstLine data) := by
  rw [contentOf, if_neg hdata, contentOfLine] at h
  dsimp only at h
  split_ifs at h <;> cases h <;> rfl

/-- **A blob is malformed** if it is empty, or if its first line is no object identifier and has no
name after the mark of a symbolic reference. -/
theorem contentOf_eq_malformed_iff {data : Bytes} {line : Option Bytes} :
    contentOf data = .malformed line ↔
      data = [] ∧ line = none ∨
        data ≠ [] ∧ line = some (firstLine data) ∧ isObjectId (firstLine data) = false ∧
          ∀ target, firstLine data = symbolicMark ++ target → isName target = false := by
  rcases eq_or_ne data [] with rfl | hdata
  · constructor
    · intro h
      cases h
      exact .inl ⟨rfl, rfl⟩
    · rintro (⟨-, rfl⟩ | ⟨hdata, -⟩)
      · rfl
      · exact absurd rfl hdata
  · constructor
    · intro h
      refine .inr ⟨hdata, line_of_contentOf_eq_malformed hdata h, ?_, fun target htarget => ?_⟩
      · by_contra hid
        cases h.symm.trans (contentOf_eq_object_iff.2 ⟨rfl, Bool.eq_true_of_not_eq_false hid⟩)
      · by_contra hname
        cases h.symm.trans
          (contentOf_eq_symbolic_iff.2 ⟨htarget, Bool.eq_true_of_not_eq_false hname⟩)
    · rintro (⟨rfl, -⟩ | ⟨-, rfl, hid, hname⟩)
      · exact absurd rfl hdata
      -- neither of the other two contents is possible
      · rcases hc : contentOf data with objectId | target | line
        · obtain ⟨rfl, hid'⟩ := contentOf_eq_object_iff.1 hc
          cases hid.symm.trans hid'
        · obtain ⟨htarget, hname'⟩ := contentOf_eq_symbolic_iff.1 hc
          cases (hname target htarget).symm.trans hname'
        · rw [line_of_contentOf_eq_malformed hdata hc]

/-! ### Object identifiers -/

/-- A digit of an object identifier. -/
theorem isHexByte_of_mem {objectId : Bytes} (h : isObjectId objectId = true) {b : UInt8}
    (hb : b ∈ objectId) : isHexByte b = true := by
  rw [isObjectId, Bool.and_eq_true] at h
  exact List.all_eq_true.1 h.2 b hb

/-- No byte that has a meaning of its own in a file of references is a hexadecimal digit. -/
theorem notMem_of_isObjectId {objectId : Bytes} (h : isObjectId objectId = true) {b : UInt8}
    (hb : isHexByte b = false) : b ∉ objectId := by
  intro hm
  rw [isHexByte_of_mem h hm] at hb
  cases hb

theorem ne_nil_of_isObjectId {objectId : Bytes} (h : isObjectId objectId = true) :
    objectId ≠ [] := by
  rintro rfl
  cases h

theorem isLineEnd_eq_false_iff {b : UInt8} : isLineEnd b = false ↔ b ≠ 0x0D ∧ b ≠ 0x0A := by
  rw [isLineEnd, Bool.or_eq_false_iff, beq_eq_false_iff_ne, beq_eq_false_iff_ne]

/-- An object identifier does not end like a line. -/
theorem isLineEnd_of_getLast? {objectId : Bytes} (h : isObjectId objectId = true) {b : UInt8}
    (hb : objectId.getLast? = some b) : isLineEnd b = false := by
  have hhex := isHexByte_of_mem h (List.mem_of_getLast? hb)
  refine isLineEnd_eq_false_iff.2 ⟨?_, ?_⟩ <;> rintro rfl <;> cases hhex

/-- **What is written for a direct reference** says so. -/
theorem contentOf_objectBlob {objectId : Bytes} (h : isObjectId objectId = true) :
    contentOf (objectBlob objectId) = .object objectId := by
  have hfeed : (0x0A : UInt8) ∉ objectId := notMem_of_isObjectId h (by decide)
  have htake : (objectId ++ [0x0A]).takeWhile (· != 0x0A) = objectId := by
    rw [List.takeWhile_append_of_pos]
    · rw [List.takeWhile_cons_of_neg (by decide), List.append_nil]
    · intro b hb
      exact bne_iff_ne.2 fun he => hfeed (he ▸ hb)
  refine contentOf_eq_object_iff.2 ⟨?_, h⟩
  rw [firstLine, objectBlob, htake]
  exact dropEndWhile_eq_self fun b hb => isLineEnd_of_getLast? h hb

end Ref

end BlobRemote
