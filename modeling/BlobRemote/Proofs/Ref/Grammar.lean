import Mathlib
import BlobRemote.Proofs.Ref.Content
import BlobRemote.Ref.Packed

/-!
# The grammar of packed references

What a file of packed references says is said by its telling lines, and these are made of groups: the
line of a reference, and below it at most one line with a peeled identifier. An entry spells one such
group (`BlobRemote.Packed.Entry.lines`), and a list of entries spells a file
(`BlobRemote.Packed.Spells`).

The reader holds the line of a reference back until it has seen what follows, so it finds the fault
of a line when it is past it. This makes no difference to which files it takes: exactly those that
are spelled by entries, and the entries are what it reads
(`BlobRemote.Packed.read_accepts_iff`). Soundness holds before a fault as well: what has been read
up to then is spelled by the lines at the front (`BlobRemote.Packed.Parse.Covers`).
-/

namespace BlobRemote

namespace Packed

/-! ### Entries and their lines -/

/-- **An entry that can stand in a file.** -/
structure Entry.Valid (e : Entry) : Prop where
  /-- Its object has an identifier. -/
  objectId : Ref.isObjectId e.objectId = true
  /-- Its name holds no space. -/
  name : (0x20 : UInt8) ∉ e.name
  /-- The object that its tag stands for, if it has one, has an identifier. -/
  peeled : ∀ p ∈ e.peeled, Ref.isObjectId p = true

/-- The line of an entry's reference. -/
def Entry.line (e : Entry) : Bytes := e.objectId ++ 0x20 :: e.name

/-- The lines of an entry: that of its reference, and below it that of its peeled identifier if there
is one. -/
def Entry.lines (e : Entry) : List Bytes := e.line :: (e.peeled.map (0x5E :: ·)).toList

/-- **Lines are spelled by entries** if they are the lines of one after another. -/
structure Spells (lines : List Bytes) (entries : List Entry) : Prop where
  /-- Every entry can stand in a file. -/
  valid : ∀ e ∈ entries, e.Valid
  /-- The lines are those of the entries. -/
  lines_eq : lines = entries.flatMap Entry.lines

theorem spells_nil : Spells [] [] := ⟨by simp, rfl⟩

theorem Spells.cons {lines : List Bytes} {entries : List Entry} (h : Spells lines entries)
    {e : Entry} (he : e.Valid) : Spells (e.lines ++ lines) (e :: entries) where
  valid e' he' := by
    rcases List.mem_cons.1 he' with rfl | he'
    · exact he
    · exact h.valid e' he'
  lines_eq := by rw [List.flatMap_cons, ← h.lines_eq]

/-- **A line is split** at its only space, if an identifier stands before it. -/
theorem splitLine_eq_ok_iff {line objectId name : Bytes} :
    splitLine line = .ok (objectId, name) ↔
      Ref.isObjectId objectId = true ∧ (0x20 : UInt8) ∉ name ∧ line = objectId ++ 0x20 :: name := by
  constructor
  · intro h
    rw [splitLine] at h
    split at h
    · next o n hfields =>
      split at h
      · next hid =>
        cases h
        obtain ⟨hline, -, hname⟩ := Cut.fields_eq_pair_iff.1 hfields
        exact ⟨hid, hname, hline⟩
      · cases h
    · cases h
  · rintro ⟨hid, hname, rfl⟩
    have hspace : (0x20 : UInt8) ∉ objectId := Ref.notMem_of_isObjectId hid (by decide)
    rw [splitLine, Cut.fields_eq_pair_iff.2 ⟨rfl, hspace, hname⟩]
    exact if_pos hid

theorem Entry.Valid.splitLine_line {e : Entry} (he : e.Valid) :
    splitLine e.line = .ok (e.objectId, e.name) :=
  splitLine_eq_ok_iff.2 ⟨he.objectId, he.name, rfl⟩

/-- The line of a reference is not taken for one with a peeled identifier: it begins with a digit. -/
theorem Entry.Valid.line_ne {e : Entry} (he : e.Valid) (more : Bytes) : e.line ≠ 0x5E :: more := by
  intro h
  obtain ⟨b, rest, hcons⟩ := List.exists_cons_of_ne_nil (Ref.ne_nil_of_isObjectId he.objectId)
  have hhex := Ref.isHexByte_of_mem he.objectId (hcons ▸ List.mem_cons_self : b ∈ e.objectId)
  rw [Entry.line, hcons] at h
  obtain ⟨rfl, -⟩ := List.cons.inj h
  cases hhex

/-! ### What is read is spelled by the lines at the front

The invariant of the reader: whatever line it holds back, the entries that come of that line and of
the lines to come are spelled by the front of them all, and nothing is left over unless there is a
fault. -/

/-- **A parse covers lines**: its entries are spelled by the lines at the front, and these are all of
them unless there is a fault. -/
def Parse.Covers (parse : Parse) (lines : List Bytes) : Prop :=
  ∃ front back, lines = front ++ back ∧ Spells front parse.entries ∧
    (parse.fault = none → back = [])

/-- Where nothing was read but a fault, nothing is claimed of the lines. -/
theorem covers_fault (fault : Fault) (lines : List Bytes) : Parse.Covers ⟨[], some fault⟩ lines :=
  ⟨[], lines, rfl, spells_nil, by simp⟩

/-- **One more group**: the line of a reference and the peeled identifier below it, if there is one,
in front of lines that are covered. -/
theorem Parse.Covers.entryThen {line : Bytes} {p : Option Bytes} {rest : Parse}
    {lines : List Bytes} (h : rest.Covers lines) (hp : ∀ q ∈ p, Ref.isObjectId q = true) :
    (entryThen line p rest).Covers (line :: (p.map (0x5E :: ·)).toList ++ lines) := by
  rw [Packed.entryThen]
  cases hsplit : splitLine line with
  | error fault => exact covers_fault fault _
  | ok parts =>
    obtain ⟨objectId, name⟩ := parts
    obtain ⟨hid, hname, rfl⟩ := splitLine_eq_ok_iff.1 hsplit
    obtain ⟨front, back, rfl, hspells, hall⟩ := h
    have he : Entry.Valid ⟨objectId, name, p⟩ := ⟨hid, hname, hp⟩
    exact ⟨_, back, by rw [← List.append_assoc]; rfl, hspells.cons he, hall⟩

/-- **The reader is sound**, whatever line it holds back. -/
theorem covers_readFrom (last : Option Bytes) (lines : List Bytes) :
    (readFrom last lines).Covers (last.toList ++ lines) := by
  have hend : Parse.Covers ⟨[], none⟩ [] := ⟨[], [], rfl, spells_nil, fun _ => rfl⟩
  fun_induction readFrom last lines with
  | case1 => exact hend
  | case2 last => exact hend.entryThen (p := none) (by simp)
  | case3 => exact covers_fault _ _
  | case4 line rest hline ih => exact ih
  | case5 last rest p hp ih => exact ih.entryThen (p := some p) (by simpa using hp)
  | case6 => exact covers_fault _ _
  | case7 last line rest hline ih => exact ih.entryThen (p := none) (by simp)

/-! ### What entries spell is read -/

/-- **A line that is held back** is an entry of its own if the line of another reference follows. -/
theorem readFrom_some_of_spells {lines : List Bytes} {entries : List Entry}
    (h : Spells lines entries) (last : Bytes) :
    readFrom (some last) lines = entryThen last none (readFrom none lines) := by
  cases entries with
  | nil =>
    obtain rfl := h.lines_eq
    rfl
  | cons e rest =>
    have hne := (h.valid e List.mem_cons_self).line_ne
    rw [h.lines_eq, List.flatMap_cons, Entry.lines, List.cons_append, readFrom, readFrom]
    · exact hne
    · exact hne

/-- **The reader is complete**: lines that entries spell are read as these entries, and as no
others. -/
theorem readFrom_of_spells {lines : List Bytes} {entries : List Entry} (h : Spells lines entries) :
    readFrom none lines = ⟨entries, none⟩ := by
  induction entries generalizing lines with
  | nil =>
    obtain rfl := h.lines_eq
    rfl
  | cons e rest ih =>
    have he := h.valid e List.mem_cons_self
    have hrest : Spells (rest.flatMap Entry.lines) rest :=
      ⟨fun e' he' => h.valid e' (List.mem_cons_of_mem _ he'), rfl⟩
    have hfirst : ∀ more, readFrom none (e.line :: more) = readFrom (some e.line) more := by
      intro more
      rw [readFrom]
      exact he.line_ne
    rw [h.lines_eq, List.flatMap_cons, Entry.lines, List.cons_append, hfirst]
    cases hp : e.peeled with
    | none =>
      rw [Option.map_none, Option.toList_none, List.nil_append, readFrom_some_of_spells hrest,
        ih hrest, entryThen, he.splitLine_line]
      rw [← hp]
      rfl
    | some p =>
      have hid := he.peeled p hp
      rw [Option.map_some, Option.toList_some, List.singleton_append, readFrom, if_pos hid,
        ih hrest, entryThen, he.splitLine_line, ← hp]
      rfl

/-! ### Files -/

/-- **The reader accepts exactly its grammar.** A file is cut at line feeds, the carriage returns and
line feeds at the end of each line are dropped, and so are blank lines and comments. If entries spell
the lines that are left, it is these that are read, without a fault, and if none do there is a fault.
What was read before a fault is spelled by the lines at the front. -/
theorem read_accepts_iff (bs : Bytes) :
    (∃ raw : List Bytes, bs = [0x0A].intercalate raw ∧ (∀ line ∈ raw, (0x0A : UInt8) ∉ line) ∧
        tellingLines bs = (raw.map (dropEndWhile Ref.isLineEnd)).filter isTelling) ∧
      ((read bs).fault = none ↔ ∃ entries, Spells (tellingLines bs) entries) ∧
      (∀ entries, Spells (tellingLines bs) entries → read bs = ⟨entries, none⟩) ∧
      ∃ front back, tellingLines bs = front ++ back ∧ Spells front (read bs).entries := by
  obtain ⟨front, back, hlines, hspells, hall⟩ := covers_readFrom none (tellingLines bs)
  have hcomplete : ∀ entries, Spells (tellingLines bs) entries → read bs = ⟨entries, none⟩ :=
    fun entries h => readFrom_of_spells h
  refine ⟨⟨Cut.fields 0x0A bs, (Cut.intercalate_fields _ bs).symm,
    fun line hline => Cut.notMem_of_mem_fields hline, rfl⟩, ⟨fun h => ?_, ?_⟩, hcomplete,
    front, back, hlines, hspells⟩
  · rw [hall h, List.append_nil] at hlines
    exact ⟨_, hlines ▸ hspells⟩
  · rintro ⟨entries, h⟩
    rw [hcomplete entries h]

end Packed

end BlobRemote
