import Mathlib
import BlobRemote.Proofs.Data.Dict
import BlobRemote.Proofs.Ref.Grammar

/-!
# Reading packed references that were written

What is written for some names is read back as exactly these names, each with its identifier and
with the peeled one if there is one (`BlobRemote.Packed.read_write`), as long as a name fits on a
line between a space and a line feed. The reader splits the file into lines first, so the writer is
described by the lines that it makes (`BlobRemote.Packed.linesOf`). A line is held back by the reader
until it has seen the next one, but that next one is always a peeled identifier or the line of
another entry.
-/

namespace BlobRemote

namespace Packed

/-! ### Lines -/

/-- **A line is read** if it says something, before those behind it. -/
theorem tellingLines_line {line : Bytes} (hfeed : 0x0A ∉ line)
    (hlast : ∀ b, line.getLast? = some b → Ref.isLineEnd b = false) (rest : Bytes) :
    tellingLines (line ++ 0x0A :: rest) =
      if isTelling line then line :: tellingLines rest else tellingLines rest := by
  rw [tellingLines, Cut.fields_append_cons hfeed, List.map_cons, dropEndWhile_eq_self hlast,
    List.filter_cons]
  rfl

/-- The line of an entry, without the peeled identifier. -/
def entryLine (entry : Bytes × Bytes) : Bytes := entry.2 ++ 0x20 :: entry.1

/-- The line of a peeled identifier. -/
def peeledLine (peeled : Bytes) : Bytes := 0x5E :: peeled

/-- The lines that are written for an entry. -/
def linesOf (peeled : Dict Bytes Bytes) (entry : Bytes × Bytes) : List Bytes :=
  entryLine entry :: ((peeled.get? entry.1).map peeledLine).toList

/-- **A name fits on a line** of the file of packed references. -/
structure Fits (name : Bytes) : Prop where
  /-- It holds no space. -/
  space : (0x20 : UInt8) ∉ name
  /-- It holds no line feed. -/
  feed : (0x0A : UInt8) ∉ name
  /-- It does not end in a carriage return. -/
  last : name.getLast? ≠ some 0x0D

theorem tellingLines_entryLine {entry : Bytes × Bytes} (hid : Ref.isObjectId entry.2 = true)
    (hname : Fits entry.1) (rest : Bytes) :
    tellingLines (entryLine entry ++ 0x0A :: rest) = entryLine entry :: tellingLines rest := by
  have hfeed : (0x0A : UInt8) ∉ entryLine entry := by
    intro hm
    rcases List.mem_append.1 hm with hm | hm
    · exact Ref.notMem_of_isObjectId hid (by decide) hm
    · rcases List.mem_cons.1 hm with he | hm
      · cases he
      · exact hname.feed hm
  have hlast : ∀ b, (entryLine entry).getLast? = some b → Ref.isLineEnd b = false := by
    intro b hb
    rw [entryLine, List.getLast?_append_cons, List.getLast?_cons] at hb
    cases hn : entry.1.getLast? with
    | none =>
      rw [hn] at hb
      cases hb
      decide
    | some c =>
      rw [hn] at hb
      cases hb
      refine Ref.isLineEnd_eq_false_iff.2 ⟨?_, ?_⟩
      · rintro rfl
        exact hname.last hn
      · rintro rfl
        exact hname.feed (List.mem_of_getLast? hn)
  have htelling : isTelling (entryLine entry) = true := by
    obtain ⟨b, more, hcons⟩ := List.exists_cons_of_ne_nil (Ref.ne_nil_of_isObjectId hid)
    have hhex := Ref.isHexByte_of_mem hid (hcons ▸ List.mem_cons_self : b ∈ entry.2)
    rw [entryLine, hcons, List.cons_append, isTelling, bne_iff_ne]
    rintro rfl
    cases hhex
  rw [tellingLines_line hfeed hlast, if_pos htelling]

theorem tellingLines_peeledLine {peeled : Bytes} (hid : Ref.isObjectId peeled = true)
    (rest : Bytes) :
    tellingLines (peeledLine peeled ++ 0x0A :: rest) = peeledLine peeled :: tellingLines rest := by
  have hfeed : (0x0A : UInt8) ∉ peeledLine peeled := by
    intro hm
    rcases List.mem_cons.1 hm with he | hm
    · cases he
    · exact Ref.notMem_of_isObjectId hid (by decide) hm
  have hlast : ∀ b, (peeledLine peeled).getLast? = some b → Ref.isLineEnd b = false := by
    intro b hb
    obtain ⟨c, hc⟩ := Option.ne_none_iff_exists'.1
      (mt List.getLast?_eq_none_iff.1 (Ref.ne_nil_of_isObjectId hid))
    rw [peeledLine, List.getLast?_cons, hc] at hb
    cases hb
    exact Ref.isLineEnd_of_getLast? hid hc
  rw [tellingLines_line hfeed hlast]
  rfl

/-! ### The reader -/

variable {peeled : Dict Bytes Bytes}

/-- An entry as it is read. -/
def entryOf (peeled : Dict Bytes Bytes) (entry : Bytes × Bytes) : Entry :=
  ⟨entry.2, entry.1, peeled.get? entry.1⟩

/-- **The lines that are written** are spelled by the entries that they were written for. -/
theorem spells_linesOf {pairs : List (Bytes × Bytes)}
    (hids : ∀ entry ∈ pairs, Ref.isObjectId entry.2 = true)
    (hnames : ∀ entry ∈ pairs, Fits entry.1)
    (hpeeled : ∀ name p, peeled.get? name = some p → Ref.isObjectId p = true) :
    Spells (pairs.flatMap (linesOf peeled)) (pairs.map (entryOf peeled)) where
  valid e he := by
    obtain ⟨entry, hentry, rfl⟩ := List.mem_map.1 he
    exact ⟨hids entry hentry, (hnames entry hentry).space, fun p hp => hpeeled _ p hp⟩
  lines_eq := by rw [List.flatMap_map]; rfl

/-! ### Files -/

/-- The lines of what is written. -/
theorem tellingLines_entries {pairs : List (Bytes × Bytes)}
    (hids : ∀ entry ∈ pairs, Ref.isObjectId entry.2 = true)
    (hnames : ∀ entry ∈ pairs, Fits entry.1)
    (hpeeled : ∀ name p, peeled.get? name = some p → Ref.isObjectId p = true) :
    tellingLines (pairs.flatMap (entryLines peeled)) = pairs.flatMap (linesOf peeled) := by
  induction pairs with
  | nil => rfl
  | cons entry rest ih =>
    have hid := hids entry List.mem_cons_self
    have hname := hnames entry List.mem_cons_self
    have ih' := ih (fun e he => hids e (List.mem_cons_of_mem _ he))
      fun e he => hnames e (List.mem_cons_of_mem _ he)
    have hentry : entryLines peeled entry ++ rest.flatMap (entryLines peeled) =
        entryLine entry ++ 0x0A ::
          (((peeled.get? entry.1).elim [] fun p => peeledLine p ++ [0x0A]) ++
            rest.flatMap (entryLines peeled)) := by
      simp only [entryLines, entryLine, peeledLine, List.append_assoc, List.cons_append]
    rw [List.flatMap_cons, List.flatMap_cons, hentry, tellingLines_entryLine hid hname, linesOf,
      List.cons_append]
    cases hp : peeled.get? entry.1 with
    | none => exact congrArg _ ih'
    | some p =>
      rw [Option.elim_some, List.append_assoc, List.singleton_append,
        tellingLines_peeledLine (hpeeled entry.1 p hp), ih']
      rfl

/-- **What was written is read back**: the names in ascending order, each with its identifier and
with its peeled one if there is one, and nothing else. -/
theorem read_write {objectIds : Dict Bytes Bytes} {peeled : Option (Dict Bytes Bytes)}
    (hids : ∀ name objectId, objectIds.get? name = some objectId → Ref.isObjectId objectId = true)
    (hnames : ∀ name objectId, objectIds.get? name = some objectId → Fits name)
    (hpeeled : ∀ name p, (peeled.getD Dict.empty).get? name = some p → Ref.isObjectId p = true) :
    read (write objectIds peeled) =
      ⟨objectIds.sorted.map (entryOf (peeled.getD Dict.empty)), none⟩ := by
  have hids' : ∀ entry ∈ objectIds.sorted, Ref.isObjectId entry.2 = true :=
    fun entry hentry => hids _ _ (Dict.mem_sorted_iff.1 hentry)
  have hnames' : ∀ entry ∈ objectIds.sorted, Fits entry.1 :=
    fun entry hentry => hnames _ _ (Dict.mem_sorted_iff.1 hentry)
  have hlines : tellingLines (write objectIds peeled) =
      objectIds.sorted.flatMap (linesOf (peeled.getD Dict.empty)) := by
    rw [← tellingLines_entries hids' hnames' hpeeled, write]
    cases peeled with
    | none => rfl
    | some dict =>
      -- the head of the file is a comment
      have hhead : header = Utf8.encodeText "# pack-refs with: peeled" ++ [0x0A] := by
        decide +kernel
      show tellingLines (header ++ _) = _
      rw [hhead, List.append_assoc, List.singleton_append]
      exact tellingLines_line (by decide +kernel) (by decide +kernel) _
  rw [read, hlines, readFrom_of_spells (spells_linesOf hids' hnames' hpeeled)]

/-- **A file of packed references round-trips**: what was written for some names is read without a
fault, the names come in ascending order, and an entry is read exactly if its name is one of those
written, with the identifier of that name and with the peeled one if the name has one. -/
theorem entries_of_written {objectIds : Dict Bytes Bytes} {peeled : Option (Dict Bytes Bytes)}
    (hids : ∀ name objectId, objectIds.get? name = some objectId → Ref.isObjectId objectId = true)
    (hpeeled : ∀ dict ∈ peeled, ∀ name p, dict.get? name = some p → Ref.isObjectId p = true)
    (hnames : ∀ name objectId, objectIds.get? name = some objectId → Fits name) :
    ∃ entries, read (write objectIds peeled) = ⟨entries, none⟩ ∧
      (entries.map Entry.name).Pairwise (· < ·) ∧
      ∀ e, e ∈ entries ↔
        objectIds.get? e.name = some e.objectId ∧ e.peeled = peeled.bind (·.get? e.name) := by
  have hpeeled' : ∀ name p, (peeled.getD Dict.empty).get? name = some p →
      Ref.isObjectId p = true := by
    cases peeled with
    | none => exact fun name p h => by cases h
    | some dict => exact hpeeled dict rfl
  have hget : ∀ name, (peeled.getD Dict.empty).get? name = peeled.bind (·.get? name) := by
    cases peeled with
    | none => exact fun name => rfl
    | some dict => exact fun name => rfl
  refine ⟨_, read_write hids hnames hpeeled', ?_, fun e => ?_⟩
  · rw [List.map_map]
    exact objectIds.pairwise_keys_sort
  · rw [List.mem_map, ← hget]
    constructor
    · rintro ⟨entry, hentry, rfl⟩
      exact ⟨Dict.mem_sorted_iff.1 hentry, rfl⟩
    · rintro ⟨hentry, hp⟩
      refine ⟨(e.name, e.objectId), Dict.mem_sorted_iff.2 hentry, ?_⟩
      rw [entryOf, ← hp]

/-- Names that are empty, that begin like a comment or a peeled identifier, or that are no text. -/
def awkward : Dict Bytes Bytes :=
  Dict.ofList [([0x5E, 0x61], List.replicate 40 0x61), ([], List.replicate 64 0x46),
    ([0x23, 0xFF], List.replicate 40 0x30)]

/-- Peeled identifiers of one of these names and of another one. -/
def awkwardPeeled : Dict Bytes Bytes :=
  Dict.ofList [([], List.replicate 40 0x31), ([0x62], List.replicate 40 0x32)]

/-- Awkward names are read back, and nothing is read of a name that has a peeled identifier only. -/
theorem entries_of_written_of_awkward :
    ∃ entries, read (write awkward (some awkwardPeeled)) = ⟨entries, none⟩ ∧
      (entries.map Entry.name).Pairwise (· < ·) ∧
      ⟨List.replicate 64 0x46, [], some (List.replicate 40 0x31)⟩ ∈ entries ∧
      ⟨List.replicate 40 0x61, [0x5E, 0x61], none⟩ ∈ entries ∧
      ∀ e ∈ entries, e.name ≠ [0x62] := by
  have hids : ∀ p ∈ awkward.entries, Ref.isObjectId p.2 = true := by decide +kernel
  have hpeeled : ∀ p ∈ awkwardPeeled.entries, Ref.isObjectId p.2 = true := by decide +kernel
  have hnames : ∀ p ∈ awkward.entries,
      (0x20 : UInt8) ∉ p.1 ∧ (0x0A : UInt8) ∉ p.1 ∧ p.1.getLast? ≠ some 0x0D := by decide +kernel
  have hfits : ∀ name objectId, awkward.get? name = some objectId → Fits name := by
    intro name objectId h
    obtain ⟨hspace, hfeed, hlast⟩ := hnames _ ((Dict.find_eq_some_iff awkward.nodup).1 h)
    exact ⟨hspace, hfeed, hlast⟩
  obtain ⟨entries, hread, hsorted, hmem⟩ := @entries_of_written awkward (some awkwardPeeled)
    (fun name objectId h => hids _ ((Dict.find_eq_some_iff awkward.nodup).1 h))
    (fun dict hdict name p h => by
      cases hdict
      exact hpeeled _ ((Dict.find_eq_some_iff awkwardPeeled.nodup).1 h)) hfits
  refine ⟨entries, hread, hsorted, (hmem _).2 (by decide +kernel), (hmem _).2 (by decide +kernel),
    fun e he hname => ?_⟩
  obtain ⟨hget, -⟩ := (hmem e).1 he
  rw [hname] at hget
  cases hget

/-- **The first line is read first** if it says something. -/
theorem tellingLines_eq_firstLine {data : Bytes} (h : isTelling (Ref.firstLine data) = true) :
    ∃ rest, tellingLines data = Ref.firstLine data :: rest := by
  have hfeed : (0x0A : UInt8) ∉ data.takeWhile (· != 0x0A) := by
    intro hm
    exact absurd (List.mem_takeWhile_imp hm) (by decide)
  have hfields : ∃ rest, Cut.fields 0x0A data = data.takeWhile (· != 0x0A) :: rest := by
    have hdata := List.takeWhile_append_dropWhile (p := (· != 0x0A)) (l := data)
    have hhead := List.head?_dropWhile_not (· != 0x0A) data
    cases hdrop : data.dropWhile (· != 0x0A) with
    | nil =>
      rw [hdrop, List.append_nil] at hdata
      refine ⟨[], ?_⟩
      rw [hdata] at hfeed ⊢
      exact Cut.fields_eq_singleton hfeed
    | cons b rest =>
      rw [hdrop] at hhead
      obtain rfl : b = 0x0A := by simpa using hhead
      refine ⟨Cut.fields 0x0A rest, ?_⟩
      rw [← Cut.fields_append_cons hfeed, ← hdrop, hdata]
  obtain ⟨rest, hrest⟩ := hfields
  refine ⟨(rest.map (dropEndWhile Ref.isLineEnd)).filter isTelling, ?_⟩
  rw [tellingLines, hrest, List.map_cons, List.filter_cons]
  exact if_pos h

/-- A line that is held back is read in the end, so its fault is found. -/
theorem fault_readFrom_ne_none {last : Bytes} {fault : Fault} (h : splitLine last = .error fault)
    (rest : List Bytes) : (readFrom (some last) rest).fault ≠ none := by
  intro hnone
  obtain ⟨front, back, hlines, ⟨hvalid, hfront⟩, hall⟩ := covers_readFrom (some last) rest
  rw [hall hnone, List.append_nil, hfront] at hlines
  rcases hentries : (readFrom (some last) rest).entries with _ | ⟨e, entries⟩
  · rw [hentries] at hlines
    cases hlines
  · rw [hentries, List.flatMap_cons] at hlines
    have hline : last = e.line := (List.cons.inj hlines).1
    rw [hline, (hvalid e (hentries ▸ List.mem_cons_self)).splitLine_line] at h
    cases h

/-- **A file of packed references is no loose reference**: its first line names neither an object
nor another reference. -/
theorem exists_malformed_of_read {data : Bytes} (h : (read data).fault = none) :
    ∃ line, Ref.contentOf data = .malformed line := by
  have hfault : ∀ b more fault, Ref.firstLine data = b :: more → b ≠ 0x23 → b ≠ 0x5E →
      splitLine (Ref.firstLine data) = .error fault → False := by
    intro b more fault hline hcomment hpeeled herror
    have htelling : isTelling (Ref.firstLine data) = true := by
      rw [hline]
      exact bne_iff_ne.2 hcomment
    obtain ⟨rest, hrest⟩ := tellingLines_eq_firstLine htelling
    rw [read, hrest, hline, readFrom, ← hline] at h
    · exact fault_readFrom_ne_none herror rest h
    · exact fun tail he => hpeeled (List.cons.inj he).1
  cases hc : Ref.contentOf data with
  | malformed line => exact ⟨line, rfl⟩
  | object objectId =>
    obtain ⟨hline, hid⟩ := Ref.contentOf_eq_object_iff.1 hc
    obtain ⟨b, more, hcons⟩ := List.exists_cons_of_ne_nil (Ref.ne_nil_of_isObjectId hid)
    have hhex := Ref.isHexByte_of_mem hid (hcons ▸ List.mem_cons_self : b ∈ objectId)
    refine (hfault b more (.line objectId) (hline.trans hcons) ?_ ?_ ?_).elim
    · rintro rfl
      cases hhex
    · rintro rfl
      cases hhex
    · rw [hline, splitLine, Cut.fields_eq_singleton (Ref.notMem_of_isObjectId hid (by decide))]
  | symbolic target =>
    obtain ⟨hline, -⟩ := Ref.contentOf_eq_symbolic_iff.1 hc
    rw [Ref.symbolicMark_eq] at hline
    obtain ⟨fault, hsplit⟩ : ∃ fault, splitLine (Ref.firstLine data) = .error fault := by
      have hfields : Cut.fields 0x20 (Ref.firstLine data) =
          [0x72, 0x65, 0x66, 0x3A] :: Cut.fields 0x20 target := by
        rw [hline]
        exact Cut.fields_append_cons (l := [0x72, 0x65, 0x66, 0x3A]) (by decide) target
      rw [splitLine, hfields]
      split
      · next objectId name he =>
        obtain ⟨rfl, -⟩ := List.cons.inj he
        exact ⟨_, if_neg (by decide)⟩
      · exact ⟨_, rfl⟩
    exact (hfault _ _ fault hline (by decide) (by decide) hsplit).elim

/-- **Every entry that is read** has an identifier, before a fault too. -/
theorem isObjectId_of_mem_readFrom {last : Option Bytes} {lines : List Bytes} {e : Entry}
    (h : e ∈ (readFrom last lines).entries) : Ref.isObjectId e.objectId = true := by
  obtain ⟨front, back, -, hspells, -⟩ := covers_readFrom last lines
  exact (hspells.valid e h).objectId

end Packed

end BlobRemote
