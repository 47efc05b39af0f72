import Mathlib
import BlobRemote.Http.Scripted
import BlobRemote.Proofs.Console.Program
import BlobRemote.Proofs.Ref.Legible
import BlobRemote.Xml.Document

/-!
# What the program tells of references

The command for references prints one row for each of them (`BlobRemote.Command.rows`), and the
whole of a repository has been read when the first row is printed: a failure before that leaves
standard output empty (`BlobRemote.Program.run_of_not_shown`). But names are bytes and rows are
text. Names become text while they are printed, and one that is no text ends the program with the
rows before it printed (`BlobRemote.Program.run_of_shown`).

So standard output is all or nothing exactly if all names are text or the first one is none
(`BlobRemote.Program.stdout_eq_empty_iff`). The names that are no text are names of packed
references (`BlobRemote.Database.legible_advertised`).
-/

namespace BlobRemote

open Utf8 (IsText)

theorem Utf8.encodeText_append (s t : String) :
    encodeText (s ++ t) = encodeText s ++ encodeText t := by
  rw [encodeText, String.toList_append, encode_append]
  rfl

/-! ### Rows -/

/-- A row that is printed: two fields, the first one behind a mark. -/
structure Row where
  /-- The mark. -/
  mark : String
  /-- What is told of a reference. -/
  field : Bytes
  /-- The name of the reference. -/
  name : Bytes
  deriving DecidableEq

namespace Row

/-- **The bytes of a row**, its end included. -/
def bytes (r : Row) : Bytes := Utf8.encodeText r.mark ++ r.field ++ 0x09 :: r.name ++ [0x0A]

/-- The text of a row, without its end. -/
def text (r : Row) : Except Utf8.Fault String := do
  let field ← Utf8.decodeText r.field
  let name ← Utf8.decodeText r.name
  return r.mark ++ field ++ "\t" ++ name

/-- **A row has a text** if both fields are text, and then it is the text of its bytes. -/
theorem encodeText_of_text_eq_ok {r : Row} {line : String} (h : r.text = .ok line) :
    Utf8.encodeText (line ++ "\n") = r.bytes := by
  rw [text] at h
  cases hfield : Utf8.decodeText r.field with
  | error fault =>
    rw [hfield] at h
    cases h
  | ok field =>
    cases hname : Utf8.decodeText r.name with
    | error fault =>
      rw [hfield, hname] at h
      cases h
    | ok name =>
      rw [hfield, hname] at h
      cases h
      rw [bytes, ← Utf8.encodeText_decodeText hfield, ← Utf8.encodeText_decodeText hname]
      rw [Utf8.encodeText_append, Utf8.encodeText_append, Utf8.encodeText_append,
        Utf8.encodeText_append]
      simp only [List.append_assoc]
      rfl

theorem exists_text_iff {r : Row} (hfield : IsText r.field) :
    (∃ line, r.text = .ok line) ↔ IsText r.name := by
  obtain ⟨field, hfield⟩ := Utf8.isText_iff.1 hfield
  rw [Utf8.isText_iff, text, hfield]
  cases Utf8.decodeText r.name with
  | error fault =>
    constructor
    · rintro ⟨line, hline⟩
      cases hline
    · rintro ⟨name, hname⟩
      cases hname
  | ok name => exact ⟨fun _ => ⟨name, rfl⟩, fun _ => ⟨_, rfl⟩⟩

end Row

namespace Report

theorem fault_ofLines_eq_none_iff {lines : List (Except Utf8.Fault String)} :
    (ofLines lines).fault = none ↔ ∀ line ∈ lines, ∃ text, line = .ok text := by
  induction lines with
  | nil => simp [ofLines]
  | cons line rest ih =>
    rw [List.forall_mem_cons, ← ih]
    cases line with
    | error fault => simp [ofLines]
    | ok text => simp [ofLines]

/-- **Nothing is printed** if there is no line, or if the first one is no text. -/
theorem text_ofLines_eq_empty_iff {lines : List (Except Utf8.Fault String)} :
    (ofLines lines).text = "" ↔ ∀ line ∈ lines.head?, ¬ ∃ text, line = .ok text := by
  cases lines with
  | nil => simp [ofLines]
  | cons line rest =>
    cases line with
    | error fault => simp [ofLines]
    | ok text => simp [ofLines]

/-- **What is printed of rows** that all have a text: the bytes of all of them. -/
theorem encodeText_ofLines {rows : List Row} (h : (ofLines (rows.map Row.text)).fault = none) :
    Utf8.encodeText (ofLines (rows.map Row.text)).text = rows.flatMap Row.bytes := by
  induction rows with
  | nil => rfl
  | cons r rest ih =>
    rw [List.map_cons] at h ⊢
    cases hline : r.text with
    | error fault =>
      rw [hline] at h
      cases h
    | ok line =>
      rw [hline] at h
      rw [List.flatMap_cons, ← Row.encodeText_of_text_eq_ok hline, ← ih h]
      exact Utf8.encodeText_append ..

end Report

namespace Command

/-- The row that tells what a symbolic reference names. -/
def targetRow? (e : Bytes × Ref) : Option Row :=
  e.2.target?.map fun target => ⟨"ref: ", target.name, e.1⟩

/-- The row that tells the object that a reference leads to. -/
def objectRow? (e : Bytes × Ref) : Option Row :=
  e.2.objectId.map fun objectId => ⟨"", objectId, e.1⟩

/-- **The rows of references**, those of the symbolic ones first if they are asked for. -/
def rows (symrefs : Bool) (refs : Refs) : List Row :=
  (if symrefs then refs.entries.filterMap targetRow? else []) ++ refs.entries.filterMap objectRow?

theorem refReport_eq (symrefs : Bool) (refs : Refs) :
    refReport symrefs refs = Report.ofLines ((rows symrefs refs).map Row.text) := by
  have htarget : ∀ e : Bytes × Ref, (targetRow? e).map Row.text = targetLine? e := by
    intro e
    rw [targetRow?, targetLine?, Option.map_map]
    rfl
  have hobject : ∀ e : Bytes × Ref, (objectRow? e).map Row.text = objectLine? e := by
    intro e
    rw [objectRow?, objectLine?, Option.map_map]
    refine Option.map_congr fun objectId _ => ?_
    rw [Function.comp_apply, Row.text]
    cases Utf8.decodeText objectId with
    | error fault => rfl
    | ok text =>
      cases Utf8.decodeText e.1 with
      | error fault => rfl
      | ok name => exact congrArg Except.ok (by rw [String.empty_append]; rfl)
  rw [refReport, rows, List.map_append, List.map_filterMap, funext hobject]
  cases symrefs with
  | false => rfl
  | true => rw [if_pos rfl, if_pos rfl, List.map_filterMap, funext htarget]

/-- The fields of rows are text, but for the names. -/
theorem isText_field {symrefs : Bool} {refs : Refs} (h : refs.Legible) {r : Row}
    (hr : r ∈ rows symrefs refs) : IsText r.field := by
  have hlegible : ∀ e ∈ refs.entries, e.2.Legible e.1 := fun e he =>
    h e.1 e.2 ((Dict.find_eq_some_iff refs.nodup).2 he)
  rcases List.mem_append.1 hr with hr | hr
  · cases symrefs with
    | false => cases hr
    | true =>
      obtain ⟨e, he, hrow⟩ := List.mem_filterMap.1 hr
      obtain ⟨target, htarget, rfl⟩ := Option.map_eq_some_iff.1 hrow
      exact (hlegible e he).target target htarget
  · obtain ⟨e, he, hrow⟩ := List.mem_filterMap.1 hr
    obtain ⟨objectId, hid, rfl⟩ := Option.map_eq_some_iff.1 hrow
    exact Ref.isText_of_isObjectId ((hlegible e he).objectId objectId hid)

/-- **The report on references is whole** exactly if all names in its rows are text. -/
theorem fault_refReport_eq_none_iff {symrefs : Bool} {refs : Refs} (h : refs.Legible) :
    (refReport symrefs refs).fault = none ↔ ∀ r ∈ rows symrefs refs, IsText r.name := by
  rw [refReport_eq, Report.fault_ofLines_eq_none_iff, List.forall_mem_map]
  exact forall₂_congr fun r hr => Row.exists_text_iff (isText_field h hr)

/-- **The report on references is empty** exactly if there is no row or the name in the first one is
no text. -/
theorem text_refReport_eq_empty_iff {symrefs : Bool} {refs : Refs} (h : refs.Legible) :
    (refReport symrefs refs).text = "" ↔ ∀ r ∈ (rows symrefs refs).head?, ¬ IsText r.name := by
  rw [refReport_eq, Report.text_ofLines_eq_empty_iff, List.head?_map]
  constructor
  · intro hlines r hr hname
    exact hlines r.text (Option.mem_map_of_mem _ hr)
      ((Row.exists_text_iff (isText_field h (List.mem_of_mem_head? hr))).2 hname)
  · intro hrows line hline htext
    obtain ⟨r, hr, rfl⟩ := Option.mem_map.1 hline
    exact hrows r hr ((Row.exists_text_iff (isText_field h (List.mem_of_mem_head? hr))).1 htext)

end Command

/-! ### Standard output -/

/-- Writing a record prints nothing. -/
theorem Logging.stdout_write (l : Logging) (time : String) (o : Output) (r : Record) :
    (l.write time o r).stdout = o.stdout := by
  have happend : ∀ path text, (o.append path text).stdout = o.stdout := by
    intro path text
    rw [Output.append]
    cases o.files.append path text <;> rfl
  rw [write]
  split
  · rfl
  · cases l.handler with
    | some h =>
      dsimp only
      rw [Handler.write]
      cases h.sink with
      | screen => rfl
      | file path => exact happend path _
    | none =>
      dsimp only
      split <;> rfl

theorem Logging.stdout_writeAll (l : Logging) (time : String) (o : Output) (records : List Record) :
    (l.writeAll time o records).stdout = o.stdout := by
  induction records generalizing o with
  | nil => rfl
  | cons r rest ih => exact (ih _).trans (l.stdout_write time o r)

theorem Trace.stdout_open (s : Surroundings) (o : Output) :
    (Trace.open s o).2.stdout = o.stdout := by
  rw [Trace.open]
  cases target? s.environment with
  | none => rfl
  | some trace =>
    cases trace with
    | screen => rfl
    | file path =>
      dsimp only
      rw [openFile]
      cases o.files.append (Files.tidy (fileOf s path)) "" <;> rfl

/-! ### Runs -/

namespace Program

variable {π : Type} [Peer π]

/-- **A session on the repository that a URL names**. -/
def openUrl (s : Surroundings) (ini : Option Ini) (peer : π) (url : String) :
    Except Failure (Session (HttpStore π)) :=
  match locate s ini url with
  | .error r => .error r.alone
  | .ok (access, remote) =>
    Act.answerOf (Session.openOn remote (⟨⟨access, s.parser, peer⟩, []⟩ : World (HttpStore π)))

/-- **The references of a session's own repository**. -/
def readRefs (session : Session (HttpStore π)) : Except Failure Refs :=
  Act.answerOf (Database.advertised ⟨session.remote.objectsKey⟩ session)

/-- What a command line for references opens, unless something fails: whether targets are asked for,
and the session. -/
def opened? (s : Surroundings) (peer : π) (p : Grammar.Parsed Choice) :
    Option (Bool × Session (HttpStore π)) :=
  match loadConfig s p, Command.lsRemote.grammar.parse p.rest with
  | .ok ini, .ok q =>
    (openUrl s ini peer q.operand).toOption.map fun session => ((q.last? .symrefs).isSome, session)
  | _, _ => none

/-- **What a command line for references has to show**, unless something fails before the first row
is printed: whether targets are asked for, and the references. -/
def shown? (s : Surroundings) (peer : π) (p : Grammar.Parsed Choice) : Option (Bool × Refs) :=
  (opened? s peer p).bind fun opened =>
    (readRefs opened.2).toOption.map fun refs => (opened.1, refs)

/-- References that are shown are legible, and in ascending order of their names. -/
theorem legible_of_shown {s : Surroundings} {peer : π} {p : Grammar.Parsed Choice} {symrefs : Bool}
    {refs : Refs} (h : shown? s peer p = some (symrefs, refs)) :
    refs.Legible ∧ refs.keys.Pairwise (· < ·) := by
  obtain ⟨⟨_, session⟩, -, h⟩ := Option.bind_eq_some_iff.1 h
  obtain ⟨refs', hrefs, he⟩ := Option.map_eq_some_iff.1 h
  cases he
  rw [readRefs] at hrefs
  cases hadvertised : Database.advertised ⟨session.remote.objectsKey⟩ session with
  | error f s' =>
    rw [hadvertised] at hrefs
    cases hrefs
  | ok refs' s' =>
    rw [hadvertised] at hrefs
    cases hrefs
    exact ⟨Database.legible_advertised hadvertised, Database.pairwise_advertised hadvertised⟩

/-- **The report on references** is made of what a session reads after it has been opened. -/
theorem report_perform (s : Surroundings) (ini : Option Ini) (peer : π) (symrefs : Bool)
    (url : String) :
    (perform s ini peer .lsRemote symrefs url).report =
      (openUrl s ini peer url).bind fun session =>
        (readRefs session).map (Command.refReport symrefs) := by
  rw [perform, openUrl]
  cases locate s ini url with
  | error r => rfl
  | ok located =>
    obtain ⟨access, remote⟩ := located
    have hduring := Session.answerOf_during s.stamp remote (Command.lsRemote.report symrefs)
      (⟨⟨access, s.parser, peer⟩, []⟩ : World (HttpStore π))
    dsimp only
    refine Eq.trans ?_ (hduring.trans ?_)
    · cases Session.during remote s.stamp (Command.lsRemote.report symrefs)
        (⟨⟨access, s.parser, peer⟩, []⟩ : World (HttpStore π)) <;> rfl
    · cases Session.openOn remote (⟨⟨access, s.parser, peer⟩, []⟩ : World (HttpStore π)) with
      | error f w => rfl
      | ok session w =>
        dsimp only
        rw [Command.report, Act.bind_apply, Database.connect,
          Act.bind_apply_of_ok (Act.get_apply session), Act.bind_apply]
        change _ = (readRefs session).map _
        rw [readRefs]
        cases Database.advertised ⟨session.remote.objectsKey⟩ session <;> rfl

/-- **A run is cut short**: the command is not carried out, and nothing has been printed if that is a
failure. -/
structure IsCutShort (ending : Ending) (o : Output) : Prop where
  /-- The command is not carried out. -/
  ne_done : ending ≠ .done
  /-- A failure leaves standard output empty. -/
  stdout_eq : ending.status = 1 → o.stdout = ""

omit [Peer π] in
/-- A failure is told without printing anything. -/
theorem isCutShort_fail (l : Logging) (time : String) {o : Output} (ho : o.stdout = "")
    (f : Failure) : IsCutShort (fail l time o f).1 (fail l time o f).2 := by
  rw [fail]
  split
  · exact ⟨Ending.noConfusion, fun _ => (Logging.stdout_write ..).trans ho⟩
  · exact ⟨Ending.noConfusion, fun _ => ho⟩

omit [Peer π] in
/-- Words that cannot be read, or that ask for help, are no failure. -/
theorem isCutShort_stop {κ : Type} (g : Grammar κ) (o : Output) (why : Grammar.Stop) :
    IsCutShort (stop g o why).1 (stop g o why).2 := by
  cases why with
  | help => exact ⟨Ending.noConfusion, fun h => absurd h (by decide : Ending.helped.status ≠ 1)⟩
  | fault fault =>
    exact ⟨Ending.noConfusion, fun h => absurd h (by decide : Ending.misused.status ≠ 1)⟩

omit [Peer π] in
/-- A report is printed, and the fault in it decides how the program ends. -/
theorem tell_apply (l : Logging) (time : String) (o : Output) (report : Report) :
    (tell l time o (.ok report)).2.stdout = o.stdout ++ report.text ∧
      (tell l time o (.ok report)).1 = if report.fault = none then .done else .failed := by
  rw [tell]
  cases report.fault with
  | none => exact ⟨rfl, rfl⟩
  | some fault => exact ⟨Logging.stdout_write .., rfl⟩

/-- What becomes of a command line for references, whether there is something to show or not. -/
theorem run_lsRemote (s : Surroundings) (peer : π) {args : List String} {p : Grammar.Parsed Choice}
    (hargs : Command.programGrammar.parse args = .ok p)
    (hcommand : Command.ofName? p.operand = some .lsRemote) :
    match shown? s peer p with
    | some (symrefs, refs) =>
      (run s peer args).output.stdout = (Command.refReport symrefs refs).text ∧
        (run s peer args).ending =
          if (Command.refReport symrefs refs).fault = none then .done else .failed
    | none => IsCutShort (run s peer args).ending (run s peer args).output := by
  have hrun : run s peer args =
      dispatch s (Logging.ofProgram (p.last? .verbose).isSome (Trace.open s (.start s)).1)
        (Trace.open s (.start s)).2 peer p := by
    rw [run]
    dsimp only
    rw [hargs]
  have hstart : (Trace.open s (.start s)).2.stdout = "" := Trace.stdout_open s (.start s)
  rw [hrun, dispatch, hcommand]
  dsimp only
  generalize Logging.ofProgram (p.last? .verbose).isSome (Trace.open s (.start s)).1 = l
  generalize (Trace.open s (.start s)).2 = o at hstart
  rw [shown?, opened?]
  -- the cases are the stages of a run: each one but the last fails before anything is printed
  cases loadConfig s p with
  | error fault => exact isCutShort_fail l s.time hstart (Reason.settings fault).alone
  | ok ini =>
    dsimp only
    rw [runCommand]
    cases Command.lsRemote.grammar.parse p.rest with
    | error why => exact isCutShort_stop Command.lsRemote.grammar o why
    | ok q =>
      dsimp only
      rw [report_perform]
      have hlogged := Logging.stdout_writeAll l s.time o
        ((perform s ini peer .lsRemote (q.last? .symrefs).isSome q.operand).events.map Event.record)
      rw [hstart] at hlogged
      generalize l.writeAll s.time o _ = o' at hlogged
      cases openUrl s ini peer q.operand with
      | error f => exact isCutShort_fail l s.time hlogged f
      | ok session =>
        dsimp only [Except.bind, Except.toOption, Option.map_some, Option.bind_some]
        cases readRefs session with
        | error f => exact isCutShort_fail l s.time hlogged f
        | ok refs =>
          obtain ⟨hstdout, hending⟩ :=
            tell_apply l s.time o' (Command.refReport (q.last? .symrefs).isSome refs)
          rw [hlogged, String.empty_append] at hstdout
          exact ⟨hstdout, hending⟩

section

variable {s : Surroundings} {peer : π} {args : List String} {p : Grammar.Parsed Choice}

/-- **If there is something to show**, the report on it is printed, and the fault in it decides how
the program ends. -/
theorem run_of_shown (hargs : Command.programGrammar.parse args = .ok p)
    (hcommand : Command.ofName? p.operand = some .lsRemote) {symrefs : Bool} {refs : Refs}
    (hshown : shown? s peer p = some (symrefs, refs)) :
    (run s peer args).output.stdout = (Command.refReport symrefs refs).text ∧
      (run s peer args).ending =
        if (Command.refReport symrefs refs).fault = none then .done else .failed := by
  have hrun := run_lsRemote s peer hargs hcommand
  rw [hshown] at hrun
  exact hrun

/-- **If there is nothing to show**, the run is cut short. -/
theorem run_of_not_shown (hargs : Command.programGrammar.parse args = .ok p)
    (hcommand : Command.ofName? p.operand = some .lsRemote) (hshown : shown? s peer p = none) :
    IsCutShort (run s peer args).ending (run s peer args).output := by
  have hrun := run_lsRemote s peer hargs hcommand
  rw [hshown] at hrun
  exact hrun

/-- What there is to show is shown completely exactly if all names in it are text. -/
theorem ending_eq_done_iff (hargs : Command.programGrammar.parse args = .ok p)
    (hcommand : Command.ofName? p.operand = some .lsRemote) {symrefs : Bool} {refs : Refs}
    (hshown : shown? s peer p = some (symrefs, refs)) :
    (run s peer args).ending = .done ↔ ∀ r ∈ Command.rows symrefs refs, IsText r.name := by
  rw [(run_of_shown hargs hcommand hshown).2,
    ← Command.fault_refReport_eq_none_iff (legible_of_shown hshown).1]
  split
  · next hfault => exact iff_of_true rfl hfault
  · next hfault => exact iff_of_false Ending.noConfusion hfault

/-- **A command line for references that fails** has printed nothing exactly if all names that are
to be shown are text, or the first one is none. -/
theorem stdout_eq_empty_iff (hargs : Command.programGrammar.parse args = .ok p)
    (hcommand : Command.ofName? p.operand = some .lsRemote) :
    ((run s peer args).ending.status = 1 → (run s peer args).output.stdout = "") ↔
      ∀ symrefs refs, shown? s peer p = some (symrefs, refs) →
        (∀ r ∈ Command.rows symrefs refs, IsText r.name) ∨
          ∃ r ∈ (Command.rows symrefs refs).head?, ¬ IsText r.name := by
  cases hshown : shown? s peer p with
  | none =>
    exact ⟨fun _ _ _ h => (nomatch h), fun _ => (run_of_not_shown hargs hcommand hshown).stdout_eq⟩
  | some shown =>
    obtain ⟨symrefs, refs⟩ := shown
    obtain ⟨hstdout, hending⟩ := run_of_shown hargs hcommand hshown
    have hstatus : (run s peer args).ending.status = 1 ↔ (run s peer args).ending ≠ .done := by
      rw [hending]
      split <;> decide
    rw [hstatus, Ne, ending_eq_done_iff hargs hcommand hshown, hstdout,
      Command.text_refReport_eq_empty_iff (legible_of_shown hshown).1]
    constructor
    · intro h symrefs' refs' he
      cases he
      -- some name is no text, so there is a first row, and nothing is printed of it
      refine or_iff_not_imp_left.2 fun hnot => ?_
      obtain ⟨r, hr, hname⟩ := not_forall₂.1 hnot
      obtain ⟨first, hfirst⟩ := Option.isSome_iff_exists.1
        (List.isSome_head?.2 (List.ne_nil_of_mem hr))
      exact ⟨first, hfirst, h hnot first hfirst⟩
    · intro h hnot r hr
      obtain ⟨first, hfirst, hname⟩ := (h symrefs refs rfl).resolve_left hnot
      rwa [Option.mem_unique hr hfirst]

end

/-- **The references are told completely or not at all**, but for names that are no text. When the
command is carried out, standard output holds the rows of all references that are shown, in
ascending order of their names. When the program fails, nothing has been printed exactly if all
names in the rows are text or the first one is none. And only names of packed references are none.
-/
theorem tells_all_or_nothing_iff (s : Surroundings) (peer : π) (args : List String)
    (p : Grammar.Parsed Choice) (hargs : Command.programGrammar.parse args = .ok p)
    (hcommand : Command.ofName? p.operand = some .lsRemote) :
    ((run s peer args).ending = .done → ∃ symrefs refs, shown? s peer p = some (symrefs, refs) ∧
        refs.keys.Pairwise (· < ·) ∧
        Utf8.encodeText (run s peer args).output.stdout =
          (Command.rows symrefs refs).flatMap Row.bytes) ∧
      (((run s peer args).ending.status = 1 → (run s peer args).output.stdout = "") ↔
        ∀ symrefs refs, shown? s peer p = some (symrefs, refs) →
          (∀ r ∈ Command.rows symrefs refs, IsText r.name) ∨
            ∃ r ∈ (Command.rows symrefs refs).head?, ¬ IsText r.name) ∧
      ∀ symrefs refs, shown? s peer p = some (symrefs, refs) →
        ∀ name r, refs.get? name = some r → IsText name ∨ r.storage = .packed := by
  refine ⟨fun hdone => ?_, stdout_eq_empty_iff hargs hcommand, fun symrefs refs h name r hr =>
    ((legible_of_shown h).1 name r hr).name⟩
  cases hshown : shown? s peer p with
  | none => exact absurd hdone (run_of_not_shown hargs hcommand hshown).ne_done
  | some shown =>
    obtain ⟨symrefs, refs⟩ := shown
    refine ⟨symrefs, refs, rfl, (legible_of_shown hshown).2, ?_⟩
    have hfault := (Command.fault_refReport_eq_none_iff (legible_of_shown hshown).1).2
      ((ending_eq_done_iff hargs hcommand hshown).1 hdone)
    rw [Command.refReport_eq] at hfault
    rw [(run_of_shown hargs hcommand hshown).1, Command.refReport_eq,
      Report.encodeText_ofLines hfault]

/-- Surroundings with a configuration file that names a store. -/
def configured : Surroundings :=
  { environment := Dict.empty
    files := ⟨Dict.ofList [(["a.cfg"], "[s3]\nendpoint = https://s3.example.com\n")], [], []⟩
    process := "1"
    time := "now"
    stamp := .ofText "Fri Jan 02 15:04:05 UTC 2026"
    parser := Xml.parse }

/-- A server with a repository of packed references and nothing else. It is asked for the manifest,
the packed references, the loose ones below `refs` and `HEAD`, in this order. -/
def serving (packed : Bytes) : Script :=
  { replies :=
      [.answered (.bare 404), .answered ⟨200, [], packed⟩,
        .answered ⟨200, [], Utf8.encodeText "<ListBucketResult></ListBucketResult>"⟩,
        .answered (.bare 404)]
    seen := [] }

/-- The words that ask for the references of that repository. -/
def asking : List String := ["--config", "a.cfg", "ls-remote", "amazon-s3://u@b/p"]

/-- What these words say. -/
def asked : Grammar.Parsed Choice := ⟨[(.config, "a.cfg")], "ls-remote", ["amazon-s3://u@b/p"]⟩

/-- The object that the packed references lead to. -/
def packedId : Bytes := Utf8.encodeText "1111111111111111111111111111111111111111"

/-- A file of packed references with some names. -/
def packing (names : List Bytes) : Bytes :=
  names.flatMap fun name => packedId ++ 0x20 :: name ++ [0x0A]

/-- What is shown of packed references whose names are in order. -/
theorem rows_serving (names : List Bytes)
    (hfiled : ((opened? configured (serving (packing names)) asked).any fun opened =>
      !opened.1 && Act.passes
        (fun t => t.refs.entries = names.map fun name =>
          (name, Ref.direct name .packed (some packedId) none))
        (Scan.readAll ⟨opened.2.remote.objectsKey⟩ ⟨opened.2, Dict.empty⟩)) = true)
    (hsorted : names.Pairwise fun name name' => ¬ name' < name) :
    ∃ refs, shown? configured (serving (packing names)) asked = some (false, refs) ∧
      Command.rows false refs = names.map fun name => ⟨"", packedId, name⟩ := by
  obtain ⟨⟨symrefs, session⟩, hopened, hcheck⟩ := (Option.any_eq_true ..).1 hfiled
  obtain ⟨hsymrefs, hread⟩ := Bool.and_eq_true_iff.1 hcheck
  obtain rfl : symrefs = false := by simpa using hsymrefs
  obtain ⟨_, t, hread, hentries⟩ := Act.exists_of_passes hread
  have hentries := of_decide_eq_true hentries
  -- evaluation does not get through a sort of several entries, but these are in order already
  have hsort : t.refs.sort.entries = t.refs.entries := by
    refine List.mergeSort_of_pairwise ?_
    rw [hentries, List.pairwise_map]
    exact hsorted.imp fun h => decide_eq_true h
  refine ⟨t.refs.sort, ?_, ?_⟩
  · rw [shown?, hopened, Option.bind_some, readRefs, Database.advertised]
    dsimp only at hread ⊢
    rw [hread]
    rfl
  · rw [Command.rows, if_neg Bool.false_ne_true, List.nil_append, hsort, hentries,
      List.filterMap_map]
    exact congrFun List.filterMap_eq_map names

theorem parse_asking : Command.programGrammar.parse asking = .ok asked := rfl

theorem ofName?_asked : Command.ofName? asked.operand = some .lsRemote := by decide +kernel

/-- Names of two branches. -/
def branches : List Bytes := [Utf8.encodeText "refs/heads/a", Utf8.encodeText "refs/heads/b"]

/-- The name of a branch, and one that is no text. -/
def undecodable : List Bytes :=
  [Utf8.encodeText "refs/heads/a", Utf8.encodeText "refs/heads/" ++ [0xFF]]

/-- Two branches are told. -/
theorem tells_all_or_nothing_iff_of_branches :
    (run configured (serving (packing branches)) asking).ending = .done ∧
      (run configured (serving (packing branches)) asking).output.stdout =
        "1111111111111111111111111111111111111111\trefs/heads/a\n" ++
          "1111111111111111111111111111111111111111\trefs/heads/b\n" := by
  obtain ⟨refs, hshown, hrows⟩ := rows_serving branches (by decide +kernel)
    (by decide +kernel)
  have hdone : (run configured (serving (packing branches)) asking).ending = .done := by
    rw [ending_eq_done_iff parse_asking ofName?_asked hshown, hrows, List.forall_mem_map]
    simp [branches, IsText]
  obtain ⟨symrefs, refs', hshown', -, hbytes⟩ :=
    (tells_all_or_nothing_iff configured (serving (packing branches)) asking asked parse_asking
      ofName?_asked).1 hdone
  rw [hshown] at hshown'
  cases hshown'
  refine ⟨hdone, Utf8.encodeText_injective ?_⟩
  rw [hbytes, hrows]
  decide +kernel

/-- **The program can fail after the first row**: there are packed references of which the first one
has a name that is text, and the second one has none. -/
theorem not_nothing_of_undecodable :
    ¬ ((run configured (serving (packing undecodable)) asking).ending.status = 1 →
        (run configured (serving (packing undecodable)) asking).output.stdout = "") := by
  obtain ⟨refs, hshown, hrows⟩ := rows_serving undecodable (by decide +kernel)
    (by decide +kernel)
  have hfault : ¬ IsText (Utf8.encodeText "refs/heads/" ++ [0xFF]) := by
    rw [Utf8.isText_iff]
    rintro ⟨text, htext⟩
    have hnone : (Utf8.decodeText (Utf8.encodeText "refs/heads/" ++ [0xFF])).toOption = none := by
      decide +kernel
    rw [htext] at hnone
    cases hnone
  rw [stdout_eq_empty_iff parse_asking ofName?_asked]
  intro h
  rcases h _ _ hshown with htext | ⟨r, hr, hname⟩
  · rw [hrows, List.forall_mem_map] at htext
    exact hfault (htext _ (List.mem_cons_of_mem _ List.mem_cons_self))
  · rw [hrows] at hr
    cases hr
    exact hname ⟨_, rfl⟩

end Program

end BlobRemote
