import BlobRemote.Console.Grammar
import BlobRemote.Data.Names
import BlobRemote.Ref.Scan

/-!
# Commands

What the program can be asked for: the references of a repository, its packs, and the versions that
its manifest tracks. A command reads in a session and leaves a report (`BlobRemote.Report`); no
command writes to the store.
-/

namespace BlobRemote

/-- What a command has to print, and the fault that cuts it short. -/
structure Report where
  /-- What is printed. -/
  text : String
  /-- Why nothing is printed after it. -/
  fault : Option Utf8.Fault
  deriving DecidableEq

/-- Lines up to the first one that is no text. -/
def Report.ofLines : List (Except Utf8.Fault String) → Report
  | [] => ⟨"", none⟩
  | .error fault :: _ => ⟨"", some fault⟩
  | .ok line :: rest =>
    let r := Report.ofLines rest
    ⟨line ++ "\n" ++ r.text, r.fault⟩

/-- A report without faults. -/
def Report.ofTexts (lines : List String) : Report := Report.ofLines (lines.map .ok)

/-- What the program can be asked for. -/
inductive Command where
  /-- The packs that have an index. -/
  | lsPacks
  /-- The references. -/
  | lsRemote
  /-- The versions that the manifest tracks. -/
  | manifest
  deriving DecidableEq

/-- What an option stands for. -/
inductive Choice where
  /-- The configuration file. -/
  | config
  /-- All details in the log. -/
  | verbose
  /-- The targets of symbolic references. -/
  | symrefs
  deriving DecidableEq

namespace Command

/-- The commands in ascending order of their names. -/
def all : List Command := [.lsPacks, .lsRemote, .manifest]

/-- The name of a command. -/
def name : Command → String
  | .lsPacks => "ls-packs"
  | .lsRemote => "ls-remote"
  | .manifest => "manifest"

/-- The command of a name. -/
def ofName? (name : String) : Option Command := all.find? fun c => c.name = name

/-! ### Command lines -/

/-- The name of the program. -/
def program : String := "blobwalk"

/-- The option that asks for help. -/
def helpSwitch : Switch Choice := ⟨none, ["-h", "--help"], none, "show this help message and exit"⟩

/-- What may stand on the command line of the program. -/
def programGrammar : Grammar Choice where
  program := program
  description := some "Inspect git repositories stored in blob stores"
  switches := [helpSwitch,
    ⟨some .config, ["--config"], some "CONFIG", "Configuration file"⟩,
    ⟨some .verbose, ["-v", "--verbose"], none, "Show debug output"⟩]
  operand := ⟨"command", "Command to run. Available: " ++ ", ".intercalate (all.map name)⟩
  rest := some ⟨"args", ""⟩

/-- What the operand of a command is. -/
def operandHelp : Command → String
  | .lsPacks => "Remote URL to list packs from"
  | .lsRemote => "Remote URL to list references from"
  | .manifest => "Remote URL of the repository"

/-- The options of a command. -/
def switches : Command → List (Switch Choice)
  | .lsRemote => [helpSwitch, ⟨some .symrefs, ["--symref"], none, "Show symbolic references"⟩]
  | _ => [helpSwitch]

/-- What may follow the name of a command. -/
def grammar (c : Command) : Grammar Choice where
  program := program ++ " " ++ c.name
  description := none
  switches := c.switches
  operand := ⟨"url", c.operandHelp⟩
  rest := none

/-! ### Reports -/

/-- The line that tells what a symbolic reference names. -/
def targetLine? (e : Bytes × Ref) : Option (Except Utf8.Fault String) :=
  e.2.target?.map fun target => do
    let target ← Utf8.decodeText target.name
    let name ← Utf8.decodeText e.1
    return s!"ref: {target}\t{name}"

/-- The line that tells the object that a reference leads to. -/
def objectLine? (e : Bytes × Ref) : Option (Except Utf8.Fault String) :=
  e.2.objectId.map fun objectId => do
    let objectId ← Utf8.decodeText objectId
    let name ← Utf8.decodeText e.1
    return s!"{objectId}\t{name}"

/-- **The report on references**, the targets of the symbolic ones first if they are asked for. -/
def refReport (symrefs : Bool) (refs : Refs) : Report :=
  Report.ofLines ((if symrefs then refs.entries.filterMap targetLine? else []) ++
    refs.entries.filterMap objectLine?)

variable {σ : Type}

/-- **Carries out a command** in a session, up to what is to be printed. -/
def report [Store σ] (symrefs : Bool) : Command → Act (Session σ) Report
  | .lsPacks => do
    let (db, _) ← Database.connect
    let names ← db.packNames
    return Report.ofTexts (Names.sorted names)
  | .lsRemote => do
    let (_, refs) ← Database.connect
    return refReport symrefs refs
  | .manifest => do
    let s ← get
    return Report.ofTexts (s.manifest.items.map fun (key, version) => s!"{version}\t{key}")

end Command

end BlobRemote
