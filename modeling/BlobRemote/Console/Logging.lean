import BlobRemote.Console.Files
import BlobRemote.Http.Pool
import BlobRemote.Log
import BlobRemote.Property.File
import BlobRemote.Xml.Element

/-!
# Where records go

A library keeps quiet until the program that uses it says where records go. The program does so when
it starts (`BlobRemote.Logging.ofProgram`), and the environment may ask for a trace instead
(`BlobRemote.Trace`): all records, with their loggers, on the screen or at the end of a file. A trace
that cannot be written costs a warning and nothing else.
-/

namespace BlobRemote

/-- What the program finds when it starts. -/
structure Surroundings where
  /-- The variables of the environment. -/
  environment : Environment
  /-- The files. -/
  files : Files
  /-- The number of the process, as it stands in names of files. -/
  process : String
  /-- The time, as it stands in front of a record. -/
  time : String
  /-- The date, as it stands in the head of a property file. -/
  stamp : Property.Stamp
  /-- What reads documents. -/
  parser : Xml.Parser

/-- What the program has written. -/
structure Output where
  /-- On standard output. -/
  stdout : String
  /-- On standard error. -/
  stderr : String
  /-- Into files. -/
  files : Files

namespace Output

/-- Nothing is written yet. -/
def start (s : Surroundings) : Output := ⟨"", "", s.files⟩

/-- Writes on standard output. -/
def print (o : Output) (text : String) : Output := { o with stdout := o.stdout ++ text }

/-- Writes on standard error. -/
def complain (o : Output) (text : String) : Output := { o with stderr := o.stderr ++ text }

/-- Writes at the end of a file that can be opened. -/
def append (o : Output) (path text : String) : Output :=
  match o.files.append path text with
  | .ok files => { o with files := files }
  | .error _ => o

end Output

/-! ### Handlers -/

/-- Where records are written. -/
inductive Sink where
  /-- On standard error. -/
  | screen
  /-- At the end of a file. -/
  | file (path : String)
  deriving DecidableEq

/-- A place for records and the form that they have there. -/
structure Handler where
  /-- The place. -/
  sink : Sink
  /-- Whether a line tells the logger. -/
  namesLogger : Bool
  deriving DecidableEq

namespace Handler

/-- The line of a record. -/
def line (h : Handler) (time : String) (r : Record) : String :=
  let logger := if h.namesLogger then r.logger ++ " " else ""
  s!"{time} {logger}{r.level.name}: {r.message}\n"

/-- Writes a record. -/
def write (h : Handler) (time : String) (o : Output) (r : Record) : Output :=
  match h.sink with
  | .screen => o.complain (h.line time r)
  | .file path => o.append path (h.line time r)

end Handler

/-! ### Traces -/

/-- Where the environment asks a trace to go. -/
inductive Trace where
  /-- To standard error. -/
  | screen
  /-- To the file that a path names, or to a new one in the folder that it names. -/
  | file (path : String)
  deriving DecidableEq

namespace Trace

/-- The variable that asks for a trace. -/
def setting : String := "BLOBWALK_TRACE"

/-- **Where a trace goes**, if the environment asks for one. A word that is neither one of the three
for the screen, in whatever case, nor an absolute path asks for none. -/
def target? (env : Environment) : Option Trace :=
  let value := (env.get? setting).getD ""
  let word := value.toList.map Char.toLower
  if word = ['1'] || word = ['2'] || word = ['t', 'r', 'u', 'e'] then some .screen
  else if Files.isAbsolute value then some (.file value)
  else none

/-- The file of a trace: the path itself, or a file of the process's own in the folder there. -/
def fileOf (s : Surroundings) (path : String) : String :=
  if s.files.hasFolder path then Files.join path s!"trace.{s.process}" else path

/-- Opens the file of a trace, or warns that it cannot be opened. -/
def openFile (o : Output) (file : String) : Option Handler × Output :=
  match o.files.append (Files.tidy file) "" with
  | .ok files => (some ⟨.file (Files.tidy file), true⟩, { o with files := files })
  | .error fault =>
    let words := fault.message (Files.tidy file)
    (none, o.complain s!"Warning: Failed to open {setting} file {file}: {words}\n")

/-- **Opens the trace** that the environment asks for, if it does and the trace can be opened. -/
def «open» (s : Surroundings) (o : Output) : Option Handler × Output :=
  match target? s.environment with
  | none => (none, o)
  | some .screen => (some ⟨.screen, true⟩, o)
  | some (.file path) => openFile o (fileOf s path)

end Trace

/-! ### Logging -/

/-- What becomes of records. -/
structure Logging where
  /-- Where they are written. -/
  handler : Option Handler
  /-- The least grave level that is not dropped. -/
  level : Level
  /-- Whether the library keeps quiet as long as there is no handler. -/
  quiet : Bool
  deriving DecidableEq

namespace Logging

/-- Nothing has been said about records. -/
def initial : Logging := ⟨none, .warning, true⟩

/-- Only a trace has been asked for. -/
def ofTrace : Option Handler → Logging
  | none => initial
  | some h => ⟨some h, .debug, true⟩

/-- **The program's logging**: the trace, if there is one, or else standard error, with details only
on demand. -/
def ofProgram (verbose : Bool) : Option Handler → Logging
  | none => ⟨some ⟨.screen, false⟩, if verbose then .debug else .info, false⟩
  | some h => ⟨some h, .debug, false⟩

/-- The logger above all loggers of the library. -/
def library : String := "blobwalk"

/-- Whether a logger is one of the library's. -/
def isLibrary (logger : String) : Bool :=
  logger = library || (library ++ ".").toList.isPrefixOf logger.toList

/-- **Writes a record**, unless it is less grave than the level. Without a handler, only a warning or
something graver is written, in its bare words, and nothing of a library that keeps quiet. -/
def write (l : Logging) (time : String) (o : Output) (r : Record) : Output :=
  if r.level.rank < l.level.rank then o
  else
    match l.handler with
    | some h => h.write time o r
    | none =>
      if (l.quiet && isLibrary r.logger) || r.level.rank < Level.warning.rank then o
      else o.complain (r.message ++ "\n")

/-- Writes records one after the other. -/
def writeAll (l : Logging) (time : String) (o : Output) (records : List Record) : Output :=
  records.foldl (l.write time) o

end Logging

end BlobRemote
