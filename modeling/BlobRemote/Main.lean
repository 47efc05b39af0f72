import BlobRemote.Console.Program
import BlobRemote.Xml.Document
import Std.Time

/-!
# The command line

Collects what the program finds when it starts, runs it, and writes what it has to say. Nothing here
reaches a server: every exchange breaks off, and the program reports that.
-/

namespace BlobRemote

namespace Main

/-- A server that no request reaches. -/
structure Offline where

instance : Peer Offline where
  send _ peer := (.broken "no connection", peer)
  extent _ := 0

/-- The variables that the program looks at. -/
def readEnvironment : IO Environment := do
  let found ← Program.variableNames.filterMapM fun name => do
    let value ← IO.getEnv name
    return value.map (name, ·)
  return Dict.ofList found

/-- The paths of everything on the way to an absolute path, and the path itself. -/
def waypoints (path : String) : List String :=
  let names := Files.names path
  (List.range names.length).map fun i => "/" ++ "/".intercalate (names.take (i + 1))

/-- The place that the text of a path tells. -/
def placeOfText (path : String) : Place := ((Files.names path).foldl Files.push []).reverse

/-- The tree after looking at what a path leads to. -/
def look (files : Files) (path : String) : IO Files := do
  let here ← IO.currentDir
  if ← (here / path).isDir then
    return { files with folders := placeOfText path :: files.folders }
  else if ← (here / path).pathExists then
    let text ← IO.FS.readFile path
    return { files with texts := files.texts.insert (placeOfText path) text }
  else return files

/-- The files that the program may ask about. -/
def readFiles (paths : List String) : IO Files := do
  let here := toString (← IO.currentDir)
  let absolute (path : String) : String :=
    if Files.isAbsolute path then path else Files.join here path
  ((here :: paths.map absolute).flatMap waypoints).foldlM look ⟨Dict.empty, [], placeOfText here⟩

/-- The number of the process, as the system shows it. -/
def processNumber : IO String := do
  try
    let path ← IO.FS.realPath "/proc/self"
    return path.fileName.getD "0"
  catch _ => return "0"

/-- The time, in the form that it has in front of a record. -/
def timeText : IO String := do
  let now ← Std.Time.PlainDateTime.now
  return now.format "uuuu-MM-dd HH:mm:ss,SSS"

/-- The date, in the form that it has in the head of a property file. -/
def stamp : IO Property.Stamp := do
  let now ← Std.Time.DateTime.now
  return .ofText (now.format "EEE MMM dd HH:mm:ss z uuuu")

/-- Adds to the files what the program has written into them. -/
def writeFiles (before after : Files) : IO Unit :=
  after.texts.entries.forM fun (place, text) => do
    let old := (before.texts.get? place).getD ""
    if text ≠ old then
      let handle ← IO.FS.Handle.mk ("/" ++ "/".intercalate place) .append
      handle.putStr (String.ofList (text.toList.drop old.length))

end Main

end BlobRemote

open BlobRemote BlobRemote.Main in
/-- Runs the program on the words of a command line. -/
def main (args : List String) : IO UInt32 := do
  let environment ← readEnvironment
  let files ← readFiles (Program.paths environment args)
  let surroundings : Surroundings :=
    ⟨environment, files, ← processNumber, ← timeText, ← stamp, Xml.parse⟩
  let outcome := Program.run surroundings (⟨⟩ : Offline) args
  (← IO.getStdout).putStr outcome.output.stdout
  (← IO.getStderr).putStr outcome.output.stderr
  writeFiles files outcome.output.files
  match outcome.ending with
  | .broken f => IO.eprintln f.reason.message
  | _ => pure ()
  return UInt32.ofNat outcome.ending.status
