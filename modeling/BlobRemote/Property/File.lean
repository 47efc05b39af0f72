import BlobRemote.Data.Dict
import BlobRemote.Property.Line
import BlobRemote.Text.Blank

/-!
# Property files

A property file is UTF-8 text with one entry `key=value` on each logical line. The reader
(`BlobRemote.Property.read`) takes every spelling, and of two entries for one key the later one wins;
the writer (`BlobRemote.Property.write`) puts the date into the head of the file and below it, in
ASCII alone, the entries in ascending order.
-/

namespace BlobRemote

namespace Property

/-! ### Reading -/

/-- The entry on a logical line. -/
def readLine (line : List Char) : Except Fault (String × String) :=
  let (key, value) := splitLine line
  match unescape key with
  | .error fault => .error fault
  | .ok k =>
    match unescape value with
    | .error fault => .error fault
    | .ok v => .ok (String.ofList k, String.ofList v)

/-- The entries on logical lines, in their order. -/
def readLines : List (List Char) → Except Fault (List (String × String))
  | [] => .ok []
  | line :: rest =>
    match readLine line with
    | .error fault => .error fault
    | .ok entry => (readLines rest).map (entry :: ·)

/-- The entries of a text, in their order. -/
def readText (s : List Char) : Except Fault (List (String × String)) :=
  readLines (logicalLines (Cut.fields '\n' s))

/-- **Reads a property file**: later entries win. -/
def read (bs : Bytes) : Except Fault (Dict String String) :=
  match Utf8.decode bs with
  | .error fault => .error (.undecodable fault)
  | .ok text => (readText text).map Dict.ofList

/-! ### Writing -/

/-- The date in the head of a file, as the clock tells it: a text in one line. -/
structure Stamp where
  /-- The text. -/
  text : String
  /-- It is in one line. -/
  oneLine : '\n' ∉ text.toList

/-- A text as a date, without its line feeds if it has any. -/
def Stamp.ofText (text : String) : Stamp :=
  ⟨String.ofList (text.toList.filter (· ≠ '\n')), by simp⟩

/-- A comment line. -/
def commentLine (text : List Char) : List Char := '#' :: text ++ ['\n']

/-- A comment in one line: a blank takes the place of every line boundary. -/
def joinLines (comment : List Char) : List Char := [' '].intercalate (Text.lines comment)

/-- An entry on a line of its own. -/
def entryLine (entry : String × String) : List Char :=
  escapeKey entry.1.toList ++ '=' :: escapeValue entry.2.toList ++ ['\n']

/-- The text of a property file. -/
def writeText (stamp : Stamp) (comment : Option String) (entries : Dict String String) :
    List Char :=
  comment.elim [] (fun c => commentLine (joinLines c.toList)) ++ commentLine stamp.text.toList ++
    entries.sorted.flatMap entryLine

/-- **Writes a property file**, with an optional comment above the date. -/
def write (stamp : Stamp) (comment : Option String) (entries : Dict String String) : Bytes :=
  Utf8.encode (writeText stamp comment entries)

end Property

end BlobRemote
