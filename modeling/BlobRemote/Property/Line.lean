import BlobRemote.Property.Escape
import BlobRemote.Text.Cut

/-!
# Lines of a property file

A file is cut into natural lines at line feeds. Blank lines and lines that begin with `#` or `!` say
nothing, and a line that ends in an odd number of backslashes goes on in the next one, so that an
entry is a *logical* line (`BlobRemote.Property.logicalLines`). The key ends at the first blank,
equal sign or colon that no backslash precedes (`BlobRemote.Property.splitLine`).
-/

namespace BlobRemote

namespace Property

/-- The blanks of a property file: space, tab and form feed. -/
def isBlank (c : Char) : Bool := c == ' ' || c == '\t' || c == '\x0c'

/-- The characters that may stand between a key and its value. -/
def isSeparator (c : Char) : Bool := c == '=' || c == ':'

/-- Carriage returns and line feeds, which do not count at the end of a line. -/
def isLineEnd (c : Char) : Bool := c == '\r' || c == '\n'

/-- A natural line without what ends it and without the blanks before it. -/
def body (raw : List Char) : List Char := (dropEndWhile isLineEnd raw).dropWhile isBlank

/-- Whether a line says nothing: it is empty or a comment. -/
def isSilent : List Char → Bool
  | [] => true
  | c :: _ => c == '#' || c == '!'

/-- The number of backslashes at the end of a line. -/
def endSlashes (s : List Char) : Nat := (s.reverse.takeWhile (· == '\\')).length

/-- Whether a line goes on in the next one. -/
def continues (s : List Char) : Bool := endSlashes s % 2 == 1

/-- The logical lines of natural ones, where `pending` is the beginning of a logical line whose end
is still to come. -/
def logicalFrom : Option (List Char) → List (List Char) → List (List Char)
  | none, [] => []
  | some pending, [] => [pending]
  | none, raw :: rest =>
    let line := body raw
    if isSilent line then logicalFrom none rest
    else if continues line then logicalFrom (some line.dropLast) rest
    else line :: logicalFrom none rest
  | some pending, raw :: rest =>
    let line := pending ++ body raw
    if continues line then logicalFrom (some line.dropLast) rest
    else line :: logicalFrom none rest

/-- **The logical lines** of natural ones. -/
def logicalLines (lines : List (List Char)) : List (List Char) := logicalFrom none lines

/-- The key at the front of a logical line, still escaped, and what follows it. -/
def splitKey : List Char → List Char × List Char
  | [] => ([], [])
  | '\\' :: c :: rest =>
    let (key, after) := splitKey rest
    ('\\' :: c :: key, after)
  | c :: rest =>
    if isSeparator c || isBlank c then ([], c :: rest)
    else
      let (key, after) := splitKey rest
      (c :: key, after)

/-- What follows the separator at the front of a text: blanks, at most one equal sign or colon, and
blanks again. -/
def afterSeparator (s : List Char) : List Char :=
  match s.dropWhile isBlank with
  | [] => []
  | c :: rest => if isSeparator c then rest.dropWhile isBlank else c :: rest

/-- **The key and the value** of a logical line, both still escaped. -/
def splitLine (line : List Char) : List Char × List Char :=
  let (key, after) := splitKey line
  (key, afterSeparator after)

end Property

end BlobRemote
