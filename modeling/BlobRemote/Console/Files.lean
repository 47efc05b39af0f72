import BlobRemote.Data.Dict
import BlobRemote.Text.Cut
import BlobRemote.Text.Quoted

/-!
# Files

The part of a file system that the program looks at: a tree of folders and of files that hold text. A
path is followed name by name, and every name but the last has to lead to a folder
(`BlobRemote.Files.follow`). What a path means is asked of the tree, so a path that climbs out of a
missing folder leads nowhere; `BlobRemote.Files.tidy` shortens a path by its text alone.
-/

namespace BlobRemote

/-- A place in the tree: the names on the way from the root. -/
abbrev Place := List String

/-- What is at a place. -/
inductive Entry where
  /-- A folder. -/
  | folder
  /-- A file with its text. -/
  | file (text : String)
  deriving DecidableEq

/-- A tree of folders and files. -/
structure Files where
  /-- The text of each file. -/
  texts : Dict Place String
  /-- Folders that are there even if they hold no file. -/
  folders : List Place
  /-- The folder that relative paths start from. -/
  here : Place

namespace Files

/-- Why a path leads nowhere, or not to a file. -/
inductive Fault where
  /-- There is nothing of that name. -/
  | missing
  /-- A file stands where a folder should be. -/
  | notFolder
  /-- A folder stands where a file should be. -/
  | isFolder
  deriving DecidableEq

/-- What is wrong with a path, in words. -/
def Fault.message (fault : Fault) (path : String) : String :=
  let words := match fault with
    | .missing => "[Errno 2] No such file or directory"
    | .notFolder => "[Errno 20] Not a directory"
    | .isFolder => "[Errno 21] Is a directory"
  words ++ ": " ++ Quoted.text path

/-! ### Following a path -/

/-- Whether a folder is at a place: it was named as one, or something is below it. -/
def isFolder (f : Files) (place : Place) : Bool :=
  place.isEmpty || f.folders.any place.isPrefixOf ||
    f.texts.keys.any fun p => place.isPrefixOf p && p ≠ place

/-- What is at a place. -/
def entry? (f : Files) (place : Place) : Option Entry :=
  match f.texts.get? place with
  | some text => some (.file text)
  | none => if f.isFolder place then some .folder else none

/-- The names on a path, empty ones included. -/
def names (path : String) : List String := (Cut.fields '/' path.toList).map String.ofList

/-- Whether a path starts from the root. -/
def isAbsolute (path : String) : Bool := path.toList.head? = some '/'

/-- **Follows names** from a place. Every name asks that a folder is there; the last one need not lead
to anything. -/
def follow (f : Files) : Place → List String → Except Fault Place
  | place, [] => .ok place
  | place, name :: rest =>
    match f.entry? place with
    | none => .error .missing
    | some (.file _) => .error .notFolder
    | some .folder =>
      if name = "" ∨ name = "." then f.follow place rest
      else if name = ".." then f.follow place.dropLast rest
      else f.follow (place ++ [name]) rest

/-- The place that a path leads to. -/
def placeOf (f : Files) (path : String) : Except Fault Place :=
  f.follow (if isAbsolute path then [] else f.here) (names path)

/-- What a path leads to. -/
def at? (f : Files) (path : String) : Option Entry :=
  match f.placeOf path with
  | .ok place => f.entry? place
  | .error _ => none

/-- The text of the file that a path leads to. -/
def text? (f : Files) (path : String) : Option String :=
  match f.at? path with
  | some (.file text) => some text
  | _ => none

/-- Whether a path leads to a folder. -/
def hasFolder (f : Files) (path : String) : Bool := f.at? path = some .folder

/-! ### Writing -/

/-- **The tree after a text was added** to the end of the file that a path leads to. A file that is
not there is made. -/
def append (f : Files) (path text : String) : Except Fault Files :=
  match f.placeOf path with
  | .error fault => .error fault
  | .ok place =>
    match f.entry? place with
    | some .folder => .error .isFolder
    | some (.file old) => .ok { f with texts := f.texts.insert place (old ++ text) }
    | none => .ok { f with texts := f.texts.insert place text }

/-! ### The text of a path -/

/-- A path one name further down. -/
def join (path name : String) : String :=
  if path.toList.getLast? = some '/' then path ++ name else path ++ "/" ++ name

/-- Names after one more name, the last one first: two dots take the name before them away. -/
def push (names : List String) (name : String) : List String :=
  if name = "" ∨ name = "." then names
  else if name = ".." then names.tail
  else name :: names

/-- What an absolute path starts with: two slashes stand for themselves, more than two for one. -/
def root : List Char → String
  | '/' :: '/' :: '/' :: _ => "/"
  | '/' :: '/' :: _ => "//"
  | _ => "/"

/-- **An absolute path in its shortest form**, by its text alone. -/
def tidy (path : String) : String :=
  root path.toList ++ "/".intercalate ((names path).foldl push []).reverse

end Files

end BlobRemote
