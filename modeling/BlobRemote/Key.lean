import BlobRemote.Text.Cut
import BlobRemote.Text.Quoted

/-!
# Keys

A repository is a tree of files, a store knows flat keys. A path is relative to a directory whose
key is the *base*; it may begin with markers `../`, and each of them takes one segment off the base
(`BlobRemote.Key.resolve`). When all segments are taken off, the path continues at the root of the
bucket, and a further marker is refused: the path climbs too high.
-/

namespace BlobRemote

namespace Key

/-- A path that climbs above the root of the bucket. -/
structure Climb where
  /-- The key that the path is relative to. -/
  base : String
  /-- The path. -/
  path : String
  deriving DecidableEq

/-- What is wrong, in words. -/
def Climb.message (c : Climb) : String :=
  Quoted.text c.path ++ " escapes key prefix " ++ Quoted.text c.base

/-- A text without one slash at its end. -/
def dropEndSlash (s : List Char) : List Char := if s.getLast? = some '/' then s.dropLast else s

/-- A text without one slash at its beginning. -/
def dropSlash : List Char → List Char
  | '/' :: rest => rest
  | s => s

/-- A key without its last segment. -/
def parent (key : List Char) : List Char := (Cut.atLast '/' key).elim [] Prod.fst

/-- A path below a key. At the root of the bucket no slash stands between the two. -/
def below (key path : List Char) : List Char := if key = [] then path else key ++ '/' :: path

/-- The key of a path, one marker after another: each takes a segment off. -/
def climb : List Char → List Char → Option (List Char)
  | key, '.' :: '.' :: '/' :: path => if key = [] then none else climb (parent key) path
  | key, path => some (below key path)

/-- **The key of a path** relative to a base. One slash at the end of the path does not count. -/
def resolve (base path : String) : Except Climb String :=
  match climb base.toList (dropEndSlash path.toList) with
  | some key => .ok (String.ofList key)
  | none => .error ⟨base, path⟩

/-- A path without one slash at its beginning and one at its end. -/
def normalize (path : String) : String :=
  String.ofList (dropEndSlash (dropSlash path.toList))

end Key

end BlobRemote
