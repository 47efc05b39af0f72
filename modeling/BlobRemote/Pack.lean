import BlobRemote.Data.Names
import BlobRemote.Text.Utf8

/-!
# Packs

A pack is two files in one directory, `pack-<id>.pack` and its index `pack-<id>.idx`. The index is
written last, so a pack without an index is an unfinished one and is not offered
(`BlobRemote.Pack.complete`).
-/

namespace BlobRemote

namespace Pack

/-- How the name of a pack begins. -/
def head : List Char := "pack-".toList

/-- How the name of a pack ends. -/
def packEnd : List Char := ".pack".toList

/-- How the name of an index ends. -/
def indexEnd : List Char := ".idx".toList

/-- The name of the index that belongs to a pack, if the name is that of a pack. -/
def index? (name : String) : Option String :=
  let cs := name.toList
  if head.isPrefixOf cs && packEnd.isSuffixOf cs then
    some (String.ofList (cs.take (cs.length - packEnd.length) ++ indexEnd))
  else none

/-- Whether a name is that of a pack whose index is among the names. -/
def isComplete (names : List String) (name : String) : Bool :=
  (index? name).any fun index => names.contains index

/-- **The packs that have an index**, each of them once. -/
def complete (names : List String) : List String :=
  Names.ofList (names.filter (isComplete names))

/-- The file that lists packs for clients that cannot list a directory: one line for each pack, and
an empty one. -/
def infoFile (names : List String) : Bytes :=
  (names.flatMap fun name => Utf8.encodeText ("P " ++ name ++ "\n")) ++ [0x0A]

end Pack

end BlobRemote
