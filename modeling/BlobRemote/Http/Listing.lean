import BlobRemote.Xml.Element

/-!
# Pages of a listing

A listing arrives in pages, each of them a document. A page holds keys, and if more pages follow, the
token that asks for the next one. All names in it are looked for in the namespace of the root element,
if it has one.
-/

namespace BlobRemote

/-- A page of a listing. -/
structure Page where
  /-- The keys, in the order in which they are listed. -/
  keys : List String
  /-- The token that asks for the next page. -/
  next : Option String
  deriving DecidableEq

namespace Page

open Xml

/-- The key in an entry of a listing; an empty one does not count. -/
def key? (sought : Tag) (entry : Element) : Option String :=
  (entry.childText? sought).filter (· ≠ "")

/-- The keys in the entries of a listing, wherever in it they stand. -/
def keysOf (root : Element) : List String :=
  (root.all.filter fun e => e.tag = root.tag.beside "Contents").filterMap
    (key? (root.tag.beside "Key"))

/-- The token that asks for the next page. It counts only if the page says that it is not the
last. -/
def nextOf (root : Element) : Option String :=
  if root.childText? (root.tag.beside "IsTruncated") = some "true" then
    (root.childText? (root.tag.beside "NextContinuationToken")).filter (· ≠ "")
  else none

/-- **The page that an element tree holds.** -/
def ofElement (root : Element) : Page := ⟨keysOf root, nextOf root⟩

end Page

end BlobRemote
