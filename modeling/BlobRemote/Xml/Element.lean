import BlobRemote.Failure

/-!
# Elements of a document

A document is a tree of elements. Of an element only that is kept which a listing is asked for: its
name with its namespace, the text before its first child, and the children. How bytes become such a
tree is up to a parser (`BlobRemote.Xml.Parser`), which is a parameter of everything that reads
documents.
-/

namespace BlobRemote

namespace Xml

/-- A namespace. A parser writes it in braces in front of a name, so it is not empty, and no brace is
closed in it. -/
structure Space where
  /-- The text. -/
  text : String
  /-- It is not empty. -/
  nonempty : text ≠ ""
  /-- No brace is closed in it. -/
  braceless : '}' ∉ text.toList
  deriving DecidableEq

/-- The name of an element and the namespace it belongs to. -/
structure Tag where
  /-- The namespace. -/
  space : Option Space
  /-- The name within the namespace. -/
  name : String
  deriving DecidableEq

namespace Tag

/-- A name in the namespace of a tag. -/
def beside (t : Tag) (name : String) : Tag := { t with name := name }

/-- **Whether a search for a tag stops at another one**. A search in the namespace `*` stops at the
name in whatever namespace, and in none. -/
def finds (sought t : Tag) : Bool :=
  if sought.space.any (·.text == "*") then t.name = sought.name else t = sought

end Tag

/-- An element. -/
inductive Element where
  /-- An element with its name, the text before its first child, and the children in order. -/
  | node (tag : Tag) (text : String) (children : List Element)

namespace Element

/-- The name of an element. -/
def tag : Element → Tag
  | node tag _ _ => tag

/-- The text before the first child. -/
def text : Element → String
  | node _ text _ => text

/-- The children in order. -/
def children : Element → List Element
  | node _ _ children => children

mutual

/-- The element and all elements below it, in the order in which they begin. -/
def all : Element → List Element
  | node tag text children => node tag text children :: allOf children

/-- The elements of a list and all elements below them. -/
def allOf : List Element → List Element
  | [] => []
  | e :: rest => e.all ++ allOf rest

end

/-- The text of the first child at which a search for a tag stops. -/
def childText? (e : Element) (sought : Tag) : Option String :=
  (e.children.find? fun c => sought.finds c.tag).map text

end Element

/-- What a parser makes of a document. -/
inductive Parsed where
  /-- The tree of its elements. -/
  | tree (root : Element)
  /-- The document is not well-formed. -/
  | malformed
  /-- The parser fails for another reason. -/
  | failed (f : Failure)

/-- What makes trees of documents. -/
abbrev Parser := Bytes → Parsed

end Xml

end BlobRemote
