import BlobRemote.Ref.Basic
import BlobRemote.Text.Cut
import BlobRemote.Text.Quoted

/-!
# Packed references

The file of packed references has a line `<identifier> <name>` for each of them, and below a tag's
line another one, `^<identifier>`, with the object that the tag stands for. The reader
(`BlobRemote.Packed.read`) holds each line back until it knows what follows; where the file is
faulty it gives the entries before the fault together with the fault. The writer
(`BlobRemote.Packed.write`) lists the names in ascending order.
-/

namespace BlobRemote

namespace Packed

/-- What makes a file of packed references faulty. -/
inductive Fault where
  /-- A line is not two fields with one space between them. -/
  | line (bytes : Bytes)
  /-- Something else stands where an identifier should. -/
  | identifier (bytes : Bytes)
  /-- An identifier of a peeled tag has no reference above it. -/
  | strayPeeled
  deriving DecidableEq

/-- What is wrong, in words. -/
def Fault.message : Fault → String
  | .line bytes => "invalid ref line " ++ Quoted.bytes bytes
  | .identifier bytes => "Invalid hex sha " ++ Quoted.bytes bytes
  | .strayPeeled => "unexpected peeled ref line"

/-- An entry of the file. -/
structure Entry where
  /-- The object's identifier. -/
  objectId : Bytes
  /-- The reference's name. -/
  name : Bytes
  /-- The object that the tag stands for. -/
  peeled : Option Bytes
  deriving DecidableEq

/-- The entries up to the end of a file or up to its first fault. -/
structure Parse where
  /-- The entries. -/
  entries : List Entry
  /-- The fault that ended the reading. -/
  fault : Option Fault

/-! ### Reading -/

/-- The identifier and the name on a line. -/
def splitLine (line : Bytes) : Except Fault (Bytes × Bytes) :=
  match Cut.fields 0x20 line with
  | [objectId, name] =>
    if Ref.isObjectId objectId then .ok (objectId, name) else .error (.identifier objectId)
  | _ => .error (.line line)

/-- A further entry in front of what is read after it. -/
def Parse.cons (entry : Entry) (rest : Parse) : Parse := ⟨entry :: rest.entries, rest.fault⟩

/-- What is read from a line with its peeled identifier, and then from the rest. -/
def entryThen (line : Bytes) (peeled : Option Bytes) (rest : Parse) : Parse :=
  match splitLine line with
  | .ok (objectId, name) => rest.cons ⟨objectId, name, peeled⟩
  | .error fault => ⟨[], some fault⟩

/-- What is read from lines that are neither blank nor comments, where `last` is a line whose peeled
identifier may still follow. -/
def readFrom : Option Bytes → List Bytes → Parse
  | none, [] => ⟨[], none⟩
  | some last, [] => entryThen last none ⟨[], none⟩
  | none, line :: rest =>
    match line with
    | 0x5E :: _ => ⟨[], some .strayPeeled⟩
    | _ => readFrom (some line) rest
  | some last, line :: rest =>
    match line with
    | 0x5E :: peeled =>
      if Ref.isObjectId peeled then entryThen last (some peeled) (readFrom none rest)
      else ⟨[], some (.identifier peeled)⟩
    | _ => entryThen last none (readFrom (some line) rest)

/-- Whether a line says something: it is neither blank nor a comment. -/
def isTelling : Bytes → Bool
  | [] => false
  | b :: _ => b != 0x23

/-- The lines of a file that say something, without what ends them. -/
def tellingLines (bs : Bytes) : List Bytes :=
  ((Cut.fields 0x0A bs).map (dropEndWhile Ref.isLineEnd)).filter isTelling

/-- **Reads a file of packed references.** -/
def read (bs : Bytes) : Parse := readFrom none (tellingLines bs)

/-! ### Writing -/

/-- The head of a file in which tags are peeled. -/
def header : Bytes := Utf8.encodeText "# pack-refs with: peeled\n"

/-- A reference's line, and below it the line with its peeled identifier if there is one. -/
def entryLines (peeled : Dict Bytes Bytes) (entry : Bytes × Bytes) : Bytes :=
  entry.2 ++ 0x20 :: entry.1 ++ 0x0A ::
    ((peeled.get? entry.1).elim [] fun p => 0x5E :: p ++ [0x0A])

/-- **Writes a file of packed references** from identifiers by name, and optionally from peeled
identifiers by name. -/
def write (objectIds : Dict Bytes Bytes) (peeled : Option (Dict Bytes Bytes)) : Bytes :=
  (if peeled.isSome then header else []) ++
    objectIds.sorted.flatMap (entryLines (peeled.getD Dict.empty))

end Packed

end BlobRemote
