import BlobRemote.Ref.Basic
import BlobRemote.Text.Cut

/-!
# Contents of a loose reference

The blob of a loose reference holds an object identifier, or `ref: ` and the name of another
reference, on its first line.
-/

namespace BlobRemote

namespace Ref

/-- What the blob of a loose reference says. -/
inductive Content where
  /-- The reference is direct and holds this identifier. -/
  | object (objectId : Bytes)
  /-- The reference is symbolic and names this one. -/
  | symbolic (target : Bytes)
  /-- Neither; the first line, if there is one. -/
  | malformed (line : Option Bytes)
  deriving DecidableEq

/-- How the blob of a symbolic reference begins. -/
def symbolicMark : Bytes := Utf8.encodeText "ref: "

/-- The first line of a blob, without what ends it. -/
def firstLine (data : Bytes) : Bytes := dropEndWhile isLineEnd (data.takeWhile (· != 0x0A))

/-- What a first line says. -/
def contentOfLine (line : Bytes) : Content :=
  if symbolicMark.isPrefixOf line then
    let target := line.drop symbolicMark.length
    if isName target then .symbolic target else .malformed (some line)
  else if isObjectId line then .object line
  else .malformed (some line)

/-- **What a blob says.** -/
def contentOf (data : Bytes) : Content :=
  if data = [] then .malformed none else contentOfLine (firstLine data)

/-- The blob of a direct reference. -/
def objectBlob (objectId : Bytes) : Bytes := objectId ++ [0x0A]

end Ref

end BlobRemote
