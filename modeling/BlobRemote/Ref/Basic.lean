import BlobRemote.Data.Dict
import BlobRemote.Number.HexDigit
import BlobRemote.Text.Utf8

/-!
# References

A reference is a name for an object. A *direct* one holds the object's identifier, a *symbolic* one
names another reference. References are found loose, each in a blob of its own, or packed, all in
one file.
-/

namespace BlobRemote

/-- Where a reference was found. -/
inductive Storage where
  /-- Nowhere: a symbolic reference names it, but it has not been written yet. -/
  | new
  /-- In a blob of its own. -/
  | loose
  /-- In the file of packed references. -/
  | packed
  /-- In both; the blob counts. -/
  | loosePacked
  deriving DecidableEq

/-- A reference. -/
inductive Ref where
  /-- A reference to an object. `peeled` is the object that a tag stands for. -/
  | direct (name : Bytes) (storage : Storage) (objectId peeled : Option Bytes)
  /-- A reference to another one. -/
  | symbolic (name : Bytes) (target : Ref)
  deriving DecidableEq

/-- References by name. -/
abbrev Refs := Dict Bytes Ref

namespace Ref

/-- The name of a reference. -/
def name : Ref → Bytes
  | .direct name _ _ _ => name
  | .symbolic name _ => name

/-- The reference that a symbolic one names. -/
def target? : Ref → Option Ref
  | .direct .. => none
  | .symbolic _ target => some target

/-- Whether a reference is symbolic. -/
def isSymbolic (r : Ref) : Bool := r.target?.isSome

/-- The direct reference at the end of the chain. -/
def leaf : Ref → Ref
  | .direct name storage objectId peeled => .direct name storage objectId peeled
  | .symbolic _ target => target.leaf

/-- The object that a reference leads to, if there is one. -/
def objectId : Ref → Option Bytes
  | .direct _ _ objectId _ => objectId
  | .symbolic _ target => target.objectId

/-- The object that the tag at the end of the chain stands for, if that is known. -/
def peeled : Ref → Option Bytes
  | .direct _ _ _ peeled => peeled
  | .symbolic _ target => target.peeled

/-- Where a reference was found. A symbolic one is always in a blob of its own. -/
def storage : Ref → Storage
  | .direct _ storage _ _ => storage
  | .symbolic .. => .loose

/-! ### Object identifiers and names -/

/-- Whether a byte is a hexadecimal digit in either case. -/
def isHexByte (b : UInt8) : Bool := Number.isHexDigit (Char.ofNat b.toNat)

/-- Whether bytes are an object identifier: forty or sixty-four hexadecimal digits. -/
def isObjectId (bs : Bytes) : Bool := (bs.length == 40 || bs.length == 64) && bs.all isHexByte

/-- Whether a byte is a blank of ASCII. -/
def isBlankByte (b : UInt8) : Bool := b == 0x20 || (0x09 ≤ b && b ≤ 0x0D)

/-- Whether bytes may name a reference: they are UTF-8 and not all blank. -/
def isName (bs : Bytes) : Bool :=
  !bs.all isBlankByte && (Utf8.decode bs).toBool

/-- Carriage returns and line feeds, which do not count at the end of a line. -/
def isLineEnd (b : UInt8) : Bool := b == 0x0D || b == 0x0A

end Ref

end BlobRemote
