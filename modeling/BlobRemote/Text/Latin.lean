import BlobRemote.Text.Quoted

/-!
# Latin-1

Credentials are sent in Latin-1, one byte for each of the first 256 characters. A text with other
characters has no such form; the fault names the first run of them.
-/

namespace BlobRemote

namespace Latin

/-- The first run of characters without a byte. -/
structure Fault where
  /-- The first of them. -/
  char : Char
  /-- Its position. -/
  start : Nat
  /-- The position after the run. -/
  stop : Nat
  deriving DecidableEq

/-- Whether a character has a byte of its own. -/
def hasByte (c : Char) : Bool := c.toNat < 256

/-- The bytes of the characters from position `pos` on. -/
def encodeFrom : Nat → List Char → Except Fault Bytes
  | _, [] => .ok []
  | pos, c :: rest =>
    if hasByte c then (encodeFrom (pos + 1) rest).map (UInt8.ofNat c.toNat :: ·)
    else .error ⟨c, pos, pos + 1 + (rest.takeWhile fun d => !hasByte d).length⟩

/-- The bytes of a text, or the first run of characters without one. -/
def encode (s : List Char) : Except Fault Bytes := encodeFrom 0 s

/-- The place, in words. A single character is shown, a longer run is placed. -/
def Fault.message (f : Fault) : String :=
  let place :=
    if f.stop = f.start + 1 then
      "character '" ++ String.ofList (Quoted.numbered f.char.toNat) ++ s!"' in position {f.start}"
    else s!"characters in position {f.start}-{f.stop - 1}"
  "'latin-1' codec can't encode " ++ place ++ ": ordinal not in range(256)"

end Latin

end BlobRemote
