import BlobRemote.Number.HexDigit
import BlobRemote.Text.Utf8

/-!
# Percent-encoding

A text in a URL is spelled by the bytes of its UTF-8 form, and each byte that the place in the URL
does not admit as it is becomes a percent sign and two hexadecimal digits. Which bytes stay is a
parameter (`BlobRemote.Percent.encode`); only ASCII letters, digits and `_.-~` stay everywhere. In a
query a blank is written as a plus sign (`BlobRemote.Percent.encodeQuery`). Decoding
(`BlobRemote.Percent.decode`) takes every percent sign with two hexadecimal digits after it for a
byte, leaves any other percent sign alone, and reads the bytes leniently.
-/

namespace BlobRemote

namespace Percent

/-! ### Writing -/

/-- The bytes that need no encoding anywhere: ASCII letters, digits and `_.-~`. -/
def isUnreserved (b : UInt8) : Bool :=
  (0x41 ≤ b && b ≤ 0x5A) || (0x61 ≤ b && b ≤ 0x7A) || (0x30 ≤ b && b ≤ 0x39) ||
    b == 0x5F || b == 0x2E || b == 0x2D || b == 0x7E

/-- A byte in its encoded form, unless it stays. -/
def encodeByte (stays : UInt8 → Bool) (b : UInt8) : List Char :=
  if isUnreserved b || stays b then [Char.ofNat b.toNat]
  else ['%', Number.upperDigit (b.toNat / 16), Number.upperDigit (b.toNat % 16)]

/-- A text in its encoded form, where the bytes that `stays` admits are written as they are. -/
def encode (stays : UInt8 → Bool) (s : List Char) : List Char :=
  (Utf8.encode s).flatMap (encodeByte stays)

/-- A text as a part of a URL in which no delimiter stays. -/
def encodePart (s : List Char) : List Char := encode (fun _ => false) s

/-- A text as a path, in which the slashes stay. -/
def encodePath (s : List Char) : List Char := encode (· == 0x2F) s

/-- A byte of a query: a blank is a plus sign. -/
def encodeQueryByte (b : UInt8) : List Char :=
  if b = 0x20 then ['+'] else encodeByte (fun _ => false) b

/-- A text as a name or a value in a query. -/
def encodeQuery (s : List Char) : List Char := (Utf8.encode s).flatMap encodeQueryByte

/-! ### Reading -/

/-- The value of a hexadecimal digit, given by its byte. -/
def digitValue? (b : UInt8) : Option Nat :=
  let c := Char.ofNat b.toNat
  if Number.isHexDigit c then some (Number.hexValue c) else none

/-- The byte that two hexadecimal digits spell. -/
def byte? (high low : UInt8) : Option UInt8 :=
  match digitValue? high, digitValue? low with
  | some h, some l => some (UInt8.ofNat (16 * h + l))
  | _, _ => none

/-- The bytes of a text whose encoded bytes are put back, the first `skip` of which belong to an
encoded byte already read. -/
def decodeBytesFrom : Nat → Bytes → Bytes
  | _, [] => []
  | skip + 1, _ :: rest => decodeBytesFrom skip rest
  | 0, b :: rest =>
    if b = 0x25 then
      match rest with
      | high :: low :: _ =>
        match byte? high low with
        | some d => d :: decodeBytesFrom 2 rest
        | none => b :: decodeBytesFrom 0 rest
      | _ => b :: decodeBytesFrom 0 rest
    else b :: decodeBytesFrom 0 rest

/-- The bytes of a text whose encoded bytes are put back. -/
def decodeBytes (bs : Bytes) : Bytes := decodeBytesFrom 0 bs

/-- The text that an encoded form spells; broken UTF-8 becomes replacement characters. -/
def decode (s : List Char) : List Char := Utf8.lossyFrom 0 (decodeBytes (Utf8.encode s))

end Percent

end BlobRemote
