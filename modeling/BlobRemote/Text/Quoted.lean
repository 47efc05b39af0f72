import BlobRemote.Text.Printable
import BlobRemote.Text.Utf8

/-!
# Quoted text

Messages show keys, URLs and lines of files between quotes, so that blanks and control characters
can be seen. Single quotes are used unless the text holds a single quote and no double one. The
backslash and the quote in use are escaped, line feed, carriage return and tab have short escapes,
and what is not printable is written by its code point in two, four or eight hexadecimal digits.
Bytes are quoted alike, with a `b` in front, and only printable ASCII is shown as it is.
-/

namespace BlobRemote

namespace Quoted

/-- The quote to use for a text that holds a single quote or a double one. -/
def mark (single double : Bool) : Char := if single && !double then '"' else '\''

/-- A number in at least `width` hexadecimal digits. -/
def hexDigits (width n : Nat) : List Char :=
  let digits := Nat.toDigits 16 n
  List.replicate (width - digits.length) '0' ++ digits

/-- A code point by its number. -/
def numbered (n : Nat) : List Char :=
  if n ≤ 0xFF then '\\' :: 'x' :: hexDigits 2 n
  else if n ≤ 0xFFFF then '\\' :: 'u' :: hexDigits 4 n
  else '\\' :: 'U' :: hexDigits 8 n

/-- A character as it is shown between quotes `quote`. -/
def escape (quote c : Char) : List Char :=
  if c = quote || c = '\\' then ['\\', c]
  else if c = '\n' then ['\\', 'n']
  else if c = '\r' then ['\\', 'r']
  else if c = '\t' then ['\\', 't']
  else if Text.isPrintable c then [c]
  else numbered c.toNat

/-- A text between quotes. -/
def text (s : String) : String :=
  let cs := s.toList
  let quote := mark (cs.contains '\'') (cs.contains '"')
  String.ofList (quote :: cs.flatMap (escape quote) ++ [quote])

/-- A byte as it is shown between quotes `quote`. -/
def escapeByte (quote : Char) (b : UInt8) : List Char :=
  let c := Char.ofNat b.toNat
  if c = quote || c = '\\' then ['\\', c]
  else if c = '\n' then ['\\', 'n']
  else if c = '\r' then ['\\', 'r']
  else if c = '\t' then ['\\', 't']
  else if 0x20 ≤ b && b < 0x7F then [c]
  else numbered b.toNat

/-- Bytes between quotes. -/
def bytes (bs : Bytes) : String :=
  let quote := mark (bs.contains 0x27) (bs.contains 0x22)
  String.ofList ('b' :: quote :: bs.flatMap (escapeByte quote) ++ [quote])

end Quoted

end BlobRemote
