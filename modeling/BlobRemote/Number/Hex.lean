import BlobRemote.Number.HexDigit
import BlobRemote.Number.Literal

/-!
# Hexadecimal integers

The four characters after `\u` in a property file are read as an integer in base 16. That admits
more than four hexadecimal digits in a row: blanks around the number, a sign, the mark `0x`,
underscores between digits, and the digits of any script.
-/

namespace BlobRemote

namespace Number

/-- What follows the mark of the base, if there is one. One underscore may stand after the mark. -/
def afterBase : List Char → List Char
  | '0' :: 'x' :: '_' :: rest => rest
  | '0' :: 'X' :: '_' :: rest => rest
  | '0' :: 'x' :: rest => rest
  | '0' :: 'X' :: rest => rest
  | s => s

/-- The integer that a text spells in base 16. -/
def readHex? (s : List Char) : Option Int := do
  let (negative, rest) := sign (plain s)
  let digits ← joined? isHexDigit (afterBase rest)
  if digits.isEmpty || !digits.all isHexDigit then none
  let n := ofDigits 16 hexValue digits
  return if negative then -(n : Int) else n

end Number

end BlobRemote
