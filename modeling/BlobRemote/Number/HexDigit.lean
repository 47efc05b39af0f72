/-!
# Hexadecimal digits

Digits in base 16: both cases are read, and upper case is written.
-/

namespace BlobRemote

namespace Number

/-- Whether a character is a hexadecimal digit, in either case. -/
def isHexDigit (c : Char) : Bool :=
  c.isDigit || ('a' ≤ c && c ≤ 'f') || ('A' ≤ c && c ≤ 'F')

/-- The value of a hexadecimal digit. -/
def hexValue (c : Char) : Nat :=
  if c.isDigit then c.toNat - 0x30
  else if 'a' ≤ c && c ≤ 'f' then c.toNat - 0x61 + 10
  else c.toNat - 0x41 + 10

/-- The upper-case hexadecimal digit of a number below sixteen. -/
def upperDigit (n : Nat) : Char :=
  if n < 10 then Char.ofNat (0x30 + n) else Char.ofNat (0x41 + (n - 10))

end Number

end BlobRemote
