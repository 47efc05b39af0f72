/-!
# UTF-16 code units

A property file writes a character outside ASCII as one or two escapes of four hexadecimal digits,
one for each UTF-16 code unit. `BlobRemote.Utf16.units` cuts a code point into its units, and
`BlobRemote.Utf16.fold` puts units together again: a high surrogate and the low one after it are one
character, and a surrogate that stands alone is none.
-/

namespace BlobRemote

namespace Utf16

/-- Whether a unit is the first of a pair. -/
def isHigh (u : Nat) : Bool := 0xD800 ≤ u && u < 0xDC00

/-- Whether a unit is the second of a pair. -/
def isLow (u : Nat) : Bool := 0xDC00 ≤ u && u < 0xE000

/-- The units of a code point. A code point that is itself a surrogate is its own unit. -/
def units (n : Nat) : List Nat :=
  if n < 0x10000 then [n]
  else [0xD800 + (n - 0x10000) / 0x400, 0xDC00 + (n - 0x10000) % 0x400]

/-- The character that a pair of units spells. -/
def pair (high low : Nat) : Char :=
  Char.ofNat (0x10000 + (high - 0xD800) * 0x400 + (low - 0xDC00))

/-- The characters that the units spell, or nothing if a surrogate stands alone. -/
def fold : List Nat → Option (List Char)
  | [] => some []
  | [u] => if isHigh u || isLow u then none else some [Char.ofNat u]
  | u :: v :: rest =>
    if isHigh u then
      if isLow v then (fold rest).map (pair u v :: ·) else none
    else if isLow u then none
    else (fold (v :: rest)).map (Char.ofNat u :: ·)

end Utf16

end BlobRemote
