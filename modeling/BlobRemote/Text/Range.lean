/-!
# Ranges of code points

A property of the Unicode standard is a table of ranges, in ascending order. Here is the one look-up
that all such tables share; the tables themselves are modules named for their property.
-/

namespace BlobRemote

namespace Text

/-- First and last code point of each range. -/
abbrev Ranges := List (Nat × Nat)

/-- Whether a code point lies in one of the ranges. The look-up stops at the first range that begins
after it. -/
def Ranges.contains : Ranges → Nat → Bool
  | [], _ => false
  | (first, last) :: rest, n => if n < first then false else n ≤ last || Ranges.contains rest n

end Text

end BlobRemote
