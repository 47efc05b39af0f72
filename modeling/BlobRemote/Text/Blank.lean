/-!
# White space and line boundaries

Two classes of characters of the Unicode standard. `BlobRemote.Text.isBlank` holds the characters
with the property White_Space and the four information separators U+001C to U+001F, whose
bidirectional class makes them separators as well; `BlobRemote.Text.isLineBreak` holds the mandatory
line boundaries, of which a carriage return and a line feed in a row count as one.
-/

namespace BlobRemote

namespace Text

/-- Whether a character is white space. -/
def isBlank (c : Char) : Bool :=
  let n := c.toNat
  (9 ≤ n && n ≤ 13) || (0x1C ≤ n && n ≤ 0x20) || n == 0x85 || n == 0xA0 || n == 0x1680 ||
    (0x2000 ≤ n && n ≤ 0x200A) || n == 0x2028 || n == 0x2029 || n == 0x202F || n == 0x205F ||
    n == 0x3000

/-- Whether a character ends a line. -/
def isLineBreak (c : Char) : Bool :=
  let n := c.toNat
  (10 ≤ n && n ≤ 13) || (0x1C ≤ n && n ≤ 0x1E) || n == 0x85 || n == 0x2028 || n == 0x2029

/-- A text without the white space around it. -/
def strip (s : List Char) : List Char :=
  let inner := s.dropWhile isBlank
  (inner.reverse.dropWhile isBlank).reverse

/-- A text without the white space at its end. -/
def stripEnd (s : List Char) : List Char := (s.reverse.dropWhile isBlank).reverse

/-- The lines of a text, without what ends them. A line boundary at the end begins no further
line. -/
def lines : List Char → List (List Char)
  | [] => []
  | '\r' :: '\n' :: rest => [] :: lines rest
  | c :: rest =>
    if isLineBreak c then [] :: lines rest
    else
      match lines rest with
      | [] => [[c]]
      | line :: more => (c :: line) :: more

/-- A text in which every line ends with a line feed: a carriage return, alone or before a line
feed, counts as one. -/
def unifyLineEnds : List Char → List Char
  | [] => []
  | '\r' :: '\n' :: rest => '\n' :: unifyLineEnds rest
  | c :: rest => (if c = '\r' then '\n' else c) :: unifyLineEnds rest

end Text

end BlobRemote
