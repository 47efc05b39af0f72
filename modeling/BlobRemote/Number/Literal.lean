import BlobRemote.Text.Blank
import BlobRemote.Text.Digit

/-!
# Characters of a number

A number may be written with the digits of any script, may stand between blanks, and may have single
underscores between its digits. `BlobRemote.Number.plain` reduces the first two freedoms to ASCII,
`BlobRemote.Number.joined?` removes the third one.
-/

namespace BlobRemote

namespace Number

/-- Whether a character counts as a blank around a number: white space other than the four
information separators. -/
def isPadding (c : Char) : Bool := Text.isBlank c && !(0x1C ≤ c.toNat && c.toNat ≤ 0x1F)

/-- A number in ASCII digits, without the blanks around it. -/
def plain (s : List Char) : List Char :=
  let inner := ((s.dropWhile isPadding).reverse.dropWhile isPadding).reverse
  inner.map fun c =>
    match Text.digitValue? c with
    | some d => Char.ofNat (0x30 + d)
    | none => c

/-- Removes single underscores that stand between two digits; `afterDigit` tells whether a digit
came just before. Nothing is left of a text in which an underscore stands elsewhere. -/
def joinedFrom? (isDigit : Char → Bool) : Bool → List Char → Option (List Char)
  | _, [] => some []
  | afterDigit, '_' :: c :: rest =>
    if afterDigit && isDigit c then (joinedFrom? isDigit true rest).map (c :: ·) else none
  | _, c :: rest =>
    if c = '_' then none else (joinedFrom? isDigit (isDigit c) rest).map (c :: ·)

/-- A number without its underscores, if each stands between two digits. -/
def joined? (isDigit : Char → Bool) (s : List Char) : Option (List Char) :=
  joinedFrom? isDigit false s

/-- An optional sign: whether it is a minus, and what follows it. -/
def sign : List Char → Bool × List Char
  | '-' :: rest => (true, rest)
  | '+' :: rest => (false, rest)
  | s => (false, s)

/-- The value of ASCII digits in a base, the first of them the highest. -/
def ofDigits (base : Nat) (value : Char → Nat) (s : List Char) : Nat :=
  s.foldl (fun n c => base * n + value c) 0

end Number

end BlobRemote
