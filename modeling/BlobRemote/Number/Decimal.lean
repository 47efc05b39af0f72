import BlobRemote.Number.Binary64
import BlobRemote.Number.Hex

/-!
# Decimal text of numbers

Timeouts are read from configuration text and shown again. Reading takes a sign, digits with an
optional point among or around them, an exponent, underscores between digits, and the words for an
infinity and for no number. Writing uses the fewest digits that read back; the point is written in
place while the exponent is at least -4 and below 16, and after the first digit otherwise.
-/

namespace BlobRemote

namespace Number

/-! ### Reading -/

/-- The letters of a text in lower case, by ASCII rules. -/
def lowerAscii (s : List Char) : List Char := s.map Char.toLower

/-- The words that stand for an infinity or for no number. -/
def readWord? (negative : Bool) (s : List Char) : Option Binary64 :=
  let word := String.ofList (lowerAscii s)
  if word = "inf" || word = "infinity" then some (.infinite negative)
  else if word = "nan" then some .nan
  else none

/-- The digits at the front of a text, and what follows them. -/
def takeDigits (s : List Char) : List Char × List Char := s.span Char.isDigit

/-- An exponent that fills the rest of a text; no text is the exponent zero. -/
def readExponent? : List Char → Option Int
  | [] => some 0
  | e :: rest =>
    if e = 'e' || e = 'E' then
      let (negative, digits) := sign rest
      if digits.isEmpty || !digits.all Char.isDigit then none
      else
        let n := ofDigits 10 hexValue digits
        some (if negative then -(n : Int) else n)
    else none

/-- Digits, a point and an exponent that fill a text. -/
def readDigits? (negative : Bool) (s : List Char) : Option Binary64 := do
  let (whole, rest) := takeDigits s
  let (part, rest) :=
    match rest with
    | '.' :: more => takeDigits more
    | _ => ([], rest)
  if whole.isEmpty && part.isEmpty then none
  let k ← readExponent? rest
  return Binary64.ofDecimal negative (ofDigits 10 hexValue (whole ++ part)) (k - part.length)

/-- The number that a text spells in decimal. -/
def readDecimal? (s : List Char) : Option Binary64 := do
  let joined ← joined? Char.isDigit (plain s)
  let (negative, rest) := sign joined
  (readWord? negative rest).orElse fun _ => readDigits? negative rest

/-! ### Writing -/

/-- How a number is laid out in decimal. -/
structure Layout where
  /-- The least exponent for which the point is written in place. -/
  leastInPlace : Int
  /-- The first exponent for which it no longer is. -/
  firstBeyond : Int
  /-- The fewest digits of an exponent. -/
  exponentDigits : Nat

/-- Exponents from -4 to 15 are written in place, others have two digits at least. -/
def layout : Layout := ⟨-4, 16, 2⟩

/-- An exponent with its sign. -/
def writeExponent (k : Int) : List Char :=
  let digits := Nat.toDigits 10 k.natAbs
  (if k < 0 then '-' else '+') ::
    (List.replicate (layout.exponentDigits - digits.length) '0' ++ digits)

/-- Digits with the point in place, where `k` is the exponent of the first digit. -/
def writeInPlace (digits : List Char) (k : Int) : List Char :=
  if k < 0 then '0' :: '.' :: (List.replicate ((-k).toNat - 1) '0' ++ digits)
  else
    let whole := k.toNat + 1
    let part := digits.drop whole
    digits.take whole ++ List.replicate (whole - digits.length) '0' ++
      '.' :: (if part.isEmpty then ['0'] else part)

/-- Digits with the point after the first of them, where `k` is the exponent of that digit. -/
def writeScientific (digits : List Char) (k : Int) : List Char :=
  let point := if digits.length ≤ 1 then [] else ['.']
  digits.take 1 ++ point ++ digits.drop 1 ++ 'e' :: writeExponent k

/-- A number in decimal. -/
def writeDecimal : Binary64 → String
  | .nan => "nan"
  | .infinite negative => if negative then "-inf" else "inf"
  | .finite negative mantissa exponent =>
    let magnitude :=
      if mantissa = 0 then ['0', '.', '0']
      else
        let (d, e) := Binary64.shortest mantissa exponent
        let digits := Nat.toDigits 10 d
        let k := e + digits.length - 1
        if layout.leastInPlace ≤ k && k < layout.firstBeyond then writeInPlace digits k
        else writeScientific digits k
    String.ofList (if negative then '-' :: magnitude else magnitude)

end Number

end BlobRemote
