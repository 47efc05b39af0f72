/-!
# Binary floating-point numbers of 64 bits

Timeouts are numbers of the IEEE 754 format binary64, kept exactly: a sign, an integer and a power
of two (`BlobRemote.Binary64`). Two conversions matter. `BlobRemote.Binary64.ofDecimal` goes to the
nearest number, a tie to the even neighbour; `BlobRemote.Binary64.shortest` finds the fewest decimal
digits that read back as the number, and of those the nearest ones. Both work in exact integer
arithmetic: a positive rational is a numerator and a denominator, and all comparisons are made by
cross-multiplication.
-/

namespace BlobRemote

/-- A number of the format binary64. -/
inductive Binary64 where
  /-- The number `mantissa · 2 ^ exponent` with a sign. Either `mantissa` has 53 binary digits, or
  it has fewer and `exponent` is the least one. -/
  | finite (negative : Bool) (mantissa : Nat) (exponent : Int)
  /-- An infinity. -/
  | infinite (negative : Bool)
  /-- No number. -/
  | nan
  deriving DecidableEq

namespace Binary64

/-- The least exponent. -/
def leastExponent : Int := -1074

/-- The greatest exponent. -/
def greatestExponent : Int := 971

/-- A positive rational number: numerator and denominator. -/
structure Ratio where
  /-- The numerator. -/
  num : Nat
  /-- The denominator. -/
  den : Nat

/-- An integer power of a base. -/
def Ratio.pow (base : Nat) (k : Int) : Ratio :=
  if 0 ≤ k then ⟨base.pow k.toNat, 1⟩ else ⟨1, base.pow (-k).toNat⟩

/-- The product of two rationals. -/
def Ratio.mul (r s : Ratio) : Ratio := ⟨r.num * s.num, r.den * s.den⟩

/-- Whether `r ≤ s`. -/
def Ratio.le (r s : Ratio) : Bool := r.num * s.den ≤ s.num * r.den

/-- Whether `r < s`. -/
def Ratio.lt (r s : Ratio) : Bool := r.num * s.den < s.num * r.den

/-- The distance of two rationals. -/
def Ratio.distance (r s : Ratio) : Ratio :=
  ⟨(r.num * s.den - s.num * r.den) + (s.num * r.den - r.num * s.den), r.den * s.den⟩

/-! ### The nearest number -/

/-- The integer nearest to a rational, a tie to the even one. -/
def Ratio.round (r : Ratio) : Nat :=
  let q := r.num / r.den
  let m := r.num % r.den
  if 2 * m < r.den || (2 * m = r.den && q % 2 = 0) then q else q + 1

/-- The exponent `k` with `2 ^ k ≤ r < 2 ^ (k + 1)`. -/
def Ratio.log2 (r : Ratio) : Int :=
  let k : Int := r.num.log2 - r.den.log2
  if r.lt (Ratio.pow 2 k) then k - 1 else k

/-- The number nearest to a positive rational. -/
def ofRatio (negative : Bool) (r : Ratio) : Binary64 :=
  let q := max (r.log2 - 52) leastExponent
  let m := (r.mul (Ratio.pow 2 (-q))).round
  let (m, q) := if m = 1 <<< 53 then (1 <<< 52, q + 1) else (m, q)
  if greatestExponent < q then .infinite negative else .finite negative m q

/-- Zero, of either sign. -/
def zero (negative : Bool) : Binary64 := .finite negative 0 leastExponent

/-- The number nearest to `digits · 10 ^ k`. Powers of ten far beyond the format are settled without
being computed. -/
def ofDecimal (negative : Bool) (digits : Nat) (k : Int) : Binary64 :=
  if digits = 0 then zero negative
  else
    let magnitude : Int := (Nat.toDigits 10 digits).length + k
    if 400 < magnitude then .infinite negative
    else if magnitude < -400 then zero negative
    else ofRatio negative ((Ratio.mk digits 1).mul (Ratio.pow 10 k))

/-- An integer as a number of the format. -/
def ofNat (n : Nat) : Binary64 := ofDecimal false n 0

/-! ### The fewest digits that read back -/

/-- The rationals that round to `m · 2 ^ q`: least, greatest, and whether these two belong to
them. -/
def interval (m : Nat) (q : Int) : Ratio × Ratio × Bool :=
  let unit := Ratio.pow 2 (q - 2)
  let below := if m = 1 <<< 52 && leastExponent < q then 4 * m - 1 else 4 * m - 2
  (unit.mul ⟨below, 1⟩, unit.mul ⟨4 * m + 2, 1⟩, m % 2 == 0)

/-- The number of digits that a positive rational has before the decimal point; not positive if
zeros follow the point. -/
def magnitude (r : Ratio) : Int :=
  let k := Int.fdiv (r.log2 * 30103) 100000
  if r.lt (Ratio.pow 10 k) then k else if r.lt (Ratio.pow 10 (k + 1)) then k + 1 else k + 2

/-- The neighbour of `value` on the grid of multiples of `10 ^ k` that lies in the interval; the
nearer one if both do, and the even one of two equally near. -/
def onGrid? (value : Ratio) (bounds : Ratio × Ratio × Bool) (k : Int) : Option Nat :=
  let step := Ratio.pow 10 k
  let down := (value.num * step.den) / (value.den * step.num)
  let point (d : Nat) : Ratio := step.mul ⟨d, 1⟩
  let inside (d : Nat) : Bool :=
    let (low, high, closed) := bounds
    if closed then low.le (point d) && (point d).le high else low.lt (point d) && (point d).lt high
  let up := down + 1
  match inside down, inside up with
  | true, true =>
    let below := (point down).distance value
    let above := (point up).distance value
    some (if below.lt above || (below.le above && down % 2 = 0) then down else up)
  | true, false => some down
  | false, true => some up
  | false, false => none

/-- The same decimal number without a zero at its end. Only the first grid ever yields one, for a
number just below a power of ten. -/
def withoutZero (d : Nat) (k : Int) : Nat × Int :=
  if d % 10 = 0 then (d / 10, k + 1) else (d, k)

/-- The fewest decimal digits that read back as `m · 2 ^ q`, for positive `m`: an integer `d` and an
exponent `k`, which stand for `d · 10 ^ k`. Seventeen digits always suffice. -/
def shortest (m : Nat) (q : Int) : Nat × Int :=
  let value := (Ratio.mk m 1).mul (Ratio.pow 2 q)
  let bounds := interval m q
  let top := magnitude value
  let hit := (List.range 17).findSome? fun (n : Nat) =>
    let k := top - (n + 1)
    (onGrid? value bounds k).map fun d => withoutZero d k
  hit.getD (0, 0)

end Binary64

end BlobRemote
