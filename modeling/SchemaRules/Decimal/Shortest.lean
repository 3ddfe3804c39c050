import SchemaRules.Decimal.Binary64

/-!
# Shortest decimal text

The text of a binary64 number: the fewest digits that read back, of those the nearest to the
number, a tie to the even digit. `Shortest.digits` finds the digits in exact arithmetic: for each
number of digits it tests the two neighbours of the number on that decimal grid against the
interval of reals that round to it. `Style` holds what the format decides.
-/

namespace SchemaRules.Shortest

/-- The number of digits before the decimal point of `num / den`, as an exponent: the power `k`
with `10 ^ k ≤ num / den < 10 ^ (k + 1)`. -/
def leadingExponent (num den : Nat) : Int :=
  if den ≤ num then ((Nat.toDigits 10 (num / den)).length : Int) - 1
  else -((Nat.toDigits 10 ((den + num - 1) / num - 1)).length : Int)

/-- The reals that round to `±m · 2 ^ q`, in quarters of `2 ^ q`: lower end, number, upper end,
and whether the ends round to it too. Below a power of two the lower half is half as wide. -/
def interval (m : Nat) (q : Int) : Nat × Nat × Nat × Bool :=
  let lower := if m = 1 <<< 52 ∧ Binary64.minExponent < q then 4 * m - 1 else 4 * m - 2
  (lower, 4 * m, 4 * m + 2, m % 2 == 0)

/-- The multiple of `10 ^ g` that reads back as `±m · 2 ^ q` and is nearest to it. -/
def onGrid (m : Nat) (q g : Int) : Option Nat :=
  let (low, mid, high, closed) := interval m q
  let unit := Nat.pow 10 g.toNat <<< (2 - q).toNat
  let scale := Nat.pow 10 (-g).toNat <<< (q - 2).toNat
  let inside (d : Nat) : Bool :=
    if closed then low * scale ≤ d * unit && d * unit ≤ high * scale
    else low * scale < d * unit && d * unit < high * scale
  let below := mid * scale / unit
  let above := below + 1
  match inside below, inside above with
  | true, true =>
    let toBelow := mid * scale - below * unit
    let toAbove := above * unit - mid * scale
    some (if toBelow < toAbove || (toBelow == toAbove && below % 2 == 0) then below else above)
  | true, false => some below
  | false, true => some above
  | false, false => none

/-- Drops trailing zeros: the digits `d` on the grid `10 ^ g` without them. -/
def trim (d : Nat) (g : Int) : Nat × Int :=
  if d ≠ 0 ∧ d % 10 = 0 then trim (d / 10) (g + 1) else (d, g)
termination_by d
decreasing_by omega

/-- The shortest digits of `±m · 2 ^ q`, as a number without trailing zeros and its power of
ten. Seventeen digits always read back. -/
def digits (m : Nat) (q : Int) : Nat × Int :=
  let k := leadingExponent (m <<< q.toNat) (1 <<< (-q).toNat)
  let found := (List.range 17).findSome? fun (n : Nat) =>
    (onGrid m q (k - (n : Int))).map (·, k - (n : Int))
  let (d, g) := found.getD (m, q)
  trim d g

/-- What a number format decides about its text. -/
structure Style where
  /-- The least exponent of the leading digit that is written positionally. -/
  least : Int
  /-- The greatest exponent of the leading digit that is written positionally. -/
  greatest : Int
  /-- What follows the digits of a whole number written positionally. -/
  wholeEnd : List Char
  /-- What stands before a positive exponent. -/
  positiveMark : List Char
  /-- What stands before the size of a negative exponent. -/
  negativeMark : List Char

/-- The decimal digits of a natural number. -/
def natDigits (n : Nat) : List Char :=
  Nat.toDigits 10 n

/-- The digits of a number other than zero whose leading digit has the exponent `x`, written as
the style says. -/
def layOut (style : Style) (ds : List Char) (x : Int) : List Char :=
  if x < style.least || style.greatest < x then
    let fraction := match ds.tail with
      | [] => []
      | more => '.' :: more
    let mark := if x < 0 then style.negativeMark else style.positiveMark
    ds.take 1 ++ fraction ++ mark ++ natDigits x.natAbs
  else if x < 0 then
    '0' :: '.' :: List.replicate (x.natAbs - 1) '0' ++ ds
  else
    let whole := x.toNat + 1
    if ds.length ≤ whole then
      ds ++ List.replicate (whole - ds.length) '0' ++ style.wholeEnd
    else ds.take whole ++ '.' :: ds.drop whole

/-- The text of a number. -/
def text (style : Style) (x : Binary64) : List Char :=
  let body :=
    if x.isZero then layOut style ['0'] 0
    else
      let (d, g) := digits x.significand x.exponent
      let ds := natDigits d
      layOut style ds (g + ds.length - 1)
  if x.negative then '-' :: body else body

end SchemaRules.Shortest
