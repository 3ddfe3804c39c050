/-!
# Finite binary64 numbers

A finite floating-point number of 64 bits as an exact value, `±significand · 2 ^ exponent`, with
the roundings that decimal text needs. Nothing here is approximate: a product or a quotient is
formed exactly and rounded once, to the nearest number, a tie to the even significand.

* `sameValue_refl`, `sameValue_symm`, `sameValue_trans`: having the same value is an equivalence,
  under which only the two zeros are joined.
-/

namespace SchemaRules

/-- A finite number `±significand · 2 ^ exponent`, in canonical form: the significand has 53 bits,
or fewer with the least exponent `-1074`; zero has the exponent `0`. -/
structure Binary64 where
  /-- The sign, which zero has too. -/
  negative : Bool
  significand : Nat
  exponent : Int
  deriving DecidableEq, Repr

namespace Binary64

/-- The least exponent. -/
def minExponent : Int := -1074

/-- The greatest exponent of a number with 53 bits. -/
def maxExponent : Int := 971

/-- Zero with a sign. -/
def zero (negative : Bool) : Binary64 :=
  ⟨negative, 0, 0⟩

/-- Whether the number is one of the two zeros. -/
def isZero (x : Binary64) : Bool :=
  x.significand == 0

/-- The number with the other sign. -/
def neg (x : Binary64) : Binary64 :=
  { x with negative := !x.negative }

/-- Whether two numbers have one value: they are the same, or both zero. -/
def sameValue (x y : Binary64) : Bool :=
  x == y || (x.isZero && y.isZero)

theorem sameValue_refl (x : Binary64) : x.sameValue x = true := by
  simp [sameValue]

theorem sameValue_symm {x y : Binary64} (h : x.sameValue y = true) : y.sameValue x = true := by
  simp only [sameValue, Bool.or_eq_true, beq_iff_eq, Bool.and_eq_true] at h ⊢
  rcases h with rfl | ⟨hx, hy⟩
  · exact .inl rfl
  · exact .inr ⟨hy, hx⟩

theorem sameValue_trans {x y z : Binary64} (h : x.sameValue y = true) (k : y.sameValue z = true) :
    x.sameValue z = true := by
  simp only [sameValue, Bool.or_eq_true, beq_iff_eq, Bool.and_eq_true] at h k ⊢
  rcases h with rfl | ⟨hx, hy⟩
  · exact k
  · rcases k with rfl | ⟨_, hz⟩
    · exact .inr ⟨hx, hy⟩
    · exact .inr ⟨hx, hz⟩

/-- The absolute value as a quotient of natural numbers. -/
def ratio (x : Binary64) : Nat × Nat :=
  (x.significand <<< x.exponent.toNat, 1 <<< (-x.exponent).toNat)

/-- The greatest exponent at which `num / den` has no more than 53 bits before the binary point,
and the least exponent where that is smaller. -/
def exponentFor (num den : Nat) : Int :=
  let guess : Int := (num.log2 : Int) - (den.log2 : Int) - 52
  let fits := den <<< (guess + 52).toNat ≤ num <<< (-(guess + 52)).toNat
  max minExponent (if fits then guess else guess - 1)

/-- The quotient `num / den` rounded to the nearest natural number, a tie to the even one. -/
def nearest (num den : Nat) : Nat :=
  let q := num / den
  let twice := 2 * (num % den)
  if den < twice || (den == twice && q % 2 == 1) then q + 1 else q

/-- The number nearest to `±num / den`, or nothing where that is beyond the greatest one. -/
def ofRatio (negative : Bool) (num den : Nat) : Option Binary64 :=
  if num = 0 then some (zero negative)
  else
    let e := exponentFor num den
    let q := nearest (num <<< (-e).toNat) (den <<< e.toNat)
    let (q, e) := if q = 1 <<< 53 then (1 <<< 52, e + 1) else (q, e)
    if q = 0 then some (zero negative)
    else if maxExponent < e then none
    else some ⟨negative, q, e⟩

/-- The number nearest to a natural number. -/
def ofNat (n : Nat) : Option Binary64 :=
  ofRatio false n 1

/-- The product, rounded once. -/
def mul (x y : Binary64) : Option Binary64 :=
  ofRatio (x.negative != y.negative) (x.ratio.1 * y.ratio.1) (x.ratio.2 * y.ratio.2)

/-- The quotient by a number other than zero, rounded once. -/
def div (x y : Binary64) : Option Binary64 :=
  ofRatio (x.negative != y.negative) (x.ratio.1 * y.ratio.2) (x.ratio.2 * y.ratio.1)

/-- The greatest power of ten that is a number. -/
def maxPowerOfTen : Nat := 308

/-- The number nearest to a power of ten. -/
def powerOfTen (k : Nat) : Option Binary64 :=
  ofNat (Nat.pow 10 k)

/-- The number `x · 10 ^ e` by one product or one quotient, each rounded. Below `10 ^ -308` the
quotients go by steps of `10 ^ 308`. Nothing where the result is too great. -/
def scale (x : Binary64) (e : Int) : Option Binary64 :=
  if 0 ≤ e then
    if e.toNat ≤ maxPowerOfTen then do mul x (← powerOfTen e.toNat)
    else if x.isZero then some x
    else none
  else if (-e).toNat ≤ maxPowerOfTen then do div x (← powerOfTen (-e).toNat)
  else if x.isZero then some x
  else do scale (← div x (← powerOfTen maxPowerOfTen)) (e + maxPowerOfTen)
termination_by (-e).toNat
decreasing_by simp only [maxPowerOfTen] at *; omega

/-- The number that a significand and a power of ten denote: the significand is rounded first. -/
def ofDecimal (negative : Bool) (significand : Nat) (e : Int) : Option Binary64 := do
  let x ← scale (← ofNat significand) e
  return if negative then x.neg else x

end Binary64

end SchemaRules
