import SchemaRules.Json.Reader

/-!
# Reading numbers

A numeral without fraction and exponent is an integer while it fits 64 bits; any other is a
binary64 number. Its significant digits are gathered in 64 bits: the first digit that does not
fit ends the gathering, and the digits from there on only move the decimal point.
-/

namespace SchemaRules.Json

/-- The value of a decimal digit. -/
def digitValue (c : Char) : Nat :=
  c.toNat - 48

/-- Gathers digits as long as the number fits 64 bits: the number, and the digits left over. -/
def gather (n : Nat) : List Char → Nat × List Char
  | [] => (n, [])
  | c :: rest =>
    let next := n * 10 + digitValue c
    if next ≤ Number.maxInt then gather next rest else (n, c :: rest)

/-- The greatest exponent that is counted. -/
def maxExponentValue : Nat := UInt32.size / 2 - 1

/-- Whether a text begins with a digit. -/
def startsWithDigit : List Char → Bool
  | [] => false
  | c :: _ => c.isDigit

/-- The number of a significand and an exponent, or the failure that it is out of range. -/
def toFloat (negative : Bool) (significand : Nat) (exponent : Int) (rest : List Char) :
    Except Failure Number :=
  match Binary64.ofDecimal negative significand exponent with
  | some x => .ok (.float x)
  | none => failHere .numberOutOfRange rest

/-- The digits of an exponent after `n`. One that is too great is refused at the digit where it
becomes so, if it is bounded. -/
def exponentDigits (bounded : Bool) (n : Nat) : Scanner Nat
  | [] => .ok (.leaving n [])
  | c :: r =>
    if c.isDigit then
      let next := n * 10 + digitValue c
      if bounded && maxExponentValue < next then failHere .numberOutOfRange r
      else (exponentDigits bounded next r).map (·.succ)
    else .ok (.leaving n (c :: r))

/-- The size of an exponent, which has a digit. -/
def exponentSize (bounded : Bool) : Reader Nat := fun s =>
  match s with
  | [] => failHere .endInValue []
  | d :: r =>
    if d.isDigit then exponentDigits bounded (digitValue d) r else failAhead .invalidNumber (d :: r)

/-- The sign of an exponent: whether it is negative, and the text after the sign. -/
def exponentSign (s : List Char) : Step Bool (s.length + 1) :=
  match s with
  | [] => .leaving false []
  | c :: r =>
    if c = '+' then (Step.leaving false r).succ
    else if c = '-' then (Step.leaving true r).succ
    else .leaving false (c :: r)

/-- Whether a character begins an exponent. -/
def isExponentMark (c : Char) : Bool :=
  c == 'e' || c == 'E'

/-- The end of a numeral with a fraction or an exponent: the exponent if there is one, with the
number. -/
def floatEnd (negative : Bool) (significand : Nat) (exponent : Int) : Scanner Number := fun s =>
  match s with
  | [] => (toFloat negative significand exponent []).map (.leaving · [])
  | c :: t =>
    if isExponentMark c then do
      let sign := exponentSign t
      let size ← exponentSize (!sign.value && significand != 0) sign.rest
      let e : Int := if sign.value then exponent - size.value else exponent + size.value
      let x ← toFloat negative significand e size.rest
      return ((sign.andThen size).map fun _ => x).succ
    else (toFloat negative significand exponent (c :: t)).map (.leaving · (c :: t))

/-- The number of an integer's digits, negated when it has a sign. A negative zero and a number
beyond 64 bits are no integers. -/
def ofInteger (negative : Bool) (n : Nat) : Except Failure Number :=
  if !negative then .ok (.int n)
  else if n = 0 ∨ Number.minIntSize < n then toFloat true n 0 []
  else .ok (.int (-n))

/-- The fraction of a numeral after its point, with what follows it. `dropped` digits before the
point have not been gathered. -/
def fraction (negative : Bool) (n dropped : Nat) : Scanner Number := fun s =>
  let digits := s.takeWhile Char.isDigit
  let after : Step Unit (s.length + 1) := .leavingAfter () Char.isDigit s
  if digits.isEmpty then
    if s.isEmpty then failHere .endInValue [] else failAhead .invalidNumber s
  else
    let (significand, left) := gather n digits
    let exponent : Int := dropped - (digits.length - left.length : Nat)
    (floatEnd negative significand exponent after.rest).map after.andScan

/-- What follows the digits of a numeral, of which `dropped` have not been gathered. -/
def numeralEnd (negative : Bool) (n dropped : Nat) : Scanner Number := fun s =>
  match s with
  | [] =>
    if dropped = 0 then (ofInteger negative n).map (.leaving · [])
    else floatEnd negative n dropped []
  | c :: t =>
    if c = '.' then (fraction negative n dropped t).map (·.succ)
    else if isExponentMark c ∨ dropped ≠ 0 then floatEnd negative n dropped (c :: t)
    else (ofInteger negative n).map (.leaving · (c :: t))

/-- A numeral after its sign. -/
def numeral (negative : Bool) : Reader Number := fun s =>
  match s with
  | [] => failHere .endInValue []
  | c :: r =>
    if !c.isDigit then failAhead .invalidNumber (c :: r)
    else if c = '0' && startsWithDigit r then failAhead .invalidNumber r
    else
      let (n, left) := gather 0 ((c :: r).takeWhile Char.isDigit)
      let after : Step Unit (r.length + 1) := .leavingAfter () Char.isDigit r
      (numeralEnd negative n left.length after.rest).map after.andScan

end SchemaRules.Json
