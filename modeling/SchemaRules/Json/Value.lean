import SchemaRules.Decimal.Shortest
import SchemaRules.Entries

/-!
# JSON values

The value of a document: a scalar, an array or an object. An object is the list of its entries in
the order of their keys' first appearance; `Entries.put` is how a reader builds it, so that a key
that is written again takes the new value in its old place.

A number is an integer, as long as it fits 64 bits with or without a sign, or a binary64 number. The
two kinds never have the same value: `1` is not `1.0`.

* `Number.sameValue`, `Scalar.sameValue`: when two numbers and two scalars have one value, which is
  an equivalence.
-/

namespace SchemaRules.Json

/-- A number of a document. -/
inductive Number where
  /-- A whole number that the document writes without fraction and exponent. -/
  | int (value : Int)
  | float (value : Binary64)
  deriving DecidableEq, Repr

namespace Number

/-- The greatest integer that stays one. -/
def maxInt : Nat := UInt64.size - 1

/-- The size of the least integer that stays one. -/
def minIntSize : Nat := UInt64.size / 2

/-- Numbers are positional while the leading digit's exponent is from -5 to 15; whole ones end
in `.0`, and an exponent always has a sign. -/
def style : Shortest.Style where
  least := -5
  greatest := 15
  wholeEnd := ['.', '0']
  positiveMark := ['e', '+']
  negativeMark := ['e', '-']

/-- The decimal text of an integer. -/
def intText (n : Int) : List Char :=
  if n < 0 then '-' :: Nat.toDigits 10 n.natAbs else Nat.toDigits 10 n.natAbs

/-- The text of a number. -/
def text : Number → List Char
  | int n => intText n
  | float x => Shortest.text style x

/-- Whether two numbers are of one kind and have one value. -/
def sameValue : Number → Number → Bool
  | int a, int b => a == b
  | float a, float b => a.sameValue b
  | _, _ => false

theorem sameValue_refl : (a : Number) → a.sameValue a = true
  | int _ => by simp [sameValue]
  | float x => x.sameValue_refl

theorem sameValue_symm : {a b : Number} → a.sameValue b = true → b.sameValue a = true
  | int _, int _, h => by simp_all [sameValue]
  | float _, float _, h => Binary64.sameValue_symm h

theorem sameValue_trans :
    {a b c : Number} → a.sameValue b = true → b.sameValue c = true → a.sameValue c = true
  | int _, int _, int _, h, k => by simp_all [sameValue]
  | float _, float _, float _, h, k => Binary64.sameValue_trans h k

end Number

/-- A value that holds no others. -/
inductive Scalar where
  | null
  | bool (b : Bool)
  | number (n : Number)
  | string (s : String)
  deriving DecidableEq, Repr

namespace Scalar

/-- Whether two scalars have one value: numbers are compared as numbers. -/
def sameValue : Scalar → Scalar → Bool
  | number a, number b => a.sameValue b
  | a, b => a == b

theorem sameValue_refl : (a : Scalar) → a.sameValue a = true
  | null => rfl
  | bool _ => by simp [sameValue]
  | number n => n.sameValue_refl
  | string _ => by simp [sameValue]

theorem sameValue_symm {a b : Scalar} (h : a.sameValue b = true) : b.sameValue a = true := by
  cases a with
  | number m =>
    cases b with
    | number n => exact Number.sameValue_symm h
    | _ => cases h
  | _ => cases b <;> simp_all [sameValue]

theorem sameValue_trans {a b c : Scalar} (h : a.sameValue b = true) (k : b.sameValue c = true) :
    a.sameValue c = true := by
  cases a with
  | number m =>
    cases b with
    | number n =>
      cases c with
      | number l => exact Number.sameValue_trans h k
      | _ => cases k
    | _ => cases h
  | _ => cases b <;> cases c <;> simp_all [sameValue]

end Scalar

/-- A value. -/
inductive Value where
  | scalar (a : Scalar)
  | array (items : List Value)
  | object (entries : List (String × Value))

/-- A string as a value. -/
def Value.string (s : String) : Value :=
  .scalar (.string s)

end SchemaRules.Json
