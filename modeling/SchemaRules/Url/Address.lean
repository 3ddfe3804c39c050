import SchemaRules.Text.Percent

/-!
# Addresses

A host may be an address. One whose last label is a number is an IPv4 address: it has up to four
numbers, in decimal, octal (after `0`) or hexadecimal (after `0x`), and the last one fills all the
bytes that are left. An IPv6 address has eight pieces of sixteen bits; in its text one run of zeros
may be written as `::`, and the last two pieces as four decimal numbers.

* `Ipv4.read`, `Ipv4.print`: the two directions. What is printed has four decimal numbers.
* `Ipv6.read`, `Ipv6.print`: the two directions. What is printed uses `::` for the first of the
  longest runs of two zeros or more.
-/

namespace SchemaRules.Url.Ipv4

/-- The number of digits in a base; without digits it is 0. -/
def number? (base : Nat) (digits : List Char) : Option Nat :=
  digits.foldlM (fun n c => do
    let d ← Percent.hexValue? c
    if d < base then some (n * base + d) else none) 0

/-- The number that a part of an address stands for. -/
def part? : List Char → Option Nat
  | [] => none
  | '0' :: 'x' :: digits => number? 16 digits
  | '0' :: 'X' :: digits => number? 16 digits
  | '0' :: d :: digits => number? 8 (d :: digits)
  | digits => number? 10 digits

/-- The labels of a name. A dot at its end adds none. -/
def parts (name : List Char) : List (List Char) :=
  let labels := name.splitOn '.'
  if labels.getLast? = some [] then labels.dropLast else labels

/-- Whether a label is a number, or has digits only and so was meant as one. -/
def isNumeric (label : List Char) : Bool :=
  (!label.isEmpty && label.all Char.isDigit) || (part? label).isSome

/-- Whether a name has to be an address. -/
def endsInNumber (name : List Char) : Bool :=
  ((parts name).getLast?.map isNumeric).getD false

/-- The address of numbers: each but the last is a byte, and the last one fills the others. -/
def ofNumbers? (numbers : List Nat) : Option UInt32 :=
  match numbers.reverse with
  | [] => none
  | last :: front =>
    let bits := 8 * (4 - front.length)
    if 3 < front.length ∨ front.any (255 < ·) ∨ 1 <<< bits ≤ last then none
    else
      let high := front.reverse.foldl (fun n b => n * 256 + b) 0
      some (UInt32.ofNat (high <<< bits + last))

/-- Reads an address. -/
def read (name : List Char) : Option UInt32 := do
  ofNumbers? (← (parts name).mapM part?)

/-- The text of an address. -/
def print (address : UInt32) : List Char :=
  let byte (shift : UInt32) := Nat.toDigits 10 (address >>> shift).toUInt8.toNat
  ['.'].intercalate [byte 24, byte 16, byte 8, byte 0]

end SchemaRules.Url.Ipv4

namespace SchemaRules.Url.Ipv6

/-- A piece of one to four hexadecimal digits. -/
def piece? (text : List Char) : Option UInt16 :=
  if text.isEmpty ∨ 4 < text.length then none
  else (text.foldlM (fun n c => (Percent.hexValue? c).map (n * 16 + ·)) 0).map UInt16.ofNat

/-- A decimal number below 256, written without zeros before it. -/
def decimal? (text : List Char) : Option Nat :=
  if text.isEmpty ∨ 3 < text.length ∨ !text.all Char.isDigit
      ∨ (text.head? = some '0' ∧ text ≠ ['0']) then
    none
  else
    let n := text.foldl (fun n c => n * 10 + (c.toNat - '0'.toNat)) 0
    if n < 256 then some n else none

/-- The two pieces of four decimal numbers. -/
def quad? (text : List Char) : Option (List UInt16) := do
  match ← (text.splitOn '.').mapM decimal? with
  | [a, b, c, d] => some [UInt16.ofNat (a * 256 + b), UInt16.ofNat (c * 256 + d)]
  | _ => none

/-- The pieces of texts between colons. The last text may be four decimal numbers. -/
def piecesWithQuad? : List (List Char) → Option (List UInt16)
  | [] => some []
  | [last] => if last.contains '.' then quad? last else (piece? last).map ([·])
  | text :: rest => do return (← piece? text) :: (← piecesWithQuad? rest)

/-- The texts between colons; the empty text has none. -/
def fields (text : List Char) : List (List Char) :=
  if text.isEmpty then [] else text.splitOn ':'

/-- The parts before and after the first `::`. -/
def splitDouble? : List Char → Option (List Char × List Char)
  | ':' :: ':' :: rest => some ([], rest)
  | c :: rest => (splitDouble? rest).map fun (front, back) => (c :: front, back)
  | [] => none

/-- Reads an address, without its brackets. -/
def read (text : List Char) : Option (List UInt16) := do
  match splitDouble? text with
  | none =>
    let pieces ← piecesWithQuad? (fields text)
    if pieces.length = 8 then some pieces else none
  | some (front, back) =>
    let left ← (fields front).mapM piece?
    let right ← piecesWithQuad? (fields back)
    if left.length + right.length ≤ 7 then
      some (left ++ List.replicate (8 - left.length - right.length) 0 ++ right)
    else none

/-- The number of zeros at the start of the pieces. -/
def zeros (pieces : List UInt16) : Nat :=
  (pieces.takeWhile (· == 0)).length

/-- The first of the longest runs of zeros, as its start and its length. -/
def longestZeros (pieces : List UInt16) : Nat × Nat :=
  (List.range pieces.length).foldl (fun (start, length) i =>
    let n := zeros (pieces.drop i)
    if length < n then (i, n) else (start, length)) (0, 0)

/-- Pieces with colons between them. -/
def join (pieces : List UInt16) : List Char :=
  [':'].intercalate (pieces.map fun p => Nat.toDigits 16 p.toNat)

/-- The text of an address, without brackets. -/
def print (pieces : List UInt16) : List Char :=
  let (start, length) := longestZeros pieces
  if length < 2 then join pieces
  else join (pieces.take start) ++ [':', ':'] ++ join (pieces.drop (start + length))

end SchemaRules.Url.Ipv6
