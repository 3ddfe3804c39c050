import SchemaRules.Text.CanonicalClass
import SchemaRules.Text.CanonicalPair

/-!
# Composition

A letter with marks can be written in several ways. The composed form writes the marks in the
order of their classes, and takes a letter together with its marks into one character where there
is one.

* `Composition.form`: the composed form of a text.
-/

namespace SchemaRules.Composition

/-- The first leading consonant, vowel and trailing consonant of Hangul, the first syllable, and
how many vowels and trailing places there are. A syllable without a trailing consonant has the
trailing place 0. -/
def leadBase : Nat := 0x1100

@[inherit_doc leadBase] def vowelBase : Nat := 0x1161

@[inherit_doc leadBase] def trailBase : Nat := 0x11A7

@[inherit_doc leadBase] def syllableBase : Nat := 0xAC00

@[inherit_doc leadBase] def leadCount : Nat := 19

@[inherit_doc leadBase] def vowelCount : Nat := 21

@[inherit_doc leadBase] def trailCount : Nat := 28

/-- The pair that a syllable of Hangul stands for. -/
def syllablePair? (n : Nat) : Option (Nat × Nat) :=
  let i := n - syllableBase
  if n < syllableBase ∨ leadCount * vowelCount * trailCount ≤ i then none
  else if i % trailCount = 0 then
    some (leadBase + i / (vowelCount * trailCount), vowelBase + i / trailCount % vowelCount)
  else some (n - i % trailCount, trailBase + i % trailCount)

/-- The syllable of Hangul that stands for a pair. -/
def syllable? (a b : Nat) : Option Nat :=
  if leadBase ≤ a ∧ a < leadBase + leadCount ∧ vowelBase ≤ b ∧ b < vowelBase + vowelCount then
    some (syllableBase + ((a - leadBase) * vowelCount + (b - vowelBase)) * trailCount)
  else if syllableBase ≤ a ∧ a < syllableBase + leadCount * vowelCount * trailCount
      ∧ (a - syllableBase) % trailCount = 0 ∧ trailBase < b ∧ b < trailBase + trailCount then
    some (a + (b - trailBase))
  else none

/-- The pair that a character stands for. -/
def pair? (c : Char) : Option (Char × Char) :=
  let tabled := (canonicalPairs.find? (·.whole == c.toNat)).map fun p => (p.first, p.second)
  ((syllablePair? c.toNat).or tabled).map fun (a, b) => (Char.ofNat a, Char.ofNat b)

/-- The character that stands for a pair. -/
def composite? (a b : Char) : Option Char :=
  let tabled := canonicalPairs.find? fun p => p.first == a.toNat && p.second == b.toNat
  ((syllable? a.toNat b.toNat).or (tabled.map (·.whole))).map Char.ofNat

/-- How often pairs are taken apart. No character has a pair in a pair in a pair in a pair. -/
def depth : Nat := 4

/-- The characters that one stands for, with pairs taken apart as often as the bound says. -/
def takeApart : Nat → Char → List Char
  | 0, c => [c]
  | n + 1, c =>
    match pair? c with
    | some (a, b) => takeApart n a ++ [b]
    | none => [c]

/-- A mark put among the marks at the start of a text, before those of its class or a higher
one. -/
def insertMark (c : Char) : List Char → List Char
  | [] => [c]
  | d :: rest =>
    if canonicalClass d ≠ 0 ∧ canonicalClass d < canonicalClass c then d :: insertMark c rest
    else c :: d :: rest

/-- A text with its marks in the order of their classes. -/
def order : List Char → List Char
  | [] => []
  | c :: rest => if canonicalClass c = 0 then c :: order rest else insertMark c (order rest)

/-- A letter with what follows it. A mark is taken into the letter if it reaches it: no mark of
its class or a higher one was kept before it. -/
def absorb (letter : Char) (kept : List Char) : List Char → List Char
  | [] => letter :: kept.reverse
  | c :: rest =>
    let reaches := kept.head?.all fun d => canonicalClass d < canonicalClass c
    match if reaches then composite? letter c else none with
    | some whole => absorb whole kept rest
    | none =>
      if canonicalClass c = 0 then letter :: kept.reverse ++ absorb c [] rest
      else absorb letter (c :: kept) rest

/-- An ordered text with pairs taken together. -/
def takeTogether : List Char → List Char
  | [] => []
  | c :: rest => if canonicalClass c = 0 then absorb c [] rest else c :: takeTogether rest

/-- The composed form of a text. -/
def form (text : List Char) : List Char :=
  takeTogether (order (text.flatMap (takeApart depth)))

end SchemaRules.Composition
