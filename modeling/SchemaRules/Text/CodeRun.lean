/-!
# Runs of code points

A table of characters is a list of runs. A run holds every code point from its first to its last
in steps of its stride, so that a script whose small and capital letters alternate is one run.
-/

namespace SchemaRules

/-- The code points `first`, `first + stride`, `first + 2 · stride`, … that are at most `last`. -/
structure CodeRun where
  first : Nat
  last : Nat
  stride : Nat

namespace CodeRun

/-- Whether the run holds a code point. -/
def contains (r : CodeRun) (n : Nat) : Bool :=
  r.first ≤ n && n ≤ r.last && (n - r.first) % r.stride == 0

/-- Whether a table holds a character. -/
def tableContains (table : List CodeRun) (c : Char) : Bool :=
  table.any (·.contains c.toNat)

end CodeRun

/-- A run of code points with images that lie as they do: the image of the first is `target`. -/
structure CodeShift where
  run : CodeRun
  target : Nat

/-- The image of a code point under the first shift whose run holds it. -/
def CodeShift.image? (shifts : List CodeShift) (n : Nat) : Option Nat :=
  (shifts.find? (·.run.contains n)).map fun s => s.target + (n - s.run.first)

end SchemaRules
