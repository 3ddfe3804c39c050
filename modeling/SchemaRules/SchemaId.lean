import SchemaRules.Config

/-!
# Schema ids

A schema id becomes a package path: it is split at its delimiter. It may use one kind of
delimiter only, and no illegal symbol. Under the legacy policy `_` is never the delimiter and
empty segments are dropped; under the strict one they are refused.

* `normalize_ok_iff`: an id is accepted where its check succeeds, and then unchanged.
-/

namespace SchemaRules

/-- Why a schema id is refused. -/
inductive IdIssue where
  /-- It has an illegal symbol. -/
  | illegalSymbol
  /-- It has more than one kind of delimiter. -/
  | mixedSymbols
  /-- It has an empty segment. -/
  | emptySegment
  deriving DecidableEq, Repr

/-- The wording of an issue. -/
def IdIssue.message : IdIssue → String
  | illegalSymbol => "illegal split symbol"
  | mixedSymbols => "mixed split symbols"
  | emptySegment => "empty segment between split symbols"

namespace SchemaId

/-- The characters that may separate segments. -/
def delimiters : List Char :=
  ['.', '/', '\\', ':', '_']

/-- The characters that no id has. -/
def illegalSymbols : List Char :=
  ['!', '&', '?', '-', ';', '~', ',', '#', '@', '*', '+', '%', '\x7b', '\x7d', '(', ')', '<', '>',
   '[', ']', '|', '"', '\x27', '^']

/-- The delimiters that an id must not have once it has one. Under the legacy policy `_` is among
them for itself, in the place of `:`. -/
def otherDelimiters (policy : Policy) (first : Char) : List Char :=
  let allowed := if policy = .legacy ∧ first = '_' then ':' else first
  delimiters.filter (· ≠ allowed)

/-- The delimiter of an id, if it has one, or why it is refused. -/
def check (policy : Policy) (id : List Char) : Except IdIssue (Option Char) :=
  if id.any illegalSymbols.contains then .error .illegalSymbol
  else
    match id.find? delimiters.contains with
    | none => .ok none
    | some delimiter =>
      if id.any (otherDelimiters policy delimiter).contains then .error .mixedSymbols
      else if policy = .strict ∧ (id.splitOn delimiter).any List.isEmpty then
        .error .emptySegment
      else .ok (some delimiter)

/-- The id itself, if it is accepted. -/
def normalize (policy : Policy) (id : String) : Except IdIssue String :=
  (check policy id.toList).map fun _ => id

/-- The segments of an id with a delimiter; empty ones are dropped. -/
def split (delimiter : Option Char) (id : List Char) : List (List Char) :=
  match delimiter with
  | some d => (id.splitOn d).filter fun segment => !segment.isEmpty
  | none => if id.isEmpty then [] else [id]

/-- The segments of an accepted id. -/
def segments (policy : Policy) (id : String) : Except IdIssue (List String) :=
  (check policy id.toList).map fun delimiter => (split delimiter id.toList).map String.ofList

/-- The package name of an accepted id: its segments with dots between them. -/
def packageName (policy : Policy) (id : String) : Except IdIssue String :=
  (segments policy id).map fun parts => ".".intercalate parts

theorem normalize_ok_iff (policy : Policy) (id n : String) :
    normalize policy id = .ok n ↔ (∃ d, check policy id.toList = .ok d) ∧ n = id := by
  unfold normalize
  cases h : check policy id.toList <;> simp [Except.map, eq_comm]

end SchemaId

end SchemaRules
