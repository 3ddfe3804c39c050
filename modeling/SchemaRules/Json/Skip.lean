import SchemaRules.Json.Numeral

/-!
# Skipping a value

A value that nobody asks for is passed over without being built: it may be nested to any depth,
its numbers may be out of range and its strings may escape halves of surrogate pairs. The open
brackets are kept on a stack, the innermost first.
-/

namespace SchemaRules.Json

/-- Passes over an escape after its backslash. -/
def skipEscape (s : List Char) : Except Failure (Step Unit s.length) :=
  match s with
  | [] => failHere .endInString []
  | c :: r =>
    if c = 'u' then (hexCode r).map fun st => (st.map fun _ => ()).succ
    else if (shortEscape? c).isSome then .ok (.leaving () r)
    else failAhead .invalidEscape (c :: r)

/-- Passes over the rest of a string after its opening quote. -/
def skipText {bound : Nat} (s : List Char) (h : s.length ≤ bound) :
    Except Failure (Step Unit bound) :=
  match s with
  | [] => failHere .endInString []
  | c :: r =>
    have hr : r.length < bound := h
    if c = '"' then .ok ⟨(), r, hr⟩
    else if c = '\\' then
      match skipEscape r with
      | .error e => .error e
      | .ok st => skipText st.rest (st.rest_le_of_lt hr)
    else if c.toNat < 32 then failHere .controlInString (c :: r)
    else skipText r (Nat.le_of_lt hr)
termination_by s.length
decreasing_by
  · exact Nat.lt_succ_of_lt st.short
  · exact Nat.lt_succ_self _

/-- Passes over digits, of which there is at least one. -/
def skipDigits : Reader Unit := fun s =>
  match s with
  | [] => failAhead .invalidNumber []
  | c :: r =>
    if c.isDigit then .ok (.leavingAfter () Char.isDigit r) else failAhead .invalidNumber (c :: r)

/-- Passes over the exponent of a number, if there is one. -/
def skipExponent : Scanner Unit := fun s =>
  match s with
  | [] => .ok (.leaving () [])
  | c :: t =>
    if isExponentMark c then
      let sign := exponentSign t
      (skipDigits sign.rest).map fun st => (sign.andThen st).succ
    else .ok (.leaving () (c :: t))

/-- Passes over what follows the digits of a number. -/
def skipNumeralEnd : Scanner Unit := fun s =>
  match s with
  | [] => .ok (.leaving () [])
  | c :: t =>
    if c = '.' then do
      let digits ← skipDigits t
      let stop ← skipExponent digits.rest
      return (digits.andScan stop).succ.succ
    else skipExponent (c :: t)

/-- Passes over a number after its sign. -/
def skipNumeral : Reader Unit := fun s =>
  match s with
  | [] => failAhead .invalidNumber []
  | c :: r =>
    if !c.isDigit then failAhead .invalidNumber (c :: r)
    else if c = '0' && startsWithDigit r then failAhead .invalidNumber r
    else
      let after : Step Unit (r.length + 1) := .leavingAfter () Char.isDigit r
      (skipNumeralEnd after.rest).map after.andScan

/-- Passes over the rest of a string after its opening quote. -/
def skipString : Reader Unit :=
  Loop.enter skipText

/-- Passes over a key after its opening quote, and over the colon after it. -/
def skipKey (s : List Char) : Except Failure (Step Unit s.length) := do
  let key ← skipString s
  let after ← colon key.rest
  return key.andThen after

/-- Passes over the scalar that begins with a character, if one does. -/
def skipScalar? (c : Char) (r : List Char) : Option (Except Failure (Step Unit (r.length + 1))) :=
  if c = 'n' then some (word ['u', 'l', 'l'] r)
  else if c = 't' then some (word ['r', 'u', 'e'] r)
  else if c = 'f' then some (word ['a', 'l', 's', 'e'] r)
  else if c = '-' then some ((skipNumeral r).map (·.succ))
  else if c.isDigit then some (skipNumeral (c :: r))
  else if c = '"' then some ((skipString r).map (·.succ))
  else none

mutual

/-- Passes over the value that a text begins with, and then over what the open brackets hold. -/
def skipFrom {bound : Nat} (stack : List Bracket) (s : List Char) (h : s.length ≤ bound) :
    Except Failure (Step Unit bound) :=
  match k : skipBlank s with
  | [] => failAhead .endInValue []
  | c :: r =>
    have hr : r.length < s.length := length_lt_of_skipBlank k
    match skipScalar? c r with
    | some (.error e) => .error e
    | some (.ok st) => skipRest true stack (st.upTo hr).rest ((st.upTo hr).rest_lt h)
    | none =>
      if c = '[' then skipRest false (.list :: stack) r (Nat.lt_of_lt_of_le hr h)
      else if c = '\x7b' then skipRest false (.object :: stack) r (Nat.lt_of_lt_of_le hr h)
      else failAhead .expectedValue (c :: r)
termination_by (s.length, 0)
decreasing_by
  · exact Prod.Lex.left _ _ (st.upTo hr).short
  · exact Prod.Lex.left _ _ hr
  · exact Prod.Lex.left _ _ hr

/-- Passes over the rest of what the open brackets hold; `comma` says whether an item stands
before it in the innermost one. -/
def skipRest {bound : Nat} (comma : Bool) (stack : List Bracket) (s : List Char)
    (h : s.length < bound) : Except Failure (Step Unit bound) :=
  match stack with
  | [] => .ok ⟨(), s, h⟩
  | b :: outer =>
    match k : skipBlank s with
    | [] => failAhead b.unclosed []
    | c :: r =>
      have hr : r.length < s.length := length_lt_of_skipBlank k
      have hb : r.length < bound := Nat.lt_trans hr h
      if c = ',' ∧ comma then skipItem (b :: outer) r hb
      else if c = b.closing then skipRest true outer r hb
      else if comma then failAhead b.noComma (c :: r)
      else skipItem (b :: outer) (c :: r) (Nat.lt_of_le_of_lt hr h)
termination_by (s.length, 2)
decreasing_by
  · exact Prod.Lex.left _ _ hr
  · exact Prod.Lex.left _ _ hr
  · rcases Nat.lt_or_eq_of_le (show (c :: r).length ≤ s.length from hr) with h' | h'
    · exact Prod.Lex.left _ _ h'
    · rw [h']; exact Prod.Lex.right _ (by omega)

/-- Passes over the next item of the innermost bracket, after its key if it has one. -/
def skipItem {bound : Nat} (stack : List Bracket) (s : List Char) (h : s.length < bound) :
    Except Failure (Step Unit bound) :=
  match stack with
  | .object :: _ =>
    match k : skipBlank s with
    | [] => failAhead .endInObject []
    | c :: r =>
      have hr : r.length < s.length := length_lt_of_skipBlank k
      if c = '"' then
        match skipKey r with
        | .error e => .error e
        | .ok st => skipFrom stack st.rest (st.rest_le_of_lt (Nat.lt_trans hr h))
      else failAhead .keyNotString (c :: r)
  | _ => skipFrom stack s (Nat.le_of_lt h)
termination_by (s.length, 1)
decreasing_by
  · exact Prod.Lex.left _ _ (Nat.lt_trans st.short hr)
  · exact Prod.Lex.right _ (by omega)

end

/-- Passes over a value. -/
def skip : Reader Unit :=
  Loop.enter (skipFrom [])

end SchemaRules.Json
