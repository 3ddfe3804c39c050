import SchemaRules.Json.Numeral
import SchemaRules.Json.Value

/-!
# Reading documents

A document is any value, its arrays and objects nested no deeper than a limit. An entry whose
key is written again takes the last value written, in the place of the first.
-/

namespace SchemaRules.Json

/-- How deep arrays and objects may be nested. -/
def maxDepth : Nat := 127

/-- The scalar that begins with a character, if one does. -/
def scalar? (c : Char) (r : List Char) : Option (Except Failure (Step Scalar (r.length + 1))) :=
  if c = 'n' then some ((word ['u', 'l', 'l'] r).map (·.map fun _ => .null))
  else if c = 't' then some ((word ['r', 'u', 'e'] r).map (·.map fun _ => .bool true))
  else if c = 'f' then some ((word ['a', 'l', 's', 'e'] r).map (·.map fun _ => .bool false))
  else if c = '-' then
    some ((numeral true r).map fun st => (st.map .number).succ)
  else if c.isDigit then some ((numeral false (c :: r)).map (·.map .number))
  else if c = '"' then some ((text r).map fun st => (st.map .string).succ)
  else none

/-- A value; `inner` reads what arrays and objects hold, if any may stand here. -/
def valueWith (inner : Option (Reader Value)) : Reader Value := fun s =>
  match h : skipBlank s with
  | [] => failAhead .endInValue []
  | c :: r =>
    have hs : r.length < s.length := length_lt_of_skipBlank h
    match scalar? c r with
    | some found => found.map fun st => (st.map .scalar).upTo hs
    | none =>
      if c = '[' then
        match inner with
        | none => failAhead .tooDeep (c :: r)
        | some value => (sequence value r).map fun st => (st.map .array).within hs
      else if c = '\x7b' then
        match inner with
        | none => failAhead .tooDeep (c :: r)
        | some value =>
          (members (entry value) [] r).map fun st =>
            (st.map fun written => .object (Entries.ofWritten written.reverse)).within hs
      else failAhead .expectedValue (c :: r)
where
  /-- Adds an entry to those that have been read, the last one first. -/
  entry (value : Reader Value) (written : List (String × Value)) (key : String) :
      Reader (List (String × Value)) := fun s =>
    match colon s with
    | .error e => .error e
    | .ok after =>
      (value after.rest).map fun st => (after.andThen st).map fun v => (key, v) :: written

/-- A value that may hold arrays and objects to a depth. -/
def value : Nat → Reader Value
  | 0 => valueWith none
  | depth + 1 => valueWith (some (value depth))

/-- The value of a document. -/
def Value.read (source : String) : Except ReadError Value :=
  Json.read (value maxDepth) source

end SchemaRules.Json
