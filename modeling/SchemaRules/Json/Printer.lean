import SchemaRules.Json.Value

/-!
# Printing JSON

The compact text of a value has no blanks. The pretty text puts each item of an array and each
entry of an object on its own line, two spaces deeper than what holds it; an array or object
without any stays on one line.
-/

namespace SchemaRules.Json

/-- The hexadecimal digit of a number below 16. -/
def hexDigit (n : Nat) : Char :=
  if n < 10 then Char.ofNat (48 + n) else Char.ofNat (87 + n)

/-- How a string writes one character: a quote, a backslash and a control are escaped. -/
def escapeChar (c : Char) : List Char :=
  if c = '"' then ['\\', '"']
  else if c = '\\' then ['\\', '\\']
  else if c = '\x08' then ['\\', 'b']
  else if c = '\t' then ['\\', 't']
  else if c = '\n' then ['\\', 'n']
  else if c = '\x0c' then ['\\', 'f']
  else if c = '\r' then ['\\', 'r']
  else if c.toNat < 32 then
    ['\\', 'u', '0', '0', hexDigit (c.toNat / 16), hexDigit (c.toNat % 16)]
  else [c]

/-- The text of a string between its quotes. -/
def quote (s : String) : List Char :=
  '"' :: s.toList.flatMap escapeChar ++ ['"']

/-- Joins parts with a separator. -/
def separated (separator : List Char) : List (List Char) → List Char
  | [] => []
  | [part] => part
  | part :: rest => part ++ separator ++ separated separator rest

/-- The text of a scalar. -/
def Scalar.print : Scalar → List Char
  | .null => "null".toList
  | .bool true => "true".toList
  | .bool false => "false".toList
  | .number n => n.text
  | .string s => quote s

mutual

/-- The compact text of a value. -/
def Value.print : Value → List Char
  | .scalar a => a.print
  | .array items => '[' :: separated [','] (printItems items) ++ [']']
  | .object entries => '\x7b' :: separated [','] (printEntries entries) ++ ['\x7d']

/-- The compact texts of items. -/
def printItems : List Value → List (List Char)
  | [] => []
  | v :: rest => v.print :: printItems rest

/-- The compact texts of entries. -/
def printEntries : List (String × Value) → List (List Char)
  | [] => []
  | (k, v) :: rest => (quote k ++ ':' :: v.print) :: printEntries rest

end

/-- The end of a line and the blanks that begin the next one. -/
def newline (depth : Nat) : List Char :=
  '\n' :: List.replicate (2 * depth) ' '

/-- What a bracket pair holds, each part on a line of its own. -/
def block (opening closing : Char) (depth : Nat) (parts : List (List Char)) : List Char :=
  match parts with
  | [] => [opening, closing]
  | parts =>
    opening :: newline (depth + 1) ++ separated (',' :: newline (depth + 1)) parts
      ++ newline depth ++ [closing]

mutual

/-- The pretty text of a value that stands at a depth. -/
def Value.printPretty (depth : Nat) : Value → List Char
  | .array items => block '[' ']' depth (prettyItems (depth + 1) items)
  | .object entries => block '\x7b' '\x7d' depth (prettyEntries (depth + 1) entries)
  | .scalar a => a.print

/-- The pretty texts of items. -/
def prettyItems (depth : Nat) : List Value → List (List Char)
  | [] => []
  | v :: rest => v.printPretty depth :: prettyItems depth rest

/-- The pretty texts of entries. -/
def prettyEntries (depth : Nat) : List (String × Value) → List (List Char)
  | [] => []
  | (k, v) :: rest =>
    (quote k ++ ':' :: ' ' :: v.printPretty depth) :: prettyEntries depth rest

end

/-- The compact text of a value. -/
def Value.compact (v : Value) : String :=
  String.ofList v.print

/-- The pretty text of a value. -/
def Value.pretty (v : Value) : String :=
  String.ofList (v.printPretty 0)

end SchemaRules.Json
