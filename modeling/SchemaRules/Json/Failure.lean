import SchemaRules.Json.Value
import SchemaRules.Text.Printable
import SchemaRules.Text.Utf8

/-!
# Why a document cannot be read

A `Reason` says what is wrong and has one wording. A `Failure` says where: at a number of bytes
before the end of the text, or, while the value around it is still being read, after what has
been read so far. A `ReadError` is what a caller sees: the reason with a line and a column.

A message shows a string between double quotes (`Quoted.encode`): a quote, a backslash and the
common controls have short escapes, and a character that cannot be shown is written as its code
point.
-/

namespace SchemaRules.Quoted

/-- The lower-case hexadecimal digits of a number. -/
def hexDigits (n : Nat) : List Char :=
  Nat.toDigits 16 n

/-- How one character is written. -/
def encodeChar (c : Char) : List Char :=
  if c = '\x00' then ['\\', '0']
  else if c = '\t' then ['\\', 't']
  else if c = '\r' then ['\\', 'r']
  else if c = '\n' then ['\\', 'n']
  else if c = '\\' || c = '"' then ['\\', c]
  else if isPrintable c then [c]
  else ['\\', 'u', '\x7b'] ++ hexDigits c.toNat ++ ['\x7d']

/-- The text between quotes. -/
def encode (s : String) : String :=
  String.ofList ('"' :: s.toList.flatMap encodeChar ++ ['"'])

end SchemaRules.Quoted

namespace SchemaRules.Json

/-- What a message calls a value that does not fit. -/
inductive Shape where
  | scalar (a : Scalar)
  | sequence
  | map
  /-- The name of a variant without a value. -/
  | unitVariant
  deriving DecidableEq, Repr

/-- The wording for a shape. -/
def Shape.message : Shape → String
  | scalar .null => "null"
  | scalar (.bool true) => "boolean `true`"
  | scalar (.bool false) => "boolean `false`"
  | scalar (.number (.int n)) => "integer `" ++ String.ofList (Number.intText n) ++ "`"
  | scalar (.number (.float x)) =>
    "floating point `" ++ String.ofList (Number.text (.float x)) ++ "`"
  | scalar (.string s) => "string " ++ Quoted.encode s
  | sequence => "sequence"
  | map => "map"
  | unitVariant => "unit variant"

/-- What is wrong with a document. -/
inductive Reason where
  | endInList
  | endInObject
  | endInString
  | endInValue
  | expectedColon
  | expectedListComma
  | expectedObjectComma
  | expectedWord
  | expectedValue
  | invalidEscape
  | invalidNumber
  | numberOutOfRange
  | controlInString
  | keyNotString
  | loneSurrogate
  | trailingComma
  | trailingCharacters
  | endOfHexEscape
  | tooDeep
  /-- A value of another shape than the one wanted. -/
  | invalidType (found : Shape) (wanted : String)
  /-- A value of the right shape that is not allowed. -/
  | invalidValue (found : Shape) (wanted : String)
  /-- Too few items of a record written as a list. -/
  | invalidLength (count : Nat) (wanted : String)
  | unknownVariant (name : String) (known : List String)
  | missingField (key : String)
  | duplicateField (key : String)
  deriving DecidableEq, Repr

/-- The names that a message offers. -/
def offered (known : List String) : String :=
  let quoted := known.map fun name => "`" ++ name ++ "`"
  match quoted with
  | [] => "there are no variants"
  | [a] => "expected " ++ a
  | [a, b] => "expected " ++ a ++ " or " ++ b
  | more => "expected one of " ++ ", ".intercalate more

/-- The wording for a reason. -/
def Reason.message : Reason → String
  | endInList => "EOF while parsing a list"
  | endInObject => "EOF while parsing an object"
  | endInString => "EOF while parsing a string"
  | endInValue => "EOF while parsing a value"
  | expectedColon => "expected `:`"
  | expectedListComma => "expected `,` or `]`"
  | expectedObjectComma => "expected `,` or `\x7d`"
  | expectedWord => "expected ident"
  | expectedValue => "expected value"
  | invalidEscape => "invalid escape"
  | invalidNumber => "invalid number"
  | numberOutOfRange => "number out of range"
  | controlInString => "control character (\\u0000-\\u001F) found while parsing a string"
  | keyNotString => "key must be a string"
  | loneSurrogate => "lone leading surrogate in hex escape"
  | trailingComma => "trailing comma"
  | trailingCharacters => "trailing characters"
  | endOfHexEscape => "unexpected end of hex escape"
  | tooDeep => "recursion limit exceeded"
  | invalidType found wanted => "invalid type: " ++ found.message ++ ", expected " ++ wanted
  | invalidValue found wanted => "invalid value: " ++ found.message ++ ", expected " ++ wanted
  | invalidLength count wanted => "invalid length " ++ toString count ++ ", expected " ++ wanted
  | unknownVariant name known => "unknown variant `" ++ name ++ "`, " ++ offered known
  | missingField key => "missing field `" ++ key ++ "`"
  | duplicateField key => "duplicate field `" ++ key ++ "`"

/-- A reason with its place in the text. -/
inductive Failure where
  /-- The place is known: so many bytes are left after it. -/
  | placed (reason : Reason) (unread : Nat)
  /-- The place is where the value around it stops being read; `rest` is unread so far. -/
  | unplaced (reason : Reason) (rest : List Char)

/-- The blanks between the parts of a document. -/
def isBlank (c : Char) : Bool :=
  c == ' ' || c == '\n' || c == '\t' || c == '\r'

/-- The text without the blanks before it. -/
def skipBlank (s : List Char) : List Char :=
  s.dropWhile isBlank

theorem length_skipBlank_le (s : List Char) : (skipBlank s).length ≤ s.length :=
  (List.dropWhile_suffix isBlank).length_le

theorem length_lt_of_skipBlank {s r : List Char} {c : Char} (h : skipBlank s = c :: r) :
    r.length < s.length := by
  have := length_skipBlank_le s
  rw [h, List.length_cons] at this
  omega

/-- The two kinds of brackets. -/
inductive Bracket where
  | list
  | object
  deriving DecidableEq

namespace Bracket

/-- The closing bracket. -/
def closing : Bracket → Char
  | list => ']'
  | object => '\x7d'

/-- The text ends before the bracket is closed. -/
def unclosed : Bracket → Reason
  | list => .endInList
  | object => .endInObject

/-- Neither a comma nor the closing bracket follows. -/
def noComma : Bracket → Reason
  | list => .expectedListComma
  | object => .expectedObjectComma

/-- What is unread when a value in brackets is given up: the closing bracket is read when it is
next, and in a list so is a comma with the blanks after it. -/
def giveUp (b : Bracket) (rest : List Char) : List Char :=
  match skipBlank rest with
  | [] => []
  | c :: r =>
    if c = b.closing then r
    else if b = .list ∧ c = ',' then skipBlank r
    else c :: r

end Bracket

namespace Failure

/-- Gives the failure of an item its place, when the value in brackets around it is given up. -/
def settle (b : Bracket) : Failure → Failure
  | placed reason unread => placed reason unread
  | unplaced reason rest => placed reason (Utf8.byteCount (b.giveUp rest))

/-- The reason. -/
def reason : Failure → Reason
  | placed reason _ => reason
  | unplaced reason _ => reason

/-- The number of bytes after the place. -/
def unread : Failure → Nat
  | placed _ unread => unread
  | unplaced _ rest => Utf8.byteCount rest

end Failure

/-- A failure at the next character. -/
def failHere {α : Type} (reason : Reason) (s : List Char) : Except Failure α :=
  .error (.placed reason (Utf8.byteCount s))

/-- A failure at the next character, whose first byte counts as read; at the end, there. -/
def failAhead {α : Type} (reason : Reason) (s : List Char) : Except Failure α :=
  .error (.placed reason (Utf8.byteCount s - 1))

/-- A line and a column, both in bytes: the lines begin at 1, the column counts what stands
before it on its line. -/
structure Position where
  line : Nat
  column : Nat
  deriving DecidableEq, Repr

/-- The position after a number of bytes of a text. -/
def Position.after (bytes : Nat) (text : List Char) : Position :=
  go ⟨1, 0⟩ bytes text
where
  /-- Goes on from a position. -/
  go (p : Position) : Nat → List Char → Position
    | _, [] => p
    | 0, _ => p
    | bytes + 1, c :: rest =>
      if bytes + 1 < c.utf8Size then ⟨p.line, p.column + (bytes + 1)⟩
      else
        let next : Position := if c = '\n' then ⟨p.line + 1, 0⟩ else ⟨p.line, p.column + c.utf8Size⟩
        go next (bytes + 1 - c.utf8Size) rest

/-- Why a text cannot be read, and where. -/
structure ReadError where
  reason : Reason
  position : Position
  deriving DecidableEq, Repr

/-- The wording of an error. -/
def ReadError.message (e : ReadError) : String :=
  e.reason.message ++ " at line " ++ toString e.position.line ++ " column "
    ++ toString e.position.column

/-- The error that a failure is in a text. -/
def Failure.inText (f : Failure) (text : List Char) : ReadError :=
  ⟨f.reason, Position.after (Utf8.byteCount text - f.unread) text⟩

end SchemaRules.Json
