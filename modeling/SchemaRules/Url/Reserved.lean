import SchemaRules.Text.Percent

/-!
# Reserved bytes

The bytes that each part of a URL writes as escapes. The set of a part holds the controls and the
characters that would end the part or be taken for something else in it.
-/

namespace SchemaRules.Url.Reserved

/-- The controls. -/
def controls (b : UInt8) : Bool :=
  b < 0x20 || b == 0x7F

/-- A set with more characters in it. -/
def extend (set : UInt8 → Bool) (more : List Char) (b : UInt8) : Bool :=
  set b || (Utf8.encode more).contains b

/-- What a fragment escapes. -/
def fragment : UInt8 → Bool :=
  extend controls [' ', '"', '<', '>', '\x60']

/-- What a query escapes. -/
def query : UInt8 → Bool :=
  extend controls [' ', '"', '#', '<', '>']

/-- What a query escapes where the scheme gives queries a meaning. -/
def specialQuery : UInt8 → Bool :=
  extend query ['\x27']

/-- What a path escapes. -/
def path : UInt8 → Bool :=
  extend fragment ['#', '?', '\x7b', '\x7d']

/-- What a user name and a password escape. -/
def userinfo : UInt8 → Bool :=
  extend path ['/', ':', ';', '=', '@', '[', '\\', ']', '^', '|']

/-- What the name of a file escapes, so that it stays one segment that stands for itself. -/
def fileName : UInt8 → Bool :=
  extend path ['/', '%', '\\']

end SchemaRules.Url.Reserved
