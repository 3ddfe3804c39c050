import SchemaRules.Config
import SchemaRules.Schema.Node
import SchemaRules.Text.Alphanumeric
import SchemaRules.Text.CaseMap
import SchemaRules.Text.Lowercase

/-!
# Naming

A property name is any text; a field needs an identifier. `Naming.normalize` splits the property
name into words and joins them in camel case, and `Naming.propertyName` lets the schema of a
property give the field name itself. A rule takes its names from a `Resolver`, so that a
generator may have conventions of its own.
-/

namespace SchemaRules

/-- Gives a property a field name; it is told the property's schema if there is one. It may act in
a monad, in which its calls can be observed. -/
abbrev Resolver (m : Type → Type) := String → Option Node → m String

namespace Naming

/-- The keyword of a property's schema that gives the field name. -/
def fieldNameKeyword : String := "fieldName"

/-- The words that are no field names as they are. -/
def reservedWords : List String :=
  ["abstract", "assert", "boolean", "break", "byte", "case", "catch", "char", "class", "const",
   "continue", "default", "do", "double", "else", "enum", "extends", "false", "final",
   "finally", "float", "for", "goto", "if", "implements", "import", "instanceof", "int",
   "interface", "long", "native", "new", "null", "package", "private", "protected", "public",
   "return", "short", "static", "strictfp", "super", "switch", "synchronized", "this", "throw",
   "throws", "transient", "true", "try", "void", "volatile", "while"]

/-- Whether a character may stand in an identifier. -/
def isIdentifierChar (c : Char) : Bool :=
  isAlphanumeric c || c == '_' || c == '$'

/-- The name with `_` for each character that neither may stand in an identifier nor separates
words. -/
def replaceIllegal (delimiters : List Char) (name : List Char) : List Char :=
  name.map fun c => if isIdentifierChar c || delimiters.contains c then c else '_'

/-- The words of a name: what stands between delimiters, if anything does. -/
def words (delimiters : List Char) (name : List Char) : List (List Char) :=
  (name.splitOnP delimiters.contains).filter fun w => !w.isEmpty

/-- A word with its first character in upper case. -/
def capitalize : List Char → List Char
  | [] => []
  | c :: rest => upperCase c ++ rest

/-- Words joined, each capitalized but the first. -/
def camelCase : List (List Char) → List Char
  | [] => []
  | first :: others => first ++ others.flatMap capitalize

/-- A name with its first character in lower case, unless it has no lower-case character. -/
def lowerHead (name : List Char) : List Char :=
  match name with
  | [] => []
  | c :: rest => if (c :: rest).any isLowercase then lowerCase c ++ rest else c :: rest

/-- Whether a name is no identifier as it is: it is empty, begins with a digit or is reserved. -/
def needsMark (name : List Char) : Bool :=
  match name with
  | [] => true
  | c :: _ => c.isDigit || reservedWords.contains (String.ofList name)

/-- A name that is an identifier, with `_` before it if it needs that. -/
def mark (name : List Char) : List Char :=
  if needsMark name then '_' :: name else name

/-- The identifier of a property name. -/
def normalize (delimiters : List Char) (name : String) : String :=
  let joined := camelCase (words delimiters (replaceIllegal delimiters name.toList))
  String.ofList (mark (lowerHead joined))

/-- The field name that a property's schema gives. -/
def explicitName? (node : Option Node) : Option String := do
  (← (← node).get? fieldNameKeyword).string?

/-- The field name of a property: the one that its schema gives, else the identifier of its own
name. -/
def propertyName (delimiters : List Char) (name : String) (node : Option Node) : String :=
  (explicitName? node).getD (normalize delimiters name)

end Naming

/-- The resolver of a configuration. -/
def Config.resolver (c : Config) : Resolver Id := fun name node =>
  Naming.propertyName c.wordDelimiters name node

end SchemaRules
