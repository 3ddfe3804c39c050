import SchemaRules.Text.Composition
import SchemaRules.Text.Direction
import SchemaRules.Text.Joining
import SchemaRules.Text.Punycode
import SchemaRules.Text.Utf8
import SchemaRules.Url.Domain.Mapping

/-!
# Domain names

A domain name is written in ASCII. `Domain.toAscii?` reads a name in any script: its characters
are read as those that domain names hold and composed, and each label that is not ASCII then is
written in Punycode after the mark `xn--`. A label that has the mark already must stand for a
label that would be written so.
-/

namespace SchemaRules.Url.Domain

/-- The printed ASCII characters that no host has. A `%` would begin an escape. -/
def forbidden : List Char :=
  ['#', '%', '/', ':', '<', '>', '?', '@', '[', '\\', ']', '^', '|']

/-- Whether no host has a character: it is a control, a space or forbidden. -/
def isForbidden (c : Char) : Bool :=
  c.toNat ≤ 0x20 || c.toNat == 0x7F || forbidden.contains c

/-- The class of the signs that take a vowel from the letter before. -/
def viramaClass : Nat := 9

/-- Whether a joiner may stand between what is before it, read backwards, and what is after it.
Both joiners may follow a sign that takes a vowel away; the one that separates may also stand
between letters that would join. -/
def joinerFits (before : List Char) (joiner : Char) (after : List Char) : Bool :=
  before.head?.any (canonicalClass · == viramaClass)
    || (joiner == '\u200C'
      && (before.dropWhile isTransparent).head?.any joinsNext
      && (after.dropWhile isTransparent).head?.any joinsPrevious)

/-- Whether every joiner in a text fits. -/
def joinersFit (before : List Char) : List Char → Bool
  | [] => true
  | c :: rest =>
    (!(c == '\u200C' || c == '\u200D') || joinerFits before c rest) && joinersFit (c :: before) rest

/-- Whether a text in composed form can be a label. -/
def isLabel (text : List Char) : Bool :=
  !text.any isForbidden && !text.head?.any isMark && joinersFit [] text

/-- A label: the text that it stands for, and how it is written in ASCII. -/
structure Label where
  text : List Char
  ascii : List Char

/-- What begins a label in Punycode. -/
def codedMark : List Char := ['x', 'n', '-', '-']

/-- The greatest length of Punycode that is read. -/
def maxCoded : Nat := 2000

/-- The greatest length of the text of a label that is not ASCII. -/
def maxLabel : Nat := 1000

/-- Whether a text is ASCII. -/
def isAscii (text : List Char) : Bool :=
  text.all fun c => c.toNat < 128

/-- The composed form of a text as domain names are read. -/
def read? (text : List Char) : Option (List Char) :=
  (images? text).map Composition.form

/-- The label of a text after the mark of Punycode. -/
def decodeLabel? (coded : List Char) : Option Label := do
  if maxCoded < coded.length then none
  let text ← Punycode.decode coded
  if maxLabel < text.length then none
  else if !isAscii text && !text.contains '.' && isLabel text && read? text == some text then
    some ⟨text, codedMark ++ coded⟩
  else none

/-- The label of a text. -/
def label? (text : List Char) : Option Label :=
  if codedMark.isPrefixOf text then decodeLabel? (text.drop codedMark.length)
  else if !isLabel text then none
  else if isAscii text then some ⟨text, text⟩
  else if maxLabel < text.length then none
  else some ⟨text, codedMark ++ Punycode.encode text⟩

/-- Whether labels can stand together: if one of them has a character that is written from right
to left, each can be read in one direction only. -/
def directionsAgree (labels : List Label) : Bool :=
  let directions := labels.map fun l => l.text.map Direction.ofChar
  !directions.any (·.any Direction.isRightToLeft) || directions.all Direction.readsOneWay

/-- The ASCII form of a domain name. -/
def toAscii? (bytes : List UInt8) : Option (List Char) := do
  let text ← Utf8.decode? bytes
  let labels ← ((← read? text.toList).splitOn '.').mapM label?
  if directionsAgree labels then some (['.'].intercalate (labels.map (·.ascii))) else none

end SchemaRules.Url.Domain
