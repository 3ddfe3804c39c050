import SchemaRules.Url.File
import SchemaRules.Url.Parser

/-!
# Locators

A locator says where a document is: it is a path, or a URL with a known protocol before its first
colon. `Locator.resolve` makes a URL of either.

* `Protocol.ofTag_tag`: a protocol is found by its tag.
* `Locator.resolve_bare`: a path is made absolute and becomes a file URL.
-/

namespace SchemaRules

/-- How a locator is to be understood. -/
inductive Protocol where
  /-- The locator is a path. -/
  | bare
  | file
  | resource
  | java
  | classpath
  | http
  | https
  deriving DecidableEq, Repr

namespace Protocol

/-- The protocols in the order in which a tag is looked up. -/
def all : List Protocol :=
  [bare, file, resource, java, classpath, http, https]

/-- What stands before the colon. -/
def tag : Protocol → String
  | bare => ""
  | file => "file"
  | resource => "resource"
  | java => "java"
  | classpath => "classpath"
  | http => "http"
  | https => "https"

/-- The name of a protocol in a document. -/
def name : Protocol → String
  | bare => "noprotocol"
  | p => p.tag

/-- The name of a protocol for a reader. -/
def display : Protocol → String
  | bare => "(none)"
  | p => p.tag

/-- Whether documents are fetched from a network. -/
def isRemote : Protocol → Bool
  | http => true
  | https => true
  | _ => false

/-- The characters of a text with ASCII letters in lower case. -/
def fold (text : List Char) : List Char :=
  text.map Char.toLower

/-- The protocol of a tag in any case. An unknown tag is part of a path. -/
def ofTag (text : List Char) : Protocol :=
  (all.find? fun p => fold p.tag.toList == fold text).getD bare

theorem ofTag_tag (p : Protocol) : ofTag p.tag.toList = p := by
  cases p <;> decide

/-- The protocol of a locator: the one whose tag stands before the first colon. -/
def ofLocator (locator : String) : Protocol :=
  let text := locator.toList
  if text.contains ':' then ofTag (text.takeWhile (· != ':')) else bare

end Protocol

/-- Why a locator leads nowhere. -/
inductive LocatorFault where
  | url (fault : Url.Fault)
  | notFile
  | notLocal
  deriving DecidableEq, Repr

/-- The wording of a fault. -/
def LocatorFault.message : LocatorFault → String
  | url fault => fault.message
  | notFile => "not a file URL"
  | notLocal => "URL does not denote a local path"

namespace Locator

/-- The URL of a locator; paths are seen from `base`. -/
def resolve (base : Path) (locator : String) : Except LocatorFault Url :=
  match Protocol.ofLocator locator with
  | .bare => .ok (Url.ofPath (base.join (Path.ofString locator)))
  | _ => (Url.read locator).mapError .url

/-- The path of a file URL. -/
def filePath (u : Url) : Except LocatorFault Path :=
  if u.scheme ≠ Url.fileScheme then .error .notFile
  else
    match u.toPath? with
    | some p => .ok p
    | none => .error .notLocal

theorem resolve_bare {locator : String} (h : Protocol.ofLocator locator = .bare) (base : Path) :
    resolve base locator = .ok (Url.ofPath (base.join (Path.ofString locator))) := by
  rw [resolve, h]

end Locator

end SchemaRules
