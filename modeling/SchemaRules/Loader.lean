import SchemaRules.Error
import SchemaRules.Suppression

/-!
# Loading documents

Schemas, models and configurations are read from files. A `Source` is whatever files are read
from; the loaders work with any source in any monad, and so with a file system that is a value as
well as with the one of the machine.

* `Source.text`: the order in which a document is refused: it cannot be read, it is not UTF-8, it
  is larger than the limit.
* `Source.schema`, `Source.model`, `Source.config`: the loaders.
-/

namespace SchemaRules

/-- Files that can be read, and the absolute path from which relative ones are seen. -/
structure Source (m : Type → Type) where
  base : Path
  read : Path → m (Except FileFault ByteArray)

/-- A schema and the URL that it was loaded from. -/
structure Schema where
  url : Url
  root : Node

namespace Source

variable {m : Type → Type} [Monad m]

/-- The text of a file, if it is UTF-8. -/
def text (s : Source m) (p : Path) : m (Except FileFault String) := do
  match ← s.read p with
  | .error fault => return .error fault
  | .ok content =>
    match String.fromUTF8? content with
    | some text => return .ok text
    | none => return .error .notUtf8

/-- The text of a document that is at most as large as the limit. -/
def document (s : Source m) (limit : UInt64) (p : Path) : ExceptT Error m String := do
  match ← s.text p with
  | .error fault => throw (.unreadable p fault)
  | .ok text =>
    if limit.toNat < text.utf8ByteSize then throw (.tooLarge text.utf8ByteSize limit)
    return text

/-- The path of the file that a locator leads to, and its URL. -/
def locate (s : Source m) (locator : String) : Except Error (Url × Path) := do
  let url ← (Locator.resolve s.base locator).mapError (.invalidLocator locator)
  if (Protocol.ofLocator locator).isRemote then throw (.remote url)
  if url.scheme ≠ Url.fileScheme then throw (.unsupported url)
  let path ← (Locator.filePath url).mapError (.invalidLocator url.text)
  return (url, path)

/-- Loads a schema. -/
def schema (s : Source m) (limit : UInt64) (locator : String) : ExceptT Error m Schema := do
  let (url, path) ← s.locate locator
  let text ← s.document limit path
  match Node.read text with
  | .ok root => return ⟨url, root⟩
  | .error e => throw (.json e)

/-- Loads a model. -/
def model (s : Source m) (limit : UInt64) (p : Path) : ExceptT Error m Model := do
  let text ← s.document limit p
  match Model.read text with
  | .ok model => return model
  | .error e => throw (.ofModel e)

/-- Loads a configuration that can be used. -/
def config (s : Source m) (p : Path) : ExceptT Error m Config := do
  match ← s.text p with
  | .error fault => throw (.unreadableConfig p fault)
  | .ok text =>
    match Config.read text with
    | .error e => throw (.json e)
    | .ok config =>
      match config.check with
      | .ok _ => return config
      | .error fault => throw (.badConfig fault)

end Source

/-- The files of a file system as they are. -/
def FileSystem.source (fs : FileSystem) : Source Id where
  base := fs.workingPath
  read := fs.read

end SchemaRules
