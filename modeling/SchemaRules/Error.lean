import SchemaRules.FileSystem
import SchemaRules.Locator
import SchemaRules.Model.Format
import SchemaRules.SchemaId

/-!
# Errors

What stops a program: each constructor is a cause with what is needed to report it, and
`Error.message` has the wording of all of them.
-/

namespace SchemaRules

/-- Why a program stops. -/
inductive Error where
  | invalidId (id : String) (issue : IdIssue)
  | invalidLocator (locator : String) (fault : LocatorFault)
  /-- A document cannot be read. -/
  | unreadable (path : Path) (fault : FileFault)
  /-- A document is larger than the limit. -/
  | tooLarge (size : Nat) (limit : UInt64)
  /-- A document would have to be fetched. -/
  | remote (url : Url)
  /-- The scheme of a URL names no file. -/
  | unsupported (url : Url)
  | unreadableConfig (path : Path) (fault : FileFault)
  | badConfig (fault : ConfigFault)
  | json (error : Json.ReadError)
  | duplicateField (field model : String)
  /-- The result cannot be written. -/
  | unwritable (fault : FileFault)
  deriving DecidableEq, Repr

namespace Error

/-- The error of a model document. -/
def ofModel : Model.ReadError → Error
  | .json error => .json error
  | .duplicateField field model => .duplicateField field model

/-- The wording of an error. -/
def message : Error → String
  | invalidId id issue => "invalid schema id '" ++ id ++ "': " ++ issue.message
  | invalidLocator locator fault => "invalid locator '" ++ locator ++ "': " ++ fault.message
  | unreadable path fault =>
    "resource error: Failed to read file '" ++ path.display ++ "': " ++ fault.message
  | tooLarge size limit =>
    "resource error: Document size " ++ Nat.repr size ++ " bytes exceeds maximum "
      ++ Nat.repr limit.toNat ++ " bytes"
  | remote url => "resource error: Remote resources are not fetched: " ++ url.text
  | unsupported url =>
    "resource error: Loading '" ++ String.ofList url.scheme
      ++ "' resources is not supported: " ++ url.text
  | unreadableConfig path fault =>
    "config error: Failed to read config '" ++ path.display ++ "': " ++ fault.message
  | badConfig fault => "config error: " ++ fault.message
  | json error => "JSON error: " ++ error.message
  | duplicateField field model =>
    "JSON error: " ++ (Model.ReadError.duplicateField field model).message
  | unwritable fault => fault.message

end Error

end SchemaRules
