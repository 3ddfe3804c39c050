import SchemaRules.Json.Printer
import SchemaRules.Json.Typed

/-!
# Configuration

The settings that rules, names, schema ids and loaders share. A configuration document may give
any of them; the others keep their defaults.

* `Config.toValue`, `Config.read`: the two directions.
* `Config.check`: the settings that cannot be used.
-/

namespace SchemaRules

open Json (Layout Reader Slot Value Variant)

/-- How strictly schema ids are checked. -/
inductive Policy where
  /-- Empty segments pass, and `_` delimits nothing. -/
  | legacy
  /-- Every delimiter is treated alike, and empty segments are refused. -/
  | strict
  deriving DecidableEq, Repr

/-- The name of a policy. -/
def Policy.name : Policy → String
  | legacy => "legacy"
  | strict => "strict"

/-- The variants of a policy. -/
def Policy.variants : List (Variant Policy) :=
  [.legacy, .strict].map fun p => ⟨p.name, some p, Json.unit.map fun _ => p⟩

/-- The settings. -/
structure Config where
  /-- The schema keyword under which the ignore list stands. -/
  ignoreKeyword : String := "ignoredFields"
  /-- The characters that separate the words of a property name. -/
  wordDelimiters : List Char := ['-', '_']
  policy : Policy := .legacy
  /-- The greatest size of a document in bytes. -/
  maxSize : UInt64 := 10485760
  deriving DecidableEq, Repr

/-- Why a configuration cannot be used. -/
inductive ConfigFault where
  | emptyKeyword
  | zeroSize
  deriving DecidableEq, Repr

/-- The wording of a fault. -/
def ConfigFault.message : ConfigFault → String
  | emptyKeyword => "ignoreKeyword must not be empty"
  | zeroSize => "maxSchemaSize must be positive"

namespace Config

/-- The fault of a configuration, if it has one. -/
def check (c : Config) : Except ConfigFault Unit :=
  if c.ignoreKeyword = "" then .error .emptyKeyword
  else if c.maxSize = 0 then .error .zeroSize
  else .ok ()

/-- The value that stands for a configuration. -/
def toValue (c : Config) : Value :=
  .object [("ignoreKeyword", .string c.ignoreKeyword),
    ("propertyWordDelimiters",
      .array (c.wordDelimiters.map fun d => .string (String.ofList [d]))),
    ("identifierPolicy", .string c.policy.name),
    ("maxSchemaSize", .scalar (.number (.int c.maxSize.toNat)))]

/-- The compact text of a configuration. -/
def compact (c : Config) : String :=
  c.toValue.compact

/-- A configuration that is being read. -/
structure Draft where
  ignoreKeyword : Option String := none
  wordDelimiters : Option (List Char) := none
  policy : Option Policy := none
  maxSize : Option UInt64 := none

/-- The parts of a configuration document. -/
def layout : Layout Draft where
  name := "GenerationConfig"
  blank := {}
  slots :=
    [⟨"ignoreKeyword", false, fun d => d.ignoreKeyword.isSome,
        fun d => Json.string.map fun s => { d with ignoreKeyword := some s }⟩,
     ⟨"propertyWordDelimiters", false, fun d => d.wordDelimiters.isSome,
        fun d => (Json.listOf "a sequence" Json.character).map fun l =>
          { d with wordDelimiters := some l }⟩,
     ⟨"identifierPolicy", false, fun d => d.policy.isSome,
        fun d => (Json.variant Policy.variants).map fun p => { d with policy := some p }⟩,
     ⟨"maxSchemaSize", false, fun d => d.maxSize.isSome,
        fun d => Json.count.map fun n => { d with maxSize := some n }⟩]

/-- The configuration of a draft; what was left out has its default. -/
def Draft.toConfig (d : Draft) : Config :=
  let standard : Config := {}
  { ignoreKeyword := d.ignoreKeyword.getD standard.ignoreKeyword
    wordDelimiters := d.wordDelimiters.getD standard.wordDelimiters
    policy := d.policy.getD standard.policy
    maxSize := d.maxSize.getD standard.maxSize }

/-- Reads a configuration document. -/
def read (source : String) : Except Json.ReadError Config :=
  Json.read ((Json.record layout).map Draft.toConfig) source

end Config

end SchemaRules
