import SchemaRules.Json.Printer
import SchemaRules.Json.Typed
import SchemaRules.Model.Basic

/-!
# Model documents

A model is written with its fields as a list. Reading takes a record as an object, with defaults
for what may be left out, or as a list by position, and attaches each annotation once. A field
name that comes again is refused after the reading.

* `Model.toValue`, `Model.read`: the two directions.
-/

namespace SchemaRules

open Json (Layout Reader Slot Value Variant)

/-- The value that stands for an annotation: a name, with what the marker carries if it does. -/
def Annotation.toValue : Annotation → Value
  | jsonIgnore => .string "JsonIgnore"
  | jsonProperty name => .object [("JsonProperty", .string name)]
  | custom name => .object [("Custom", .string name)]

/-- The variants of an annotation. -/
def Annotation.variants : List (Variant Annotation) :=
  [⟨"JsonIgnore", some .jsonIgnore, Json.unit.map fun _ => .jsonIgnore⟩,
   ⟨"JsonProperty", none, Json.string.map .jsonProperty⟩,
   ⟨"Custom", none, Json.string.map .custom⟩]

/-- Reads an annotation. -/
def Annotation.reader : Reader Annotation :=
  Json.variant variants

/-- The value that stands for a field. -/
def Field.toValue (f : Field) : Value :=
  .object [("name", .string f.name), ("type", .string f.type),
    ("javadoc", .string f.documentation),
    ("annotations", .array (f.annotations.map Annotation.toValue))]

/-- A field that is being read. -/
structure Field.Draft where
  name : Option String := none
  type : Option String := none
  documentation : Option String := none
  annotations : Option (List Annotation) := none

/-- The parts of a field document. -/
def Field.layout : Layout Field.Draft where
  name := "ModelField"
  blank := {}
  slots :=
    [⟨"name", true, fun d => d.name.isSome,
        fun d => Json.string.map fun s => { d with name := some s }⟩,
     ⟨"type", true, fun d => d.type.isSome,
        fun d => Json.string.map fun s => { d with type := some s }⟩,
     ⟨"javadoc", false, fun d => d.documentation.isSome,
        fun d => Json.string.map fun s => { d with documentation := some s }⟩,
     ⟨"annotations", false, fun d => d.annotations.isSome,
        fun d => (Json.listOf "a set" Annotation.reader).map fun l =>
          { d with annotations := some l }⟩]

/-- The field of a draft; what was left out is empty. -/
def Field.Draft.toField (d : Field.Draft) : Field :=
  let f : Field := ⟨d.name.getD "", d.type.getD "", d.documentation.getD "", []⟩
  f.annotateAll (d.annotations.getD [])

/-- Reads a field. -/
def Field.reader : Reader Field :=
  (Json.record Field.layout).map Field.Draft.toField

namespace Model

/-- The value that stands for a model. -/
def toValue (m : Model) : Value :=
  .object [("name", .string m.name), ("fields", .array (m.fields.map Field.toValue))]

/-- The compact text of a model. -/
def compact (m : Model) : String :=
  m.toValue.compact

/-- The pretty text of a model. -/
def pretty (m : Model) : String :=
  m.toValue.pretty

/-- A model that is being read. -/
structure Draft where
  name : Option String := none
  fields : Option (List Field) := none

/-- The parts of a model document. -/
def layout : Layout Draft where
  name := "RawModel"
  blank := {}
  slots :=
    [⟨"name", true, fun d => d.name.isSome,
        fun d => Json.string.map fun s => { d with name := some s }⟩,
     ⟨"fields", false, fun d => d.fields.isSome,
        fun d => (Json.listOf "a sequence" Field.reader).map fun l => { d with fields := some l }⟩]

/-- Why a text is no model. -/
inductive ReadError where
  | json (error : Json.ReadError)
  /-- A field name comes again in the model. -/
  | duplicateField (field model : String)
  deriving DecidableEq, Repr

/-- The wording of an error. -/
def ReadError.message : ReadError → String
  | json error => error.message
  | duplicateField field model =>
    "duplicate field '" ++ field ++ "' in model '" ++ model ++ "'"

/-- The model that a draft describes. -/
def Draft.toModel (d : Draft) : Except ReadError Model :=
  let name := d.name.getD ""
  (ofFields name (d.fields.getD [])).mapError fun f => .duplicateField f.name name

/-- Reads a model document. A field name that comes again is found before anything that follows
the model in the text. -/
def read (source : String) : Except ReadError Model :=
  let text := source.toList
  match Json.record layout text with
  | .error e => .error (.json (e.inText text))
  | .ok st =>
    match st.value.toModel with
    | .error e => .error e
    | .ok m =>
      match Json.skipBlank st.rest with
      | [] => .ok m
      | rest =>
        .error (.json (Json.Failure.inText
          (.placed .trailingCharacters (Utf8.byteCount rest - 1)) text))

end Model

end SchemaRules
