import SchemaRules.Model.Basic
import SchemaRules.Naming

/-!
# Suppressing fields

A schema lists properties that are left out of what is written. Each entry of the list that names
a property marks the field of that property: a note is added to its documentation, and the
annotation `jsonIgnore` is attached. An entry that names no property, and a name without a field,
change nothing.

* `suppressM`: the rule with a resolver in any monad; `suppress`: with a resolver that is a
  function.
* `Suppression.fieldNames_mark`: marking keeps the fields and their names.
-/

namespace SchemaRules

namespace Suppression

/-- What is added to the documentation of a marked field. -/
def note : String := "\n(JsonIgnore)"

/-- The property that an entry of the list names: a string names itself, an object its first
child. A reference names none. -/
def directiveName? : Node → Option String
  | .object entries => (Entries.keys entries).head?
  | .scalar (.string s) => some s
  | _ => none

/-- The schema of a property: the child of the root's `properties`, else the first value of that
name below them. -/
def propertyNode? (root : Node) (name : String) : Option Node := do
  let properties ← root.properties?
  (properties.get? name).or (properties.find? name)

/-- Marks a field. -/
def markField (f : Field) : Field :=
  ((f.document note).annotate .jsonIgnore).1

/-- Marks the field of a name, if there is one. -/
def mark (m : Model) (name : String) : Model :=
  m.modifyField name markField

/-- Marks the field that one entry of the list names. -/
def applyDirective {μ : Type → Type} [Monad μ] (resolve : Resolver μ) (root : Node) (m : Model)
    (directive : Node) : μ Model :=
  match directiveName? directive with
  | none => pure m
  | some name => do
    let field ← resolve name (propertyNode? root name)
    return mark m field

/-- Marks the fields that the entries of a list name, one after the other. -/
def applyDirectives {μ : Type → Type} [Monad μ] (resolve : Resolver μ) (root list : Node)
    (m : Model) : μ Model :=
  list.elements.foldlM (applyDirective resolve root) m

theorem name_markField (f : Field) : (markField f).name = f.name := by
  simp [markField]

theorem fieldNames_mark (m : Model) (name : String) : (mark m name).fieldNames = m.fieldNames :=
  Model.fieldNames_modifyField m name name_markField

end Suppression

/-- Marks the fields that a schema lists under a keyword. Without a list there, nothing
changes. -/
def suppressM {μ : Type → Type} [Monad μ] (keyword : String) (resolve : Resolver μ) (root : Node)
    (m : Model) : μ Model :=
  match root.get? keyword with
  | some list => if list.isArray then Suppression.applyDirectives resolve root list m else pure m
  | none => pure m

/-- Marks the fields that a schema lists under a keyword. -/
def suppress (keyword : String) (resolve : Resolver Id) (root : Node) (m : Model) : Model :=
  suppressM keyword resolve root m

/-- Marks the fields that a schema lists, with keyword and names as configured. -/
def Config.suppress (c : Config) (root : Node) (m : Model) : Model :=
  SchemaRules.suppress c.ignoreKeyword c.resolver root m

end SchemaRules
