import SchemaRules.Json.Document
import SchemaRules.Json.Printer

/-!
# Schema nodes

A schema document as a tree. It is the document's value, except that an object whose only entry
is a `$ref` string is a reference: it has no children, and a search does not look into it.

* `Node.ofValue` and `Node.toValue` go from documents to trees and back.
* `Node.get?` looks at the direct children, `Node.find?` at everything below, in document order.
* `Node.same` is equality up to the order of entries; `Node.decEq` decides equality itself.
-/

namespace SchemaRules

open Json (Scalar Value)

/-- A node of a schema. -/
inductive Node where
  | scalar (a : Scalar)
  | array (items : List Node)
  /-- The children by name, in document order. -/
  | object (entries : List (String × Node))
  /-- Another schema that stands here. -/
  | reference (target : String)

namespace Node

/-- The key of a reference. -/
def refKey : String := "$ref"

/-- The target, if an object with these entries is a reference. -/
def target? : List (String × Value) → Option String
  | [(key, .scalar (.string target))] => if key = refKey then some target else none
  | _ => none

mutual

/-- The node of a value. -/
def ofValue : Value → Node
  | .scalar a => .scalar a
  | .array items => .array (ofItems items)
  | .object entries =>
    match target? entries with
    | some target => .reference target
    | none => .object (ofEntries entries)

/-- The nodes of items. -/
def ofItems : List Value → List Node
  | [] => []
  | v :: rest => ofValue v :: ofItems rest

/-- The nodes of entries. -/
def ofEntries : List (String × Value) → List (String × Node)
  | [] => []
  | (key, v) :: rest => (key, ofValue v) :: ofEntries rest

end

mutual

/-- The value of a node. -/
def toValue : Node → Value
  | .scalar a => .scalar a
  | .array items => .array (toItems items)
  | .object entries => .object (toEntries entries)
  | .reference target => .object [(refKey, .string target)]

/-- The values of items. -/
def toItems : List Node → List Value
  | [] => []
  | n :: rest => toValue n :: toItems rest

/-- The values of entries. -/
def toEntries : List (String × Node) → List (String × Value)
  | [] => []
  | (key, n) :: rest => (key, toValue n) :: toEntries rest

end

/-- The node of a document. -/
def read (source : String) : Except Json.ReadError Node :=
  (Value.read source).map ofValue

/-- The compact text of a node. -/
def compact (n : Node) : String :=
  n.toValue.compact

/-- A direct child of an object. -/
def get? (n : Node) (name : String) : Option Node :=
  match n with
  | .object entries => entries.lookup name
  | _ => none

/-- The child that describes the properties. -/
def properties? (n : Node) : Option Node :=
  n.get? "properties"

mutual

/-- The first value below a node that has a name for a key. An entry comes before what is inside
its value. -/
def find? (name : String) : Node → Option Node
  | .object entries => findInEntries name entries
  | .array items => findInItems name items
  | _ => none

/-- The first value of a name in items. -/
def findInItems (name : String) : List Node → Option Node
  | [] => none
  | n :: rest => (find? name n).or (findInItems name rest)

/-- The first value of a name in entries. -/
def findInEntries (name : String) : List (String × Node) → Option Node
  | [] => none
  | (key, n) :: rest =>
    if key = name then some n else (find? name n).or (findInEntries name rest)

end

/-- The items of an array; any other node has none. -/
def elements : Node → List Node
  | .array items => items
  | _ => []

/-- The names of an object's children in document order; any other node has none. -/
def fieldNames : Node → List String
  | .object entries => Entries.keys entries
  | _ => []

/-- The text of a string. -/
def string? : Node → Option String
  | .scalar (.string s) => some s
  | _ => none

/-- Whether a node is an object. -/
def isObject : Node → Bool
  | .object _ => true
  | _ => false

/-- Whether a node is an array. -/
def isArray : Node → Bool
  | .array _ => true
  | _ => false

mutual

/-- Whether two nodes are equal, the order of entries aside. -/
def same : Node → Node → Bool
  | .scalar a, .scalar b => a.sameValue b
  | .array a, .array b => sameItems a b
  | .object a, .object b => a.length == b.length && sameEntries a b
  | .reference a, .reference b => a == b
  | _, _ => false

/-- Whether items are equal one by one. -/
def sameItems : List Node → List Node → Bool
  | [], [] => true
  | m :: rest, n :: others => same m n && sameItems rest others
  | _, _ => false

/-- Whether each entry has an equal one among others. -/
def sameEntries : List (String × Node) → List (String × Node) → Bool
  | [], _ => true
  | (key, m) :: rest, others =>
    (match others.lookup key with
      | some n => same m n
      | none => false) && sameEntries rest others

end

mutual

/-- Decides whether two nodes are one. Unlike `same`, it minds the order of entries. -/
def decEq : (m n : Node) → Decidable (m = n)
  | .scalar a, .scalar b => decidable_of_iff (a = b) ⟨congrArg scalar, scalar.inj⟩
  | .array a, .array b =>
    match decEqItems a b with
    | isTrue h => isTrue (congrArg array h)
    | isFalse h => isFalse fun heq => h (array.inj heq)
  | .object a, .object b =>
    match decEqEntries a b with
    | isTrue h => isTrue (congrArg object h)
    | isFalse h => isFalse fun heq => h (object.inj heq)
  | .reference a, .reference b => decidable_of_iff (a = b) ⟨congrArg reference, reference.inj⟩
  | .scalar _, .array _ | .scalar _, .object _ | .scalar _, .reference _ => isFalse nofun
  | .array _, .scalar _ | .array _, .object _ | .array _, .reference _ => isFalse nofun
  | .object _, .scalar _ | .object _, .array _ | .object _, .reference _ => isFalse nofun
  | .reference _, .scalar _ | .reference _, .array _ | .reference _, .object _ => isFalse nofun

/-- Decides whether items are the same, one by one. -/
def decEqItems : (a b : List Node) → Decidable (a = b)
  | [], [] => isTrue rfl
  | m :: rest, n :: others =>
    match decEq m n, decEqItems rest others with
    | isTrue h, isTrue k => isTrue (by rw [h, k])
    | isFalse h, _ => isFalse fun heq => h (List.cons.inj heq).1
    | _, isFalse k => isFalse fun heq => k (List.cons.inj heq).2
  | [], _ :: _ | _ :: _, [] => isFalse nofun

/-- Decides whether entries are the same, one by one. -/
def decEqEntries : (a b : List (String × Node)) → Decidable (a = b)
  | [], [] => isTrue rfl
  | (key, m) :: rest, (key', n) :: others =>
    if hkey : key = key' then
      match decEq m n, decEqEntries rest others with
      | isTrue h, isTrue k => isTrue (by rw [hkey, h, k])
      | isFalse h, _ => isFalse fun heq => h (Prod.mk.inj (List.cons.inj heq).1).2
      | _, isFalse k => isFalse fun heq => k (List.cons.inj heq).2
    else isFalse fun heq => hkey (Prod.mk.inj (List.cons.inj heq).1).1
  | [], _ :: _ | _ :: _, [] => isFalse nofun

end

instance : DecidableEq Node := decEq

end Node

end SchemaRules
