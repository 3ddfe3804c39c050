import SchemaRules.Suppression

/-!
# What marking leaves of a model

The list of a schema marks a field once for each entry that resolves to it, whatever else the
list holds. So the marked model can be told field by field, from a count over the whole list.

* `Suppression.hits`: whether an entry names a property whose field has a name.
* `Field.marked`: a field with the notes of a number of entries.
* `applyDirective_eq`: one entry marks the fields that it hits.
* `foldl_applyDirective`: entries one after the other mark each field as often as they hit it.
* `suppress_eq_marked`: the whole rule, for any resolver.
-/

namespace SchemaRules

/-- A field that `n` entries mark: every one of them adds its note, and the first one attaches the
annotation if it is not attached yet. -/
def Field.marked (n : Nat) (f : Field) : Field :=
  { f with
    documentation := f.documentation ++ String.join (List.replicate n "\n(JsonIgnore)")
    annotations :=
      if n = 0 ∨ .jsonIgnore ∈ f.annotations then f.annotations
      else f.annotations ++ [.jsonIgnore] }

namespace Suppression

/-- The entries listed directly under a keyword of an object. Anything but an array lists none. -/
def listed (keyword : String) : Node → List Node
  | .object entries =>
    match entries.lookup keyword with
    | some (.array items) => items
    | _ => []
  | _ => []

/-- The schema with which a property is resolved: the child of `properties` that has its name,
else the first value of that name below them. -/
def schemaOf (root : Node) (name : String) : Option Node :=
  match root.get? "properties" with
  | none => none
  | some properties =>
    match properties.get? name with
    | some child => some child
    | none => properties.find? name

/-- Whether an entry names a property that is resolved to the name of a field. A string names
itself and an object its first key; no other entry names a property. -/
def hits (resolve : String → Option Node → String) (root : Node) (field : String) : Node → Bool
  | .scalar (.string name) => resolve name (schemaOf root name) == field
  | .object ((name, _) :: _) => resolve name (schemaOf root name) == field
  | _ => false

section

variable (resolve : String → Option Node → String) (root : Node)

theorem propertyNode?_eq_schemaOf (name : String) :
    propertyNode? root name = schemaOf root name := by
  unfold propertyNode? schemaOf Node.properties?
  cases root.get? "properties" with
  | none => rfl
  | some properties =>
    simp only [Option.bind_eq_bind, Option.bind_some]
    cases properties.get? name <;> rfl

theorem suppress_eq_foldl (keyword : String) (m : Model) :
    suppress keyword resolve root m
      = (listed keyword root).foldl (applyDirective (μ := Id) resolve root) m := by
  unfold suppress suppressM listed Node.get?
  cases root with
  | object entries =>
    simp only []
    cases entries.lookup keyword with
    | none => rfl
    | some list =>
      cases list with
      | array items => exact List.idRun_foldlM
      | _ => rfl
  | _ => rfl

/-- An entry hits the one field name that it is resolved to, if it names a property. -/
theorem hits_eq (field : String) (entry : Node) :
    hits resolve root field entry
      = (directiveName? entry).any fun name => resolve name (schemaOf root name) == field := by
  cases entry with
  | scalar a => cases a <;> simp [hits, directiveName?]
  | object entries => cases entries <;> simp [hits, directiveName?]
  | _ => rfl

/-- One entry marks the fields that it hits. -/
theorem applyDirective_eq (m : Model) (entry : Node) :
    applyDirective (μ := Id) resolve root m entry
      = { m with fields := m.fields.map fun f =>
            if hits resolve root f.name entry then markField f else f } := by
  simp only [hits_eq]
  unfold applyDirective
  cases directiveName? entry with
  | none => simp [pure]
  | some name =>
    show mark m (resolve name (propertyNode? root name)) = _
    rw [propertyNode?_eq_schemaOf]
    have turned : ∀ f : Field, (resolve name (schemaOf root name) == f.name) = true
        ↔ f.name = resolve name (schemaOf root name) := fun f => by rw [beq_iff_eq, eq_comm]
    simp only [Option.any_some, mark, Model.modifyField, turned]

end

theorem marked_zero (f : Field) : f.marked 0 = f := by
  simp [Field.marked]

/-- The next mark is one mark more, wherever it comes in the list. -/
theorem marked_markField (n : Nat) (f : Field) : (markField f).marked n = f.marked (n + 1) := by
  have text : f.documentation ++ note ++ String.join (List.replicate n note)
      = f.documentation ++ String.join (List.replicate (n + 1) note) := by
    rw [List.replicate_succ, String.join_cons, String.append_assoc]
  unfold note at text
  by_cases h : .jsonIgnore ∈ f.annotations
  · simpa [Field.marked, markField, Field.annotate, Field.has, Field.document, note, h] using text
  · simpa [Field.marked, markField, Field.annotate, Field.has, Field.document, note, h] using text

/-- Entries one after the other mark each field as often as they hit it. -/
theorem foldl_applyDirective (resolve : String → Option Node → String) (root : Node)
    (entries : List Node) (m : Model) :
    entries.foldl (applyDirective (μ := Id) resolve root) m
      = { m with fields := m.fields.map fun f =>
            f.marked (entries.countP (hits resolve root f.name)) } := by
  induction entries generalizing m with
  | nil => simp [marked_zero]
  | cons entry rest ih =>
    rw [List.foldl_cons, applyDirective_eq, ih]
    simp only [List.map_map]
    congr 1
    apply List.map_congr_left
    intro f _
    -- Marking keeps the name, so the rest of the list hits the field as often as before.
    by_cases h : hits resolve root f.name entry
    · simp [h, name_markField, marked_markField]
    · simp [h]

/-- The rule keeps the model's name and its fields in order, and marks each field as often as
entries under the keyword hit it. -/
theorem suppress_eq_marked (c : Config) (resolve : String → Option Node → String) (root : Node)
    (m : Model) :
    suppress c.ignoreKeyword resolve root m
      = { name := m.name
          fields := m.fields.map fun f =>
            f.marked ((listed c.ignoreKeyword root).countP (hits resolve root f.name)) } := by
  rw [suppress_eq_foldl, foldl_applyDirective]

end Suppression

end SchemaRules
