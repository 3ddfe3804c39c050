import SchemaRules.Json.Value

/-!
# The code model

The class under construction: named fields with a declared type, a documentation text and the
annotations attached to them. Fields and annotations are kept in the order in which they came,
and neither a field name nor an annotation comes twice (`Model.WellFormed`). Equality of models
(`Model.same`) does not look at either order.

* `Field.annotate_attached`, `Model.addField_added`: what attaching and adding answer.
* `Model.WellFormed.addField`, `Model.WellFormed.modifyField`: what keeps a model well-formed.
-/

namespace SchemaRules

/-- A marker on a field. -/
inductive Annotation where
  /-- The field is left out of what is written. -/
  | jsonIgnore
  /-- The field is written under a name. -/
  | jsonProperty (name : String)
  /-- Any other marker. -/
  | custom (name : String)
  deriving DecidableEq, Repr

/-- How an annotation is written in code. -/
def Annotation.text : Annotation → String
  | jsonIgnore => "@JsonIgnore"
  | jsonProperty name => "@JsonProperty(\"" ++ name ++ "\")"
  | custom name => "@" ++ name

/-- A member of the class. -/
structure Field where
  name : String
  /-- The declared type. -/
  type : String
  documentation : String := ""
  /-- The annotations in the order in which they were attached. -/
  annotations : List Annotation := []
  deriving DecidableEq, Repr

namespace Field

/-- Whether an annotation is attached. -/
def has (f : Field) (a : Annotation) : Bool :=
  f.annotations.contains a

/-- Attaches an annotation that is not attached yet, and says whether it was not. -/
def annotate (f : Field) (a : Annotation) : Field × Bool :=
  if f.has a then (f, false) else ({ f with annotations := f.annotations ++ [a] }, true)

/-- Adds to the end of the documentation. -/
def document (f : Field) (text : String) : Field :=
  { f with documentation := f.documentation ++ text }

/-- Attaches annotations one after the other. -/
def annotateAll (f : Field) (annotations : List Annotation) : Field :=
  annotations.foldl (fun f a => (f.annotate a).1) f

theorem annotate_attached (f : Field) (a : Annotation) : (f.annotate a).2 = !f.has a := by
  unfold annotate
  split <;> simp_all

@[simp] theorem name_annotate (f : Field) (a : Annotation) : (f.annotate a).1.name = f.name := by
  unfold annotate
  split <;> rfl

@[simp] theorem name_document (f : Field) (text : String) : (f.document text).name = f.name := rfl

theorem nodup_annotate {f : Field} (h : f.annotations.Nodup) (a : Annotation) :
    (f.annotate a).1.annotations.Nodup := by
  unfold annotate
  split
  · exact h
  · next ha =>
    simp only [has, List.contains_iff_mem] at ha
    exact List.nodup_append.2 ⟨h, by simp, fun x hx y hy => by
      simp only [List.mem_singleton] at hy
      rintro rfl
      exact ha (hy ▸ hx)⟩

/-- Whether two fields are equal, the order of annotations aside. -/
def same (f g : Field) : Bool :=
  f.name == g.name && f.type == g.type && f.documentation == g.documentation
    && f.annotations.length == g.annotations.length && f.annotations.all g.has

end Field

/-- The class under construction. -/
structure Model where
  name : String
  /-- The fields in the order of their declaration. -/
  fields : List Field := []
  deriving DecidableEq, Repr

namespace Model

/-- The names of the fields in order. -/
def fieldNames (m : Model) : List String :=
  m.fields.map (·.name)

/-- Neither a field name nor an annotation of a field comes twice. -/
structure WellFormed (m : Model) : Prop where
  nodup_names : m.fieldNames.Nodup
  nodup_annotations : ∀ f ∈ m.fields, f.annotations.Nodup

/-- The field of a name. -/
def field? (m : Model) (name : String) : Option Field :=
  m.fields.find? (·.name = name)

/-- Adds a field at the end if its name is new, and says whether it is. -/
def addField (m : Model) (f : Field) : Model × Bool :=
  if (m.field? f.name).isSome then (m, false) else ({ m with fields := m.fields ++ [f] }, true)

/-- Changes the field of a name, if there is one. -/
def modifyField (m : Model) (name : String) (change : Field → Field) : Model :=
  { m with fields := m.fields.map fun f => if f.name = name then change f else f }

theorem field?_isSome_iff (m : Model) (name : String) :
    (m.field? name).isSome ↔ name ∈ m.fieldNames := by
  simp [field?, fieldNames, List.find?_isSome]

theorem addField_added (m : Model) (f : Field) :
    (m.addField f).2 = true ↔ f.name ∉ m.fieldNames := by
  rw [← field?_isSome_iff]
  unfold addField
  split <;> simp_all

theorem WellFormed.addField {m : Model} (h : m.WellFormed) {f : Field}
    (hf : f.annotations.Nodup) : (m.addField f).1.WellFormed := by
  unfold Model.addField
  split
  · exact h
  · next hn =>
    rw [field?_isSome_iff] at hn
    refine ⟨?_, ?_⟩
    · simp only [fieldNames, List.map_append, List.map_cons, List.map_nil]
      exact List.nodup_append.2 ⟨h.nodup_names, by simp, fun x hx y hy => by
        simp only [List.mem_singleton] at hy
        rintro rfl
        exact hn (hy ▸ hx)⟩
    · intro g hg
      simp only [List.mem_append, List.mem_singleton] at hg
      rcases hg with hg | rfl
      · exact h.nodup_annotations g hg
      · exact hf

theorem fieldNames_modifyField (m : Model) (name : String) {change : Field → Field}
    (hc : ∀ f, (change f).name = f.name) :
    (m.modifyField name change).fieldNames = m.fieldNames := by
  simp only [fieldNames, modifyField, List.map_map]
  congr 1
  funext f
  simp only [Function.comp_apply]
  split <;> simp [hc]

theorem WellFormed.modifyField {m : Model} (h : m.WellFormed) (name : String)
    {change : Field → Field} (hc : ∀ f, (change f).name = f.name)
    (ha : ∀ f : Field, f.annotations.Nodup → (change f).annotations.Nodup) :
    (m.modifyField name change).WellFormed := by
  refine ⟨by rw [fieldNames_modifyField m name hc]; exact h.nodup_names, ?_⟩
  intro g hg
  simp only [Model.modifyField, List.mem_map] at hg
  obtain ⟨f, hf, rfl⟩ := hg
  split
  · exact ha f (h.nodup_annotations f hf)
  · exact h.nodup_annotations f hf

/-- The first field whose name an earlier field has. -/
def firstDuplicate? : List Field → Option Field
  | fields => go [] fields
where
  /-- Goes on after fields with these names. -/
  go (seen : List String) : List Field → Option Field
    | [] => none
    | f :: rest => if f.name ∈ seen then some f else go (f.name :: seen) rest

/-- The model with these fields, or the first field whose name comes again. -/
def ofFields (name : String) (fields : List Field) : Except Field Model :=
  match firstDuplicate? fields with
  | some f => .error f
  | none => .ok ⟨name, fields⟩

/-- Whether two models are equal, the order of fields and annotations aside. -/
def same (m n : Model) : Bool :=
  m.name == n.name && m.fields.length == n.fields.length
    && m.fields.all fun f =>
      match n.field? f.name with
      | some g => f.same g
      | none => false

end Model

end SchemaRules
