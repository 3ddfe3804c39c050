import SchemaRules.Model.Format
import SchemaRules.Proofs.Json.Gathering
import SchemaRules.Proofs.Json.Results

/-!
# Reading a model back

A model that is written is read back as it was. Nothing is lost on the way if neither a field name
nor an annotation comes twice: an annotation that came again would be attached once, and a field
name that came again is refused.

* `Field.annotateAll_of_nodup`, `Model.firstDuplicate?_eq_none_iff`: what reading does to a field
  and to a model after the text.
* `Annotation.reads`, `Field.reads`, `Model.reads`: what spells each of them is read as it.
* `Model.read_of_spells`: a whole text.
* `Model.read_compact_and_pretty`: the two texts that are written.
* `Model.wellFormed_of_read`: whatever the text, what is read is well-formed.
-/

namespace SchemaRules

open Json (Reads Spells)

/-! ## Annotations -/

namespace Annotation

theorem reads {a : Annotation} {text : List Char} (h : Spells a.toValue text) :
    Reads Annotation.reader text a := by
  cases a with
  | jsonIgnore =>
    exact Json.variant_reads_bare rfl rfl (Json.spells_string.1 h)
  | jsonProperty name =>
    exact Json.variant_reads_spelled rfl (fun _ ht => (Json.string_reads_spelled ht).map jsonProperty) h
  | custom name =>
    exact Json.variant_reads_spelled rfl (fun _ ht => (Json.string_reads_spelled ht).map custom) h

end Annotation

/-! ## Fields -/

namespace Field

/-- Annotations of which none comes twice are all attached, in their order. -/
theorem annotateAll_of_nodup (f : Field) (as : List Annotation)
    (h : (f.annotations ++ as).Nodup) :
    f.annotateAll as = { f with annotations := f.annotations ++ as } := by
  induction as generalizing f with
  | nil => simp [annotateAll]
  | cons a as ih =>
    rw [List.append_cons] at h
    have hnew : a ∉ f.annotations := by
      have := (List.nodup_append.1 (List.nodup_append.1 h).1).2.2
      exact fun ha => this a ha a List.mem_cons_self rfl
    have hfirst : (f.annotate a).1 = { f with annotations := f.annotations ++ [a] } := by
      simp [annotate, has, hnew]
    have hall : f.annotateAll (a :: as) = (f.annotate a).1.annotateAll as := rfl
    rw [hall, hfirst, ih _ h]
    simp

theorem toField_of_nodup {f : Field} (h : f.annotations.Nodup) :
    Draft.toField ⟨f.name, f.type, f.documentation, f.annotations⟩ = f :=
  annotateAll_of_nodup ⟨f.name, f.type, f.documentation, []⟩ f.annotations h

theorem reads {f : Field} (hnodup : f.annotations.Nodup) {text : List Char}
    (h : Spells f.toValue text) : Reads Field.reader text f := by
  have hfills : layout.Fills {}
      [("name", .string f.name), ("type", .string f.type),
        ("javadoc", .string f.documentation),
        ("annotations", .array (f.annotations.map Annotation.toValue))]
      ⟨f.name, f.type, f.documentation, f.annotations⟩ :=
    .cons rfl rfl (fun _ ht => (Json.string_reads_spelled ht).map _) <|
    .cons rfl rfl (fun _ ht => (Json.string_reads_spelled ht).map _) <|
    .cons rfl rfl (fun _ ht => (Json.string_reads_spelled ht).map _) <|
    .cons rfl rfl (fun _ ht => (Json.listOf_reads_spelled (fun a _ _ => a.reads) ht).map _) .nil
  have hrecord := (Json.record_reads_spelled hfills rfl h).map Draft.toField
  rwa [toField_of_nodup hnodup] at hrecord

end Field

/-! ## Models -/

namespace Model

theorem firstDuplicate?.go_eq_none_iff (seen : List String) (fields : List Field) :
    firstDuplicate?.go seen fields = none ↔
      (fields.map (·.name)).Nodup ∧ ∀ f ∈ fields, f.name ∉ seen := by
  induction fields generalizing seen with
  | nil => simp [firstDuplicate?.go]
  | cons f fields ih =>
    simp only [firstDuplicate?.go]
    split
    · next hseen => simp [hseen]
    · next hnew =>
      rw [ih]
      simp only [List.map_cons, List.nodup_cons, List.mem_map, List.mem_cons, not_or]
      grind

theorem firstDuplicate?_eq_none_iff (fields : List Field) :
    firstDuplicate? fields = none ↔ (fields.map (·.name)).Nodup := by
  rw [firstDuplicate?, firstDuplicate?.go_eq_none_iff]
  simp

theorem toModel_of_wellFormed {m : Model} (h : m.WellFormed) :
    Draft.toModel ⟨m.name, m.fields⟩ = .ok m := by
  have hnone := (firstDuplicate?_eq_none_iff m.fields).2 h.nodup_names
  simp [Draft.toModel, ofFields, hnone, Except.mapError]

theorem reads {m : Model} (hnodup : ∀ f ∈ m.fields, f.annotations.Nodup) {text : List Char}
    (h : Spells m.toValue text) : Reads (Json.record layout) text ⟨m.name, m.fields⟩ := by
  have hfills : layout.Fills {}
      [("name", .string m.name), ("fields", .array (m.fields.map Field.toValue))]
      ⟨m.name, m.fields⟩ :=
    .cons rfl rfl (fun _ ht => (Json.string_reads_spelled ht).map _) <|
    .cons rfl rfl (fun _ ht =>
      (Json.listOf_reads_spelled (fun f hf _ => f.reads (hnodup f hf)) ht).map _) .nil
  exact Json.record_reads_spelled hfills rfl h

/-- A text that spells a well-formed model is read as the model. -/
theorem read_of_spells {m : Model} (h : m.WellFormed) {source : String}
    (hspells : Spells m.toValue source.toList) : read source = .ok m := by
  obtain ⟨short, hrecord⟩ := (reads h.nodup_annotations hspells).alone
  simp only [read, hrecord, toModel_of_wellFormed h]
  rfl

/-- A well-formed model is read back from its compact and from its pretty text. -/
theorem read_compact_and_pretty {m : Model} (h : m.WellFormed) :
    read m.compact = .ok m ∧ read m.pretty = .ok m := by
  constructor
  · refine read_of_spells h ?_
    rw [compact, Json.Value.compact, String.toList_ofList]
    exact Json.spells_print m.toValue
  · refine read_of_spells h ?_
    rw [pretty, Json.Value.pretty, String.toList_ofList]
    exact Json.spells_printPretty 0 m.toValue

/-- A model with texts that have to be escaped. -/
def escaped : Model where
  name := "Größe \"1\""
  fields :=
    [⟨"a\\b", "List<int>", "first\nsecond\ttab", [.jsonProperty "\x01", .jsonIgnore]⟩,
     ⟨"", "\x7b\x7d[],:", "", [.custom "", .custom "\u2028", .jsonProperty "😀/"]⟩]

theorem read_compact_and_pretty_escaped :
    escaped.WellFormed ∧ read escaped.compact = .ok escaped ∧ read escaped.pretty = .ok escaped := by
  have h : escaped.WellFormed := ⟨by decide, by decide⟩
  exact ⟨h, read_compact_and_pretty h⟩

end Model

/-! ## What is read -/

theorem Field.nodup_annotateAll {f : Field} (h : f.annotations.Nodup) (as : List Annotation) :
    (f.annotateAll as).annotations.Nodup := by
  induction as generalizing f with
  | nil => exact h
  | cons a as ih => exact ih (nodup_annotate h a)

theorem Field.reader_gives : Json.Gives Field.reader fun f => f.annotations.Nodup :=
  .map Draft.toField <| .of_forall fun _ => nodup_annotateAll List.nodup_nil _

namespace Model

theorem layout_gives :
    Json.Gives (Json.record layout) fun d => ∀ f ∈ d.fields.getD [], f.annotations.Nodup := by
  refine Json.record_gives (by simp [layout]) ?_
  intro slot hslot draft hdraft
  simp only [layout, List.mem_cons, List.not_mem_nil, or_false] at hslot
  rcases hslot with rfl | rfl
  · exact .map _ <| .of_forall fun _ => hdraft
  · exact .map _ <| Json.listOf_gives Field.reader_gives _

/-- What a draft describes has its fields, and no name comes twice. -/
theorem fields_of_toModel {d : Draft} {m : Model} (h : d.toModel = .ok m) :
    m.fields = d.fields.getD [] ∧ m.fieldNames.Nodup := by
  simp only [Draft.toModel, ofFields] at h
  cases hdup : firstDuplicate? (d.fields.getD []) with
  | some f => simp [hdup, Except.mapError] at h
  | none =>
    simp only [hdup, Except.mapError, Except.ok.injEq] at h
    subst h
    exact ⟨rfl, (firstDuplicate?_eq_none_iff _).1 hdup⟩

/-- What is read is well-formed. -/
theorem wellFormed_of_read {source : String} {m : Model} (h : read source = .ok m) :
    m.WellFormed := by
  cases hrecord : Json.record layout source.toList with
  | error e => simp [read, hrecord] at h
  | ok st =>
    cases hmodel : st.value.toModel with
    | error e => simp [read, hrecord, hmodel] at h
    | ok m' =>
      have hsame : m' = m := by
        cases hrest : Json.skipBlank st.rest with
        | nil => simpa [read, hrecord, hmodel, hrest] using h
        | cons c rest => simp [read, hrecord, hmodel, hrest] at h
      obtain ⟨hfields, hnames⟩ := fields_of_toModel (hsame ▸ hmodel)
      have hgiven := layout_gives _ st hrecord
      exact ⟨hnames, fun f hf => hgiven f (hfields ▸ hf)⟩

end Model

end SchemaRules
