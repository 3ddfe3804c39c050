import Mathlib.Data.List.TakeWhile
import SchemaRules.Proofs.Changes
import SchemaRules.Proofs.Json.Records

/-!
# Every way to write a model

A model and each of its fields may be written as an object or as a list, whichever of the two the
others are. An object may have its keys in any order and others among them, what is empty may be
left out, and an annotation may come again. All of these texts are read as one model, in which each
annotation stands once, where it came first.

* `Annotation.Writes`, `Field.Writes`, `Model.Writes`: the texts.
* `Annotation.reads_written`, `Field.reads_written`, `Model.reads_written`: each is read as one.
* `Model.read_of_writes`: a whole text.
-/

namespace SchemaRules

open Json (Blank Column EntryPart Held Literal Reads WritesList WritesRecord)

/-! ## Annotations -/

namespace Annotation

/-- A text writes an annotation: the name alone, if the annotation carries nothing, or an object
with the name for its only key. -/
inductive Writes : Annotation → List Char → Prop where
  | bare {text : List Char} (h : Literal "JsonIgnore" text) : Writes .jsonIgnore text
  | ignore {part body : List Char} (hpart : EntryPart "JsonIgnore" ['n', 'u', 'l', 'l'] part)
      (hheld : Held '\x7d' true [part] body) : Writes .jsonIgnore ('\x7b' :: body)
  | property {name : String} {text part body : List Char} (htext : Literal name text)
      (hpart : EntryPart "JsonProperty" text part) (hheld : Held '\x7d' true [part] body) :
      Writes (.jsonProperty name) ('\x7b' :: body)
  | custom {name : String} {text part body : List Char} (htext : Literal name text)
      (hpart : EntryPart "Custom" text part) (hheld : Held '\x7d' true [part] body) :
      Writes (.custom name) ('\x7b' :: body)

theorem reads_written {a : Annotation} {text : List Char} (h : a.Writes text) :
    Reads Annotation.reader text a := by
  cases h with
  | bare h => exact Json.variant_reads_bare rfl rfl h
  | ignore hpart hheld =>
    exact Json.variant_reads_object rfl hpart hheld (Json.unit_reads.map fun _ => jsonIgnore)
  | property htext hpart hheld =>
    exact Json.variant_reads_object rfl hpart hheld ((Json.string_reads htext).map jsonProperty)
  | custom htext hpart hheld =>
    exact Json.variant_reads_object rfl hpart hheld ((Json.string_reads htext).map custom)

end Annotation

/-! ## Fields -/

namespace Field

/-- The fields of a field's record. -/
def columns (f : Field) : List Column :=
  [⟨"name", False, Literal f.name⟩, ⟨"type", False, Literal f.type⟩,
   ⟨"javadoc", f.documentation = "", Literal f.documentation⟩,
   ⟨"annotations", f.annotations = [], WritesList Annotation.Writes f.annotations⟩]

/-- A text writes a field with the annotations in the order in which it has them. -/
def Writes (f : Field) (text : List Char) : Prop :=
  WritesRecord f.columns text

/-- A field of which some keys have been read. -/
def draft (f : Field) (seen : List String) : Draft where
  name := if "name" ∈ seen then some f.name else none
  type := if "type" ∈ seen then some f.type else none
  documentation := if "javadoc" ∈ seen then some f.documentation else none
  annotations := if "annotations" ∈ seen then some f.annotations else none

theorem annotations_reads {as : List Annotation} {text : List Char}
    (h : WritesList Annotation.Writes as text) :
    Reads (Json.listOf "a set" Annotation.reader) text as := by
  rw [← List.map_id as]
  exact Json.listOf_reads_written (fun _ _ ha => Annotation.reads_written ha) h

theorem layout_takes (f : Field) : layout.Takes f.columns f.draft := by
  refine ⟨rfl, .cons ?_ <| .cons ?_ <| .cons ?_ <| .cons ?_ .nil⟩
  · refine .of_reads False.elim (fun _ => isSome_ite _ _) (fun _ h => Json.string_reads h) ?_
    intro seen
    simp [draft]
  · refine .of_reads False.elim (fun _ => isSome_ite _ _) (fun _ h => Json.string_reads h) ?_
    intro seen
    simp [draft]
  · refine .of_reads (fun _ => rfl) (fun _ => isSome_ite _ _) (fun _ h => Json.string_reads h) ?_
    intro seen
    simp [draft]
  · refine .of_reads (fun _ => rfl) (fun _ => isSome_ite _ _)
      (fun _ h => annotations_reads h) ?_
    intro seen
    simp [draft]

/-- Attaching annotations leaves everything else as it is. -/
theorem annotateAll_eq (f : Field) (as : List Annotation) :
    f.annotateAll as = { f with annotations := (f.annotateAll as).annotations } := by
  induction as generalizing f with
  | nil => rfl
  | cons a as ih =>
    have hfirst : (f.annotate a).1 = { f with annotations := (f.annotate a).1.annotations } := by
      unfold annotate
      split <;> rfl
    have hall : f.annotateAll (a :: as) = (f.annotate a).1.annotateAll as := rfl
    rw [hall, ih]
    generalize ((f.annotate a).1.annotateAll as).annotations = found
    rw [hfirst]

/-- What was left out is empty, so nothing is lost with it. -/
theorem toField_draft (f : Field) {seen : List String}
    (hseen : ∀ column ∈ f.columns, column.key ∈ seen ∨ column.omissible) :
    (f.draft seen).toField = { f with annotations := f.annotations.eraseDups } := by
  simp only [columns, List.forall_mem_cons, or_false] at hseen
  obtain ⟨hname, htype, hdocumentation, hannotations, -⟩ := hseen
  simp only [Draft.toField, draft, getD_ite (.inl hname), getD_ite (.inl htype),
    getD_ite hdocumentation, getD_ite hannotations]
  have hblank : (Field.mk f.name f.type f.documentation []).annotations =
      ([] : List Annotation).eraseDups := rfl
  rw [annotateAll_eq, annotations_annotateAll hblank]
  rfl

theorem reads_written {f : Field} {text : List Char} (h : f.Writes text) :
    Reads Field.reader text { f with annotations := f.annotations.eraseDups } := by
  have hkeys : (f.columns.map Column.key).Nodup := by
    show ["name", "type", "javadoc", "annotations"].Nodup
    decide
  obtain ⟨seen, hseen, hread⟩ := Json.record_reads_written f.layout_takes hkeys h
  rw [← f.toField_draft hseen]
  exact hread.map Draft.toField

end Field

/-! ## Models -/

namespace Model

/-- The fields of a model's record. -/
def columns (m : Model) : List Column :=
  [⟨"name", False, Literal m.name⟩, ⟨"fields", m.fields = [], WritesList Field.Writes m.fields⟩]

/-- A text writes a model, between blanks. -/
def Writes (m : Model) (text : List Char) : Prop :=
  ∃ w record w', Blank w ∧ Blank w' ∧ WritesRecord m.columns record ∧ text = w ++ (record ++ w')

/-- A model of which some keys have been read. -/
def draft (m : Model) (seen : List String) : Draft where
  name := if "name" ∈ seen then some m.name else none
  fields := if "fields" ∈ seen then some m.fields else none

/-- Every field with each of its annotations once, where it came first. -/
def onceAnnotated (m : Model) : Model :=
  { m with fields := m.fields.map fun f => { f with annotations := f.annotations.eraseDups } }

theorem layout_takes (m : Model) : layout.Takes m.columns m.onceAnnotated.draft := by
  refine ⟨rfl, .cons ?_ <| .cons ?_ .nil⟩
  · refine .of_reads False.elim (fun _ => isSome_ite _ _) (fun _ h => Json.string_reads h) ?_
    intro seen
    simp [draft, onceAnnotated]
  · refine .of_reads (fun _ => rfl) (fun _ => isSome_ite _ _)
      (fun _ h => Json.listOf_reads_written (fun _ _ hf => Field.reads_written hf) h) ?_
    intro seen
    simp [draft, onceAnnotated]

theorem reads_written {m : Model} {text : List Char} (h : WritesRecord m.columns text) :
    ∃ d, Reads (Json.record layout) text d ∧
      d.name.getD "" = m.name ∧ d.fields.getD [] = m.onceAnnotated.fields := by
  have hkeys : (m.columns.map Column.key).Nodup := by
    show ["name", "fields"].Nodup
    decide
  obtain ⟨seen, hseen, hread⟩ := Json.record_reads_written m.layout_takes hkeys h
  simp only [columns, List.forall_mem_cons, or_false] at hseen
  obtain ⟨hname, hfields, -⟩ := hseen
  refine ⟨_, hread, getD_ite (.inl hname), getD_ite (hfields.imp_right fun hnone => ?_)⟩
  rw [onceAnnotated, hnone, List.map_nil]

/-- A text that writes a model, in whatever way, is read as the model. Only a field name must not
come twice. -/
theorem read_of_writes {m : Model} (hnames : m.fieldNames.Nodup) {source : String}
    (h : m.Writes source.toList) :
    read source =
      .ok ⟨m.name, m.fields.map fun f => { f with annotations := f.annotations.eraseDups }⟩ := by
  obtain ⟨w, record, w', hw, hw', hrecord, htext⟩ := h
  obtain ⟨d, hreads, hname, hfields⟩ := reads_written hrecord
  have hread := hreads.yields w w' hw (.blank hw')
  rw [← htext] at hread
  obtain ⟨_, hread⟩ := hread
  have hwell : m.onceAnnotated.fieldNames.Nodup := by
    simpa [fieldNames, onceAnnotated, Function.comp_def] using hnames
  have hmodel : d.toModel = .ok m.onceAnnotated := by
    have hnone := (firstDuplicate?_eq_none_iff _).2 hwell
    rw [Draft.toModel, hname, hfields, ofFields, hnone]
    rfl
  have hend : Json.skipBlank w' = [] := List.dropWhile_eq_nil_iff.2 hw'
  simp only [read, hread, hmodel, hend]
  rfl

/-! ### A mixed text

The model is an object in which a key that nobody asks for comes twice. The first field is a list,
with an escape in its name, and the second one an object that begins with its annotations. -/

/-- A model whose second field is given an annotation again. -/
def mixed : Model where
  name := "M"
  fields := [⟨"ab", "int", "", []⟩, ⟨"f", "T", "", [.jsonIgnore, .custom "c", .jsonIgnore]⟩]

def mixedFirst : List Char :=
  "[\"a\\u0062\",\"int\"]".toList

def mixedAnnotations : List Char :=
  "[\"JsonIgnore\",\x7b\"Custom\":\"c\"\x7d,\"JsonIgnore\"]".toList

def mixedSecond : List Char :=
  "\x7b\"annotations\":".toList ++
    (mixedAnnotations ++ ",\"type\":\"T\",\"x\":-1.5e3,\"name\":\"f\"\x7d".toList)

def mixedText : List Char :=
  " \x7b\"x\":[null],\"fields\":[".toList ++
    (mixedFirst ++ ',' :: (mixedSecond ++ "],\"x\":true,\"name\":\"M\"\x7d\n".toList))

theorem writes_mixedFirst : Field.Writes ⟨"ab", "int", "", []⟩ mixedFirst := by
  have hcode : Json.Letter 'b' ['\\', 'u', '0', '0', '6', '2'] :=
    show Json.Letter (Char.ofNat 98) _ from .code ⟨'0', '0', '6', '2', rfl, by decide⟩ (by decide)
  have hname : Literal "ab" "\"a\\u0062\"".toList :=
    ⟨[['a'], ['\\', 'u', '0', '0', '6', '2']],
      .cons (.plain (by decide) (by decide) (by decide)) (.cons hcode .nil), rfl⟩
  exact .list (.cons hname (.cons (Json.literal_quote "int") (.nil (by simp))))
    (Json.held_compact ']' _)

theorem writes_mixedAnnotations :
    WritesList Annotation.Writes [.jsonIgnore, .custom "c", .jsonIgnore] mixedAnnotations := by
  have hignore : Annotation.Writes .jsonIgnore (Json.quote "JsonIgnore") :=
    .bare (Json.literal_quote "JsonIgnore")
  have hcustom : Annotation.Writes (.custom "c") "\x7b\"Custom\":\"c\"\x7d".toList :=
    .custom (Json.literal_quote "c") (Json.entryPart_quote "Custom" .nil _)
      (Json.held_compact '\x7d' _)
  exact ⟨_, _, .cons hignore (.cons hcustom (.cons hignore .nil)), Json.held_compact ']' _, rfl⟩

theorem writes_mixedSecond :
    Field.Writes ⟨"f", "T", "", [.jsonIgnore, .custom "c", .jsonIgnore]⟩ mixedSecond := by
  have hunknown : Json.IsValue "-1.5e3".toList :=
    .negative ⟨['1'], ['.', '5'], ['e', '3'], by decide, .digits (by decide),
      .digits (by decide : Json.isExponentMark 'e' = true) (by decide : [] ∈ _) (by decide), rfl⟩
  have hgives : Json.GivesFields
      (Field.columns ⟨"f", "T", "", [.jsonIgnore, .custom "c", .jsonIgnore]⟩)
      [("annotations", mixedAnnotations), ("type", Json.quote "T"), ("x", "-1.5e3".toList),
        ("name", Json.quote "f")] := {
    once := by decide
    known := by
      simpa [Field.columns] using
        ⟨writes_mixedAnnotations, Json.literal_quote "T", Json.literal_quote "f"⟩
    unknown := by simpa [Field.columns] using hunknown
    complete := by simp [Field.columns] }
  exact .object hgives (List.forall₂_map_right_iff.2 (List.forall₂_same.2 fun e _ =>
    Json.entryPart_quote e.1 .nil e.2)) (Json.held_compact '\x7d' _)

theorem writes_mixed : mixed.Writes mixedText := by
  have hfields : WritesList Field.Writes mixed.fields
      ('[' :: (mixedFirst ++ ',' :: (mixedSecond ++ [']']))) :=
    ⟨_, _, .cons writes_mixedFirst (.cons writes_mixedSecond .nil), Json.held_compact ']' _, rfl⟩
  have hunknown : Json.IsValue "[null]".toList :=
    .array (List.forall_mem_singleton.2 .null) (Json.held_compact ']' _)
  have hgives : Json.GivesFields mixed.columns
      [("x", "[null]".toList), ("fields", '[' :: (mixedFirst ++ ',' :: (mixedSecond ++ [']']))),
        ("x", "true".toList), ("name", Json.quote "M")] := {
    once := by decide
    known := by simpa [columns] using ⟨hfields, Json.literal_quote "M"⟩
    unknown := by simpa [columns] using ⟨hunknown, .isTrue⟩
    complete := by simp [columns] }
  refine ⟨[' '], _, ['\n'], by decide, by decide, .object hgives (List.forall₂_map_right_iff.2
    (List.forall₂_same.2 fun e _ => Json.entryPart_quote e.1 .nil e.2))
    (Json.held_compact '\x7d' _), rfl⟩

theorem read_of_writes_mixed :
    (mixed.fieldNames.Nodup ∧ mixed.Writes (String.ofList mixedText).toList) ∧
      read (String.ofList mixedText) =
        .ok ⟨"M", [⟨"ab", "int", "", []⟩, ⟨"f", "T", "", [.jsonIgnore, .custom "c"]⟩]⟩ := by
  have hnames : mixed.fieldNames.Nodup := by decide
  have hwrites : mixed.Writes (String.ofList mixedText).toList := by
    rw [String.toList_ofList]
    exact writes_mixed
  exact ⟨⟨hnames, hwrites⟩, read_of_writes hnames hwrites⟩

end Model

end SchemaRules
