import SchemaRules.Proofs.KeyedModel
import SchemaRules.Proofs.ModelText

/-!
# Changes to a model

A model starts empty or is read from a text. From there fields are added, looked up, annotated and
documented, rules are run, and the model is written and read back. In whatever order these come,
none of them fails once the model is there. Keys of the map stay apart, each at the name of its
field, and keys and annotations stand in the order in which they first came.

* `Change`, `Model.step`, `KeyedModel.step`: a change to a model, and to the model as a map.
* `Model.step_eq`, `KeyedModel.step_eq`: what a change does to a well-formed model.
* `Change.wellFormed_apply`, `Change.fieldNames_apply`, `Change.annotationsOf_apply`: what one
  change keeps.
* `exists_runChanges`: what changes one after the other keep.
* `runChanges_orderly`: the whole, from where a model starts.
-/

namespace SchemaRules

/-! ## First occurrences -/

theorem eraseDups_concat {α : Type} [DecidableEq α] (l : List α) (a : α) :
    (l ++ [a]).eraseDups = if a ∈ l then l.eraseDups else l.eraseDups ++ [a] := by
  rw [List.eraseDups_append]
  by_cases h : a ∈ l
  · simp [List.removeAll, h]
  · simp [List.removeAll, h, List.eraseDups_cons]

theorem eraseDups_of_nodup {α : Type} [DecidableEq α] {l : List α} (h : l.Nodup) :
    l.eraseDups = l := by
  induction l with
  | nil => rfl
  | cons a l ih =>
    obtain ⟨hnew, hl⟩ := List.nodup_cons.1 h
    have hkept : l.filter (fun b => !b == a) = l := by
      refine List.filter_eq_self.2 fun b hb => ?_
      have hne : b ≠ a := fun hba => hnew (hba ▸ hb)
      simp [hne]
    rw [List.eraseDups_cons, hkept, ih hl]

/-! ## Fields -/

namespace Field

/-- A field as it is built: its annotations are attached one after the other. -/
def ofParts (name type documentation : String) (annotations : List Annotation) : Field :=
  annotateAll ⟨name, type, documentation, []⟩ annotations

theorem name_annotateAll (f : Field) (as : List Annotation) : (f.annotateAll as).name = f.name := by
  induction as generalizing f with
  | nil => rfl
  | cons a as ih => exact (ih _).trans (f.name_annotate a)

theorem name_ofParts (name type documentation : String) (annotations : List Annotation) :
    (ofParts name type documentation annotations).name = name :=
  name_annotateAll _ _

section

variable {f : Field} {given : List Annotation}

/-- A field that has the first occurrences of what it was given still has them after one more. -/
theorem annotations_annotate (h : f.annotations = given.eraseDups) (a : Annotation) :
    (f.annotate a).1.annotations = (given ++ [a]).eraseDups := by
  rw [eraseDups_concat, annotate, has, h]
  by_cases ha : a ∈ given <;> simp [ha, h]

theorem annotations_annotateAll (h : f.annotations = given.eraseDups) (as : List Annotation) :
    (f.annotateAll as).annotations = (given ++ as).eraseDups := by
  induction as generalizing f given with
  | nil => rwa [List.append_nil]
  | cons a as ih =>
    rw [List.append_cons]
    exact ih (annotations_annotate h a)

theorem annotations_marked (h : f.annotations = given.eraseDups) (n : Nat) :
    (f.marked n).annotations = (given ++ List.replicate n Annotation.jsonIgnore).eraseDups := by
  induction n generalizing f given with
  | zero => rwa [Suppression.marked_zero, List.replicate_zero, List.append_nil]
  | succ n ih =>
    have hmark := annotations_annotate (f := f.document Suppression.note) h .jsonIgnore
    rw [← Suppression.marked_markField, List.replicate_succ, List.append_cons]
    exact ih hmark

end

end Field

namespace Model

variable {m : Model}

/-- The annotations of the field of a name. -/
def annotationsOf (m : Model) (name : String) : Option (List Annotation) :=
  (m.field? name).map (·.annotations)

/-- A field is found where it was if all fields keep their names. -/
theorem field?_map (m : Model) {change : Field → Field} (hc : ∀ f, (change f).name = f.name)
    (name : String) :
    Model.field? { m with fields := m.fields.map change } name = (m.field? name).map change := by
  simp only [field?, List.find?_map]
  congr 2
  funext f
  simp [hc]

/-- The annotations of a field are known after a change to all fields if the change is known on
what each of them was given. -/
theorem annotationsOf_map {name : String} {before : Option (List Annotation)}
    (h : m.annotationsOf name = before.map List.eraseDups) {change : Field → Field}
    (hc : ∀ f, (change f).name = f.name) {give : List Annotation → List Annotation}
    (hgive : ∀ f l, f.name = name → f.annotations = l.eraseDups →
      (change f).annotations = (give l).eraseDups) :
    Model.annotationsOf { m with fields := m.fields.map change } name
      = (before.map give).map List.eraseDups := by
  rw [annotationsOf] at h
  rw [annotationsOf, field?_map m hc]
  cases hf : m.field? name with
  | none =>
    rw [hf, Option.map_none] at h
    rw [Option.map_eq_none_iff.1 h.symm]
    rfl
  | some f =>
    rw [hf, Option.map_some] at h
    obtain ⟨l, rfl, hl⟩ := Option.map_eq_some_iff.1 h.symm
    simp only [Option.map_some, hgive f l (name_of_field? hf) hl.symm]

theorem fieldNames_addField (m : Model) (f : Field) :
    (m.addField f).1.fieldNames = m.fieldNames ++ if (m.addField f).2 then [f.name] else [] := by
  unfold addField
  split <;> simp [fieldNames]

theorem field?_addField (m : Model) (f : Field) (name : String) :
    (m.addField f).1.field? name = (m.field? name).or (if f.name = name then some f else none) := by
  unfold addField
  split
  · next hsome =>
    by_cases hname : f.name = name
    · subst hname
      obtain ⟨g, hg⟩ := Option.isSome_iff_exists.1 hsome
      simp [hg]
    · simp [hname]
  · next hnone =>
    simp only [field?, List.find?_append]
    by_cases hname : f.name = name <;> simp [hname]

/-- The text of a model, pretty or compact. -/
def text (m : Model) (asPretty : Bool) : String :=
  if asPretty then m.pretty else m.compact

theorem read_text (h : m.WellFormed) (asPretty : Bool) : read (m.text asPretty) = .ok m := by
  refine read_of_spells h ?_
  cases asPretty with
  | false =>
    rw [text, if_neg Bool.false_ne_true, compact, Json.Value.compact, String.toList_ofList]
    exact Json.spells_print m.toValue
  | true =>
    rw [text, if_pos rfl, pretty, Json.Value.pretty, String.toList_ofList]
    exact Json.spells_printPretty 0 m.toValue

end Model

/-! ## Changes -/

/-- What may be done to a model. -/
inductive Change where
  /-- Adds a field that is built from these. -/
  | add (name type documentation : String) (annotations : List Annotation)
  /-- Attaches an annotation to the field of a name. -/
  | annotate (field : String) (a : Annotation)
  /-- Adds to the end of the documentation of the field of a name. -/
  | document (field text : String)
  /-- Runs the rule. -/
  | suppress (run : Suppression.Run)
  /-- Writes the model and reads it back. -/
  | reload (asPretty : Bool)

namespace Change

/-- The model after a change, with what the change answers: whether a field was added, or an
annotation attached to a field that was found. A model that is written and read back is to be as
it was. -/
def apply (m : Model) : Change → Model × Option Bool
  | add name type documentation annotations =>
    let added := m.addField (.ofParts name type documentation annotations)
    (added.1, some added.2)
  | annotate field a =>
    (m.modifyField field fun f => (f.annotate a).1, (m.field? field).map fun f => (f.annotate a).2)
  | document field text => (m.modifyField field fun f => f.document text, none)
  | suppress run => (run.apply m, none)
  | reload _ => (m, none)

/-- The name of a field that was added, going by the answer. -/
def accepted : Change → Option Bool → List String
  | add name _ _ _, some true => [name]
  | _, _ => []

/-- All annotations that the field of a name was given so far, in order and as often as they came;
there are none until a field of the name comes. -/
def given (name : String) (before : Option (List Annotation)) : Change →
    Option (List Annotation)
  | add field _ _ annotations => before.or (if field = name then some annotations else none)
  | annotate field a => before.map fun l => if field = name then l ++ [a] else l
  | document _ _ => before
  | suppress run => before.map fun l => l ++ List.replicate (run.hitCount name) .jsonIgnore
  | reload _ => before

end Change

/-- A change to a model. -/
def Model.step (m : Model) : Change → Except Model.ReadError (Model × Option Bool)
  | .reload asPretty => (Model.read (m.text asPretty)).map fun n => (n, none)
  | c => .ok (c.apply m)

/-- A change to a model as a map. -/
def KeyedModel.step (k : KeyedModel) : Change → Except Model.ReadError (KeyedModel × Option Bool)
  | .add name type documentation annotations =>
    let added := k.add (.ofParts name type documentation annotations)
    .ok (added.1, some added.2)
  | .annotate field a =>
    .ok (k.modify field fun f => (f.annotate a).1, (k.field? field).map fun f => (f.annotate a).2)
  | .document field text => .ok (k.modify field fun f => f.document text, none)
  | .suppress run => .ok (k.suppress run, none)
  | .reload asPretty => (KeyedModel.read (k.toModel.text asPretty)).map fun n => (n, none)

/-- Changes one after the other, with their answers. -/
def runChanges {σ ε : Type} (step : σ → Change → Except ε (σ × Option Bool)) (s : σ) :
    List Change → Except ε (σ × List (Option Bool))
  | [] => .ok (s, [])
  | c :: rest =>
    match step s c with
    | .error e => .error e
    | .ok (next, answer) =>
      (runChanges step next rest).map fun last => (last.1, answer :: last.2)

/-! ## One change -/

variable {m : Model}

/-- A change to a well-formed model succeeds, and reading back what was written changes nothing. -/
theorem Model.step_eq (h : m.WellFormed) (c : Change) : m.step c = .ok (c.apply m) := by
  cases c with
  | reload asPretty =>
    rw [step, read_text h]
    rfl
  | _ => rfl

/-- A change does the same to the map of a well-formed model. -/
theorem KeyedModel.step_eq (h : m.WellFormed) (c : Change) :
    m.keyed.step c = .ok ((c.apply m).1.keyed, (c.apply m).2) := by
  cases c with
  | add name type documentation annotations =>
    rw [step, Model.add_keyed]
    rfl
  | annotate field a =>
    have hname : ∀ f : Field, (f.annotate a).1.name = f.name := fun f => f.name_annotate a
    rw [step, Model.modify_keyed h.nodup_names field hname, Model.field?_keyed]
    rfl
  | document field text =>
    have hname : ∀ f : Field, (f.document text).name = f.name := fun f => f.name_document text
    rw [step, Model.modify_keyed h.nodup_names field hname]
    rfl
  | suppress run =>
    rw [step, Model.suppress_keyed run h.nodup_names]
    rfl
  | reload asPretty =>
    rw [step, Model.toModel_keyed, Model.read_eq, Model.read_text h]
    rfl

namespace Change

theorem wellFormed_apply (h : m.WellFormed) (c : Change) : (c.apply m).1.WellFormed := by
  cases c with
  | add name type documentation annotations =>
    exact h.addField (Field.nodup_annotateAll List.nodup_nil annotations)
  | annotate field a =>
    exact h.modifyField field (fun f => f.name_annotate a) fun _ hf => Field.nodup_annotate hf a
  | document field text =>
    exact h.modifyField field (fun f => f.name_document text) fun _ hf => hf
  | suppress run => exact run.wellFormed_apply h
  | reload asPretty => exact h

/-- Names are added at the end, and no other change touches them. -/
theorem fieldNames_apply (m : Model) (c : Change) :
    (c.apply m).1.fieldNames = m.fieldNames ++ c.accepted (c.apply m).2 := by
  cases c with
  | add name type documentation annotations =>
    rw [apply, Model.fieldNames_addField, Field.name_ofParts]
    dsimp only
    cases (m.addField (.ofParts name type documentation annotations)).2 <;> rfl
  | annotate field a =>
    rw [apply, Model.fieldNames_modifyField m field fun f => f.name_annotate a]
    exact (List.append_nil _).symm
  | document field text =>
    rw [apply, Model.fieldNames_modifyField m field fun f => f.name_document text]
    exact (List.append_nil _).symm
  | suppress run =>
    rw [apply, Suppression.Run.fieldNames_apply]
    exact (List.append_nil _).symm
  | reload asPretty => exact (List.append_nil _).symm

/-- A field has the first occurrences of what it was given, also after one more change. -/
theorem annotationsOf_apply {name : String} {before : Option (List Annotation)}
    (h : m.annotationsOf name = before.map List.eraseDups) (c : Change) :
    (c.apply m).1.annotationsOf name = (c.given name before).map List.eraseDups := by
  cases c with
  | add field type documentation annotations =>
    have hblank : (Field.mk field type documentation []).annotations
        = ([] : List Annotation).eraseDups := rfl
    have hbuilt : (Field.ofParts field type documentation annotations).annotations
        = annotations.eraseDups := Field.annotations_annotateAll hblank annotations
    rw [Model.annotationsOf] at h
    rw [apply, Model.annotationsOf, Model.field?_addField, Field.name_ofParts, given, Option.map_or,
      Option.map_or, h]
    by_cases hname : field = name
    · simp [hname, ← hbuilt]
    · simp [hname]
  | annotate field a =>
    refine Model.annotationsOf_map h (fun f => ?_) fun f l hname hl => ?_
    · split
      · exact f.name_annotate a
      · rfl
    · rw [hname]
      by_cases hfield : name = field
      · rw [if_pos hfield, if_pos hfield.symm]
        exact Field.annotations_annotate hl a
      · rw [if_neg hfield, if_neg (Ne.symm hfield)]
        exact hl
  | document field text =>
    have hmap : (m.modifyField field fun f => f.document text).annotationsOf name
        = (before.map fun l => l).map List.eraseDups := by
      refine Model.annotationsOf_map h (fun f => ?_) fun f l _ hl => ?_
      · split <;> rfl
      · split
        · exact hl
        · exact hl
    rwa [Option.map_id'] at hmap
  | suppress run =>
    rw [apply, Suppression.Run.apply_eq]
    refine Model.annotationsOf_map h (fun f => ?_) fun f l hname hl => ?_
    · rfl
    · rw [hname]
      exact Field.annotations_marked hl _
  | reload asPretty => exact h

example : [.annotate "a" .jsonIgnore, .add "a" "T" "" [.jsonIgnore], .annotate "a" (.custom "x"),
      .add "a" "U" "" [], .annotate "a" .jsonIgnore].foldl (given "a") none
    = some [.jsonIgnore, .custom "x", .jsonIgnore] := by
  decide

end Change

/-! ## Changes one after the other -/

/-- The names that changes with these answers added, in order. -/
def acceptedNames (changes : List Change) (answers : List (Option Bool)) : List String :=
  (List.zipWith Change.accepted changes answers).flatten

/-- What changes keep that lead from one model to another. -/
structure Kept (start : Model) (changes : List Change) (answers : List (Option Bool))
    (last : Model) : Prop where
  wellFormed : last.WellFormed
  fieldNames : last.fieldNames = start.fieldNames ++ acceptedNames changes answers
  annotationsOf : ∀ name before, start.annotationsOf name = before.map List.eraseDups →
    last.annotationsOf name = (changes.foldl (Change.given name) before).map List.eraseDups

theorem Kept.nil (h : m.WellFormed) : Kept m [] [] m where
  wellFormed := h
  fieldNames := (List.append_nil _).symm
  annotationsOf := fun _ _ hbefore => hbefore

theorem Kept.cons {c : Change} {rest : List Change} {answers : List (Option Bool)} {last : Model}
    (h : Kept (c.apply m).1 rest answers last) :
    Kept m (c :: rest) ((c.apply m).2 :: answers) last where
  wellFormed := h.wellFormed
  fieldNames := by
    rw [h.fieldNames, Change.fieldNames_apply, List.append_assoc]
    rfl
  annotationsOf := fun name _ hbefore =>
    h.annotationsOf name _ (Change.annotationsOf_apply hbefore c)

/-- Changes to a well-formed model all succeed, lead the model and its map to the same, and keep
what each of them keeps. -/
theorem exists_runChanges (h : m.WellFormed) (changes : List Change) :
    ∃ answers last, runChanges Model.step m changes = .ok (last, answers) ∧
      runChanges KeyedModel.step m.keyed changes = .ok (last.keyed, answers) ∧
      Kept m changes answers last := by
  -- Each change leaves a well-formed model, so the next one has what `step_eq` asks for.
  induction changes generalizing m with
  | nil => exact ⟨[], m, rfl, rfl, .nil h⟩
  | cons c rest ih =>
    obtain ⟨answers, last, hrun, hkeyed, hkept⟩ := ih (c.wellFormed_apply h)
    refine ⟨(c.apply m).2 :: answers, last, ?_, ?_, hkept.cons⟩
    · simp only [runChanges, Model.step_eq h, hrun]
      rfl
    · simp only [runChanges, KeyedModel.step_eq h, hkeyed]
      rfl

/-! ## Where models come from -/

/-- A model starts without fields, or is read. -/
inductive Origin where
  | new (name : String)
  | text (source : String)

namespace Origin

/-- The model to start with, if there is one. -/
def model : Origin → Except Model.ReadError Model
  | new name => .ok ⟨name, []⟩
  | text source => Model.read source

/-- The map to start with, if there is one. -/
def keyed : Origin → Except Model.ReadError KeyedModel
  | new name => .ok ⟨name, []⟩
  | text source => KeyedModel.read source

theorem keyed_eq (o : Origin) : o.keyed = o.model.map Model.keyed := by
  cases o with
  | new name => rfl
  | text source => exact Model.read_eq source

theorem wellFormed {o : Origin} (h : o.model = .ok m) : m.WellFormed := by
  cases o with
  | new name =>
    obtain rfl : Model.mk name [] = m := Except.ok.inj h
    exact ⟨List.nodup_nil, fun f hf => nomatch hf⟩
  | text source => exact Model.wellFormed_of_read h

end Origin

/-- What holds of a model, and of its map, after changes to a model that it started as. -/
structure Orderly (start : Model) (changes : List Change) (answers : List (Option Bool))
    (last : Model) (store : KeyedModel) : Prop where
  /-- The map holds the model. -/
  toModel : store.toModel = last
  /-- Every key is the name of the field under it. -/
  key_eq_name : ∀ e ∈ store.entries, e.1 = e.2.name
  nodup_keys : store.keys.Nodup
  nodup_annotations : ∀ f ∈ last.fields, f.annotations.Nodup
  /-- Keys stand in the order in which they came. -/
  keys_eq : store.keys = start.keyed.keys ++ acceptedNames changes answers
  /-- Annotations stand in the order in which they were first given. -/
  annotations_eq : ∀ name, (store.field? name).map (·.annotations)
    = (changes.foldl (Change.given name) (start.annotationsOf name)).map List.eraseDups
  /-- A field is refused if its name is a key, and only then. -/
  refused_iff : ∀ f, ((store.add f).2 = false ↔ f.name ∈ store.keys) ∧
    ((last.addField f).2 = false ↔ f.name ∈ store.keys)
  /-- A field that is refused changes nothing. -/
  refused : ∀ f, f.name ∈ store.keys → store.add f = (store, false) ∧ last.addField f = (last, false)
  /-- An annotation is attached if the field does not have it, and only then. -/
  attached_iff : ∀ name f a, store.field? name = some f →
    ((f.annotate a).2 = true ↔ a ∉ f.annotations)

/-- A well-formed model that changes led to is orderly. -/
theorem Kept.orderly {start last : Model} {changes : List Change} {answers : List (Option Bool)}
    (hstart : start.WellFormed) (h : Kept start changes answers last) :
    Orderly start changes answers last last.keyed where
  toModel := last.toModel_keyed
  key_eq_name := by
    intro e he
    obtain ⟨f, -, rfl⟩ := List.mem_map.1 he
    rfl
  nodup_keys := by
    rw [Model.keys_keyed]
    exact h.wellFormed.nodup_names
  nodup_annotations := h.wellFormed.nodup_annotations
  keys_eq := by rw [Model.keys_keyed, Model.keys_keyed, h.fieldNames]
  annotations_eq := by
    intro name
    rw [Model.field?_keyed]
    refine h.annotationsOf name _ ?_
    cases hf : start.field? name with
    | none => rw [Model.annotationsOf, hf]; rfl
    | some f =>
      have hnodup := hstart.nodup_annotations f (List.mem_of_find?_eq_some hf)
      simp [Model.annotationsOf, hf, eraseDups_of_nodup hnodup]
  refused_iff := by
    intro f
    have hrefused : (last.addField f).2 = false ↔ f.name ∈ last.fieldNames := by
      rw [← Bool.not_eq_true, Model.addField_added, not_not]
    rw [Model.add_keyed, Model.keys_keyed]
    exact ⟨hrefused, hrefused⟩
  refused := by
    intro f hf
    rw [Model.keys_keyed, ← Model.field?_isSome_iff] at hf
    have hkept : last.addField f = (last, false) := if_pos hf
    rw [Model.add_keyed, hkept]
    exact ⟨rfl, rfl⟩
  attached_iff := by
    intro name f a _
    simp [Field.annotate_attached, Field.has]

/-- A model that starts without fields, or is read from a text, goes through any changes without
an error, and so does its map. Whatever they are, keys and names agree, nothing comes twice, and
keys and annotations stand in the order in which they first came. -/
theorem runChanges_orderly {origin : Origin} {start : Model} (h : origin.model = .ok start)
    (changes : List Change) :
    ∃ answers last store, origin.keyed = .ok start.keyed ∧
      runChanges Model.step start changes = .ok (last, answers) ∧
      runChanges KeyedModel.step start.keyed changes = .ok (store, answers) ∧
      Orderly start changes answers last store := by
  have hstart := Origin.wellFormed h
  obtain ⟨answers, last, hrun, hkeyed, hkept⟩ := exists_runChanges hstart changes
  refine ⟨answers, last, last.keyed, ?_, hrun, hkeyed, hkept.orderly hstart⟩
  rw [Origin.keyed_eq, h]
  rfl

/-- A model with annotations that are given again by changes of every kind. -/
theorem runChanges_orderly_read :
    let start : Model := ⟨"M", [⟨"a", "A", "", [.custom "x"]⟩, ⟨"b", "B", "text", []⟩]⟩
    let changes : List Change :=
      [.annotate "b" (.jsonProperty "y"), .add "a" "C" "" [], .suppress Suppression.constant,
        .add "c" "C" "" [.jsonIgnore, .custom "z", .jsonIgnore], .annotate "c" (.custom "z"),
        .reload true, .document "a" "more", .suppress Suppression.twice, .annotate "d" .jsonIgnore,
        .reload false]
    (Origin.text start.pretty).model = .ok start ∧
      ∃ answers last store, (Origin.text start.pretty).keyed = .ok start.keyed ∧
        runChanges Model.step start changes = .ok (last, answers) ∧
        runChanges KeyedModel.step start.keyed changes = .ok (store, answers) ∧
        Orderly start changes answers last store := by
  intro start changes
  have hstart : start.WellFormed := ⟨by decide, by decide⟩
  have hread : (Origin.text start.pretty).model = .ok start := Model.read_text hstart true
  exact ⟨hread, runChanges_orderly hread changes⟩

end SchemaRules
