import Mathlib.Data.List.Nodup
import SchemaRules.Model.Format
import SchemaRules.Proofs.Runs

/-!
# A model as a map of its fields

The fields of a model may be kept in a map, each under a key, which says nothing yet of the name
that the field under the key has. Adding looks for the key and puts the field at the end, and a
field is changed in the place of its key. A well-formed model is such a map with every field under
its own name (`Model.keyed`), and both do the same under every operation.

* `Entries.put_of_mem`: what putting an entry does to a map that has its key.
* `add_keyed`, `modify_keyed`, `suppress_keyed`: the operations.
* `addAll_eq`, `read_eq`: the map that is built from a list of fields, or from a text.
-/

namespace SchemaRules

namespace Entries

variable {κ α : Type} [DecidableEq κ]

/-- A key that is there keeps its place. -/
theorem put_of_mem {entries : List (κ × α)} (hnodup : (keys entries).Nodup) {key : κ}
    (h : key ∈ keys entries) (value : α) :
    put entries key value = entries.map fun e => if e.1 = key then (key, value) else e := by
  induction entries with
  | nil => cases h
  | cons e rest ih =>
    obtain ⟨k, v⟩ := e
    rw [keys_cons, List.nodup_cons] at hnodup
    by_cases hk : k = key
    · subst hk
      have hrest : ∀ e ∈ rest, (if e.1 = k then (k, value) else e) = e := by
        intro e he
        exact if_neg fun hek => hnodup.1 (List.mem_map.2 ⟨e, he, hek⟩)
      rw [put, if_pos rfl, List.map_cons, if_pos rfl, List.map_congr_left hrest, List.map_id']
    · have hmem : key ∈ keys rest := (List.mem_cons.1 h).resolve_left (Ne.symm hk)
      rw [put, if_neg hk, ih hnodup.2 hmem, List.map_cons, if_neg hk]

end Entries

/-- A model whose fields are kept in a map. -/
structure KeyedModel where
  name : String
  entries : List (String × Field) := []
  deriving DecidableEq, Repr

namespace KeyedModel

/-- The keys in order. -/
def keys (k : KeyedModel) : List String :=
  Entries.keys k.entries

/-- The field under a key. -/
def field? (k : KeyedModel) (key : String) : Option Field :=
  k.entries.lookup key

/-- Puts a field under its name if that is no key yet, and says whether it is none. -/
def add (k : KeyedModel) (f : Field) : KeyedModel × Bool :=
  if (k.field? f.name).isSome then (k, false)
  else ({ k with entries := Entries.put k.entries f.name f }, true)

/-- Changes the field under a key, if there is one. -/
def modify (k : KeyedModel) (key : String) (change : Field → Field) : KeyedModel :=
  match k.field? key with
  | none => k
  | some f => { k with entries := Entries.put k.entries key (change f) }

/-- The map without its keys. -/
def toModel (k : KeyedModel) : Model :=
  ⟨k.name, k.entries.map Prod.snd⟩

/-- Adds fields one after the other, up to the first one that is refused. -/
def addAll (k : KeyedModel) : List Field → Except Field KeyedModel
  | [] => .ok k
  | f :: rest => if (k.add f).2 then (k.add f).1.addAll rest else .error f

/-- The map that a draft describes. -/
def ofDraft (d : Model.Draft) : Except Model.ReadError KeyedModel :=
  let name := d.name.getD ""
  (addAll ⟨name, []⟩ (d.fields.getD [])).mapError fun f => .duplicateField f.name name

/-- Reads a model document into a map. -/
def read (source : String) : Except Model.ReadError KeyedModel :=
  let text := source.toList
  match Json.record Model.layout text with
  | .error e => .error (.json (e.inText text))
  | .ok st =>
    match ofDraft st.value with
    | .error e => .error e
    | .ok k =>
      match Json.skipBlank st.rest with
      | [] => .ok k
      | rest =>
        .error (.json (Json.Failure.inText
          (.placed .trailingCharacters (Utf8.byteCount rest - 1)) text))

/-- Marks the field that one entry of a schema's list names, if it is there. -/
def applyDirective (r : Suppression.Run) (k : KeyedModel) (directive : Node) : KeyedModel :=
  match Suppression.directiveName? directive with
  | none => k
  | some name =>
    k.modify (r.resolve name (Suppression.propertyNode? r.root name)) Suppression.markField

/-- Marks the fields that the entries of a schema's list name, one after the other. -/
def suppress (r : Suppression.Run) (k : KeyedModel) : KeyedModel :=
  (Suppression.listed r.config.ignoreKeyword r.root).foldl (applyDirective r) k

end KeyedModel

namespace Model

/-- The model as a map, with every field under its name. -/
def keyed (m : Model) : KeyedModel :=
  ⟨m.name, m.fields.map fun f => (f.name, f)⟩

theorem keys_keyed (m : Model) : m.keyed.keys = m.fieldNames := by
  simp only [KeyedModel.keys, Entries.keys, keyed, List.map_map]
  rfl

theorem toModel_keyed (m : Model) : m.keyed.toModel = m := by
  simp only [KeyedModel.toModel, keyed, List.map_map]
  exact congrArg (Model.mk m.name) (List.map_id' m.fields)

theorem field?_keyed (m : Model) (name : String) : m.keyed.field? name = m.field? name := by
  obtain ⟨title, fields⟩ := m
  simp only [KeyedModel.field?, keyed, field?]
  induction fields with
  | nil => rfl
  | cons f rest ih =>
    rw [List.map_cons, Entries.lookup_cons_eq_ite, ih, List.find?_cons]
    by_cases h : f.name = name
    · simp [h]
    · simp [h, Ne.symm h]

theorem add_keyed (m : Model) (f : Field) :
    m.keyed.add f = ((m.addField f).1.keyed, (m.addField f).2) := by
  unfold KeyedModel.add addField
  rw [field?_keyed]
  split
  · rfl
  · next h =>
    have hnew : f.name ∉ Entries.keys m.keyed.entries := by
      rw [field?_isSome_iff, ← keys_keyed] at h
      exact h
    simp only [Entries.put_of_notMem hnew]
    simp [keyed]

theorem name_of_field? {m : Model} {name : String} {f : Field} (h : m.field? name = some f) :
    f.name = name := by
  simpa using List.find?_some h

/-- A field of a name is the only one if no name comes twice. -/
theorem eq_of_field? {m : Model} (h : m.fieldNames.Nodup) {name : String} {f g : Field}
    (hf : m.field? name = some f) (hg : g ∈ m.fields) (hname : g.name = name) : g = f := by
  have hfound : f ∈ m.fields := List.mem_of_find?_eq_some hf
  exact List.inj_on_of_nodup_map h hg hfound (hname.trans (name_of_field? hf).symm)

theorem modify_keyed {m : Model} (h : m.fieldNames.Nodup) (name : String) {change : Field → Field}
    (hc : ∀ f, (change f).name = f.name) :
    m.keyed.modify name change = (m.modifyField name change).keyed := by
  unfold KeyedModel.modify modifyField
  rw [field?_keyed]
  cases hf : m.field? name with
  | none =>
    have hkept : ∀ g ∈ m.fields, (if g.name = name then change g else g) = g := by
      intro g hg
      refine if_neg fun hname => ?_
      have hnone := List.find?_eq_none.1 hf g hg
      simp [hname] at hnone
    simp only [List.map_congr_left hkept, List.map_id']
  | some f =>
    have hkey : name ∈ Entries.keys m.keyed.entries := by
      have hsome := (field?_isSome_iff m name).1 (by simp [hf])
      rwa [← keys_keyed] at hsome
    have hnodup : (Entries.keys m.keyed.entries).Nodup := by
      rw [← keys_keyed] at h
      exact h
    -- The field under the key is the only one of the name, so it alone is changed.
    simp only [Entries.put_of_mem hnodup hkey]
    simp only [keyed, List.map_map]
    congr 1
    apply List.map_congr_left
    intro g hg
    simp only [Function.comp_apply]
    by_cases hname : g.name = name
    · obtain rfl := eq_of_field? h hf hg hname
      rw [if_pos hname, if_pos hname, hc, hname]
    · rw [if_neg hname, if_neg hname]

/-! ## Rules -/

theorem applyDirective_keyed (r : Suppression.Run) {m : Model} (h : m.fieldNames.Nodup)
    (directive : Node) :
    m.keyed.applyDirective r directive =
      (Suppression.applyDirective (μ := Id) r.resolve r.root m directive).keyed := by
  unfold KeyedModel.applyDirective Suppression.applyDirective
  cases Suppression.directiveName? directive with
  | none => rfl
  | some name => exact modify_keyed h _ Suppression.name_markField

theorem fieldNames_applyDirective (r : Suppression.Run) (m : Model) (directive : Node) :
    (Suppression.applyDirective (μ := Id) r.resolve r.root m directive).fieldNames =
      m.fieldNames := by
  unfold Suppression.applyDirective
  cases Suppression.directiveName? directive with
  | none => rfl
  | some name => exact Suppression.fieldNames_mark m _

theorem suppress_keyed (r : Suppression.Run) {m : Model} (h : m.fieldNames.Nodup) :
    m.keyed.suppress r = (r.apply m).keyed := by
  rw [KeyedModel.suppress, Suppression.Run.apply, Suppression.suppress_eq_foldl]
  generalize Suppression.listed r.config.ignoreKeyword r.root = directives
  induction directives generalizing m with
  | nil => rfl
  | cons directive rest ih =>
    rw [List.foldl_cons, List.foldl_cons, applyDirective_keyed r h]
    apply ih
    rwa [fieldNames_applyDirective]

/-! ## Reading -/

/-- Fields are added to fields with the names seen so far as a list of them is checked. -/
theorem addAll_keyed (m : Model) {seen : List String} (h : ∀ name, name ∈ seen ↔ name ∈ m.fieldNames)
    (fields : List Field) :
    m.keyed.addAll fields =
      match firstDuplicate?.go seen fields with
      | some f => .error f
      | none => .ok (Model.keyed ⟨m.name, m.fields ++ fields⟩) := by
  induction fields generalizing m seen with
  | nil => simp [KeyedModel.addAll, firstDuplicate?.go]
  | cons f rest ih =>
    rw [KeyedModel.addAll, add_keyed, firstDuplicate?.go]
    by_cases hf : f.name ∈ seen
    · have hrefused : (m.addField f).2 = false := by
        rw [← Bool.not_eq_true, addField_added, not_not]
        exact (h f.name).1 hf
      simp [hrefused, hf]
    · have hnew : f.name ∉ m.fieldNames := fun hmem => hf ((h f.name).2 hmem)
      have hadded : m.addField f = (⟨m.name, m.fields ++ [f]⟩, true) := by
        rw [addField, if_neg (by rwa [field?_isSome_iff])]
      have hseen : ∀ name, name ∈ f.name :: seen ↔
          name ∈ (Model.mk m.name (m.fields ++ [f])).fieldNames := by
        intro name
        have := h name
        simp only [fieldNames] at this
        simp [fieldNames, this, or_comm]
      simp only [hadded, if_true, if_neg hf, ih _ hseen, List.append_assoc, List.singleton_append]

/-- A list of fields makes the map of the model that it makes, or is refused for the same field. -/
theorem addAll_eq (name : String) (fields : List Field) :
    KeyedModel.addAll ⟨name, []⟩ fields = (ofFields name fields).map keyed := by
  have hseen : ∀ n, n ∈ ([] : List String) ↔ n ∈ (Model.mk name []).fieldNames := by
    simp [fieldNames]
  have hload := addAll_keyed ⟨name, []⟩ hseen fields
  have hblank : keyed ⟨name, []⟩ = ⟨name, []⟩ := rfl
  rw [hblank, List.nil_append] at hload
  rw [hload, ofFields, firstDuplicate?]
  cases firstDuplicate?.go [] fields <;> rfl

theorem ofDraft_eq (d : Draft) : KeyedModel.ofDraft d = d.toModel.map keyed := by
  simp only [KeyedModel.ofDraft, addAll_eq, Draft.toModel]
  cases ofFields (d.name.getD "") (d.fields.getD []) <;> rfl

/-- A text is read into the map of the model that it is read as, or refused for the same reason. -/
theorem read_eq (source : String) : KeyedModel.read source = (read source).map keyed := by
  cases hrecord : Json.record layout source.toList with
  | error e => simp only [KeyedModel.read, read, hrecord, Except.map]
  | ok st =>
    cases hmodel : st.value.toModel with
    | error e => simp only [KeyedModel.read, read, hrecord, ofDraft_eq, hmodel, Except.map]
    | ok m =>
      cases hrest : Json.skipBlank st.rest <;>
        simp only [KeyedModel.read, read, hrecord, ofDraft_eq, hmodel, hrest, Except.map]

end Model

end SchemaRules
