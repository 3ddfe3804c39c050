import SchemaRules.Proofs.KeyedModel
import SchemaRules.Proofs.ModelText

/-!
# Fields that come again

A model may not have two fields of one name. The fields of a document are put into the model one
after the other, and the first one that finds its name taken ends it, whatever follows. So a
document is refused exactly if some name comes twice, and the error names the earliest field that
repeats one before it.

* `Model.IsFirstDuplicate`: a field repeats the name of an earlier one, and no field before it does.
* `Model.firstDuplicate?_eq_some_iff`: the search finds it.
* `Model.ofDraft_eq_ok_iff`, `Model.ofDraft_eq_error_iff`: the map that is built field by field.
* `Model.ofDraft_outcomes`: all of it, and the way back.
-/

namespace SchemaRules.Model

/-- A field has the name of one before it, and the fields before it have distinct names. -/
def IsFirstDuplicate (fields : List Field) (f : Field) : Prop :=
  ∃ before after, fields = before ++ f :: after ∧ (before.map (·.name)).Nodup ∧
    f.name ∈ before.map (·.name)

/-- A field comes first to repeat a name, either of those seen or of the fields before it. -/
def RepeatsFirst (seen : List String) (before : List Field) (f : Field) : Prop :=
  (before.map (·.name)).Nodup ∧ (∀ g ∈ before, g.name ∉ seen) ∧
    (f.name ∈ seen ∨ f.name ∈ before.map (·.name))

section

variable {seen : List String} {before rest : List Field} {f g : Field}

theorem repeatsFirst_nil : RepeatsFirst seen [] f ↔ f.name ∈ seen := by
  simp [RepeatsFirst]

/-- A field before it that repeats no name is one seen more. -/
theorem repeatsFirst_cons (hg : g.name ∉ seen) :
    RepeatsFirst seen (g :: before) f ↔ RepeatsFirst (g.name :: seen) before f := by
  simp only [RepeatsFirst, List.map_cons, List.nodup_cons, List.mem_cons, List.mem_map,
    not_or, forall_and]
  grind

theorem not_repeatsFirst_cons (hg : g.name ∈ seen) : ¬RepeatsFirst seen (g :: before) f :=
  fun h => h.2.1 g List.mem_cons_self hg

/-- What stands in a list is its first item, or comes after it. -/
theorem exists_cons_eq_append {P : List Field → Prop} :
    (∃ before after, g :: rest = before ++ f :: after ∧ P before) ↔
      g = f ∧ P [] ∨ ∃ before after, rest = before ++ f :: after ∧ P (g :: before) := by
  constructor
  · rintro ⟨before, after, hfields, hP⟩
    cases before with
    | nil =>
      cases hfields
      exact .inl ⟨rfl, hP⟩
    | cons _ before =>
      cases hfields
      exact .inr ⟨before, after, rfl, hP⟩
  · rintro (⟨rfl, hP⟩ | ⟨before, after, rfl, hP⟩)
    · exact ⟨[], rest, rfl, hP⟩
    · exact ⟨g :: before, after, rfl, hP⟩

end

theorem firstDuplicate?.go_eq_some_iff (seen : List String) (fields : List Field) (f : Field) :
    firstDuplicate?.go seen fields = some f ↔
      ∃ before after, fields = before ++ f :: after ∧ RepeatsFirst seen before f := by
  induction fields generalizing seen with
  | nil => simp [firstDuplicate?.go]
  | cons g rest ih =>
    rw [firstDuplicate?.go, exists_cons_eq_append, repeatsFirst_nil]
    split
    · next hg =>
      simp only [not_repeatsFirst_cons hg, and_false, exists_false, or_false, Option.some.injEq]
      exact ⟨fun h => ⟨h, h ▸ hg⟩, And.left⟩
    · next hg =>
      have hfirst : ¬(g = f ∧ f.name ∈ seen) := fun h => hg (h.1 ▸ h.2)
      simp only [ih, repeatsFirst_cons hg, hfirst, false_or]

theorem firstDuplicate?_eq_some_iff (fields : List Field) (f : Field) :
    firstDuplicate? fields = some f ↔ IsFirstDuplicate fields f := by
  rw [firstDuplicate?, firstDuplicate?.go_eq_some_iff, IsFirstDuplicate]
  simp [RepeatsFirst]

/-- A map is told by its keys and by the model that it is without them. -/
theorem eq_keyed_iff {k : KeyedModel} {m : Model} :
    k = m.keyed ↔ k.keys = m.fieldNames ∧ k.toModel = m := by
  constructor
  · rintro rfl
    exact ⟨keys_keyed m, toModel_keyed m⟩
  · rintro ⟨hkeys, rfl⟩
    have hnames : ∀ e ∈ k.entries, e.1 = e.2.name := by
      rw [KeyedModel.keys, Entries.keys, fieldNames, KeyedModel.toModel, List.map_map] at hkeys
      exact List.map_inj_left.1 hkeys
    have hentries : k.entries = k.entries.map fun e => (e.2.name, e.2) :=
      (List.map_id k.entries).symm.trans
        (List.map_congr_left fun e he => Prod.ext (hnames e he) rfl)
    rw [keyed, KeyedModel.toModel, List.map_map]
    exact congrArg (KeyedModel.mk k.name) hentries

/-! ## Models of fields -/

section

variable (name : String) (fields : List Field)

theorem toModel_eq_ok_iff (m : Model) :
    Draft.toModel ⟨some name, some fields⟩ = .ok m ↔
      (fields.map (·.name)).Nodup ∧ m = ⟨name, fields⟩ := by
  rw [← firstDuplicate?_eq_none_iff]
  simp only [Draft.toModel, Option.getD_some, ofFields]
  cases firstDuplicate? fields <;> simp [Except.mapError, eq_comm]

theorem toModel_eq_error_iff (e : ReadError) :
    Draft.toModel ⟨some name, some fields⟩ = .error e ↔
      ∃ f, IsFirstDuplicate fields f ∧ e = .duplicateField f.name name := by
  simp only [← firstDuplicate?_eq_some_iff]
  simp only [Draft.toModel, Option.getD_some, ofFields]
  cases firstDuplicate? fields <;> simp [Except.mapError, eq_comm]

/-- The map that has every field under its name is built if no name comes twice. -/
theorem ofDraft_eq_ok_iff (k : KeyedModel) :
    KeyedModel.ofDraft ⟨some name, some fields⟩ = .ok k ↔
      (fields.map (·.name)).Nodup ∧ k.keys = fields.map (·.name) ∧ k.toModel = ⟨name, fields⟩ := by
  have hkeyed : k = keyed ⟨name, fields⟩ ↔
      k.keys = fields.map (·.name) ∧ k.toModel = ⟨name, fields⟩ := eq_keyed_iff
  rw [ofDraft_eq, ← hkeyed]
  cases hmodel : Draft.toModel ⟨some name, some fields⟩ with
  | error e =>
    obtain ⟨f, hf, -⟩ := (toModel_eq_error_iff name fields e).1 hmodel
    have hdup : ¬(fields.map (·.name)).Nodup := by
      rw [← firstDuplicate?_eq_none_iff, (firstDuplicate?_eq_some_iff fields f).2 hf]
      simp
    simp [Except.map, hdup]
  | ok m =>
    obtain ⟨hnodup, rfl⟩ := (toModel_eq_ok_iff name fields m).1 hmodel
    simp [Except.map, hnodup, eq_comm]

theorem ofDraft_eq_error_iff (e : ReadError) :
    KeyedModel.ofDraft ⟨some name, some fields⟩ = .error e ↔
      ∃ f, IsFirstDuplicate fields f ∧ e = .duplicateField f.name name := by
  rw [← toModel_eq_error_iff, ofDraft_eq]
  cases Draft.toModel ⟨some name, some fields⟩ <;> simp [Except.map]

/-- A list of fields makes a model exactly if their names are distinct, and the model holds them
all in their order. Otherwise the field is named that is the first to repeat one before it. -/
theorem ofDraft_outcomes :
    ((∃ k, KeyedModel.ofDraft ⟨some name, some fields⟩ = .ok k) ↔ (fields.map (·.name)).Nodup) ∧
    (∀ k, KeyedModel.ofDraft ⟨some name, some fields⟩ = .ok k ↔
      (fields.map (·.name)).Nodup ∧ k.keys = fields.map (·.name) ∧ k.toModel = ⟨name, fields⟩) ∧
    (∀ e, KeyedModel.ofDraft ⟨some name, some fields⟩ = .error e ↔
      ∃ f, IsFirstDuplicate fields f ∧ e = .duplicateField f.name name) ∧
    Draft.toModel ⟨some name, some fields⟩ =
      (KeyedModel.ofDraft ⟨some name, some fields⟩).map KeyedModel.toModel := by
  refine ⟨?_, ofDraft_eq_ok_iff name fields, ofDraft_eq_error_iff name fields, ?_⟩
  · constructor
    · rintro ⟨k, hk⟩
      exact ((ofDraft_eq_ok_iff name fields k).1 hk).1
    · intro hnodup
      exact ⟨keyed ⟨name, fields⟩, (ofDraft_eq_ok_iff name fields _).2
        ⟨hnodup, eq_keyed_iff.1 rfl⟩⟩
  · rw [ofDraft_eq]
    cases Draft.toModel ⟨some name, some fields⟩ with
    | error e => rfl
    | ok m => exact congrArg Except.ok (toModel_keyed m).symm

end

/-- Of two names that come again the one is named whose second field comes first. -/
example :
    let field (name type : String) : Field := ⟨name, type, "", []⟩
    let fields := [field "a" "1", field "b" "2", field "b" "3", field "a" "4"]
    KeyedModel.ofDraft ⟨some "M", some fields⟩ = .error (.duplicateField "b" "M") := by
  decide

end SchemaRules.Model
