import Mathlib.Data.List.Perm.Subperm
import SchemaRules.Proofs.Changes

/-!
# Models that are equal but for the order of fields and annotations

Equality of models looks at neither order. It asks of every field of one model whether the other has
an equal one, and counts; with names and annotations that do not come twice that is to say: under
every name both models have no field, or fields that match. Told that way it is an equivalence, and
every change acts on the field under a name alone, so no change sees the order.

* `Field.Matches`, `Model.Matches`: equality told without counting; `Field.same_iff`,
  `Model.same_iff`: what it has to do with the counting one.
* `Model.Matches.addField`, `Model.Matches.mapFields`: the two ways in which fields change.
* `Change.matches_apply`, `matches_runChanges`: one change, and changes one after the other.
* `same_equivalence_and_runs`: all of it.
-/

namespace SchemaRules

/-! ## Fields -/

namespace Field

/-- Two fields differ in the order of their annotations at most. -/
structure Matches (f g : Field) : Prop where
  name : f.name = g.name
  type : f.type = g.type
  documentation : f.documentation = g.documentation
  annotations : f.annotations.Perm g.annotations

theorem matches_equivalence : Equivalence Matches where
  refl f := ⟨rfl, rfl, rfl, .refl f.annotations⟩
  symm h := ⟨h.name.symm, h.type.symm, h.documentation.symm, h.annotations.symm⟩
  trans h k := ⟨h.name.trans k.name, h.type.trans k.type, h.documentation.trans k.documentation,
    h.annotations.trans k.annotations⟩

/-- Fields are equal if they match, and only then, as no annotation comes twice. -/
theorem same_iff {f g : Field} (hf : f.annotations.Nodup) : f.same g = true ↔ f.Matches g := by
  simp only [same, Bool.and_eq_true, beq_iff_eq, List.all_eq_true, has, List.contains_iff_mem]
  constructor
  · rintro ⟨⟨⟨⟨hname, htype⟩, hdoc⟩, hlength⟩, hsub⟩
    have hperm := (List.subperm_of_subset hf hsub).perm_of_length_le (Nat.le_of_eq hlength.symm)
    exact ⟨hname, htype, hdoc, hperm⟩
  · rintro ⟨hname, htype, hdoc, hperm⟩
    exact ⟨⟨⟨⟨hname, htype⟩, hdoc⟩, hperm.length_eq⟩, fun a ha => hperm.subset ha⟩

section

variable {f g : Field}

theorem Matches.has_eq (h : f.Matches g) (a : Annotation) : f.has a = g.has a := by
  rw [Bool.eq_iff_iff]
  simp only [has, List.contains_iff_mem, h.annotations.mem_iff]

/-- Matching fields answer alike when an annotation is attached, and still match. -/
theorem Matches.annotate (h : f.Matches g) (a : Annotation) :
    (f.annotate a).1.Matches (g.annotate a).1 ∧ (f.annotate a).2 = (g.annotate a).2 := by
  unfold Field.annotate
  rw [h.has_eq a]
  by_cases ha : g.has a = true
  · simp only [ha, if_true]
    exact ⟨h, trivial⟩
  · simp only [ha]
    exact ⟨⟨h.name, h.type, h.documentation, h.annotations.append_right [a]⟩, rfl⟩

theorem Matches.document (h : f.Matches g) (text : String) :
    (f.document text).Matches (g.document text) :=
  ⟨h.name, h.type, congrArg (· ++ text) h.documentation, h.annotations⟩

theorem Matches.marked (h : f.Matches g) (n : Nat) : (f.marked n).Matches (g.marked n) := by
  induction n generalizing f g with
  | zero => rwa [Suppression.marked_zero, Suppression.marked_zero]
  | succ n ih =>
    rw [← Suppression.marked_markField, ← Suppression.marked_markField]
    exact ih ((h.document Suppression.note).annotate .jsonIgnore).1

end

end Field

/-! ## Models -/

namespace Model

/-- Under each name two models have no field, or fields that match. -/
structure Matches (m n : Model) : Prop where
  name : m.name = n.name
  field? : ∀ name, Option.Rel Field.Matches (m.field? name) (n.field? name)

theorem matches_equivalence : Equivalence Matches where
  refl m := by
    refine ⟨rfl, fun name => ?_⟩
    cases m.field? name with
    | none => exact .none
    | some f => exact .some (Field.matches_equivalence.refl f)
  symm {m n} h := by
    refine ⟨h.name.symm, fun name => ?_⟩
    have hrel := h.field? name
    generalize m.field? name = f?, n.field? name = g? at *
    cases hrel with
    | none => exact .none
    | some hfg => exact .some (Field.matches_equivalence.symm hfg)
  trans {m n k} h h' := by
    refine ⟨h.name.trans h'.name, fun name => ?_⟩
    have hrel := h.field? name
    have hrel' := h'.field? name
    generalize m.field? name = f?, n.field? name = g?, k.field? name = k? at *
    cases hrel with
    | none => exact hrel'
    | some hfg =>
      cases hrel' with
      | some hgk => exact .some (Field.matches_equivalence.trans hfg hgk)

section

variable {m n : Model}

/-- Matching models have the same names of fields. -/
theorem Matches.mem_fieldNames_iff (h : m.Matches n) (name : String) :
    name ∈ m.fieldNames ↔ name ∈ n.fieldNames := by
  have hrel := h.field? name
  rw [← field?_isSome_iff, ← field?_isSome_iff]
  generalize m.field? name = f?, n.field? name = g? at *
  cases hrel with
  | none => rfl
  | some _ => simp

theorem field?_eq_none_iff (m : Model) (name : String) :
    m.field? name = none ↔ name ∉ m.fieldNames := by
  rw [← field?_isSome_iff, Bool.not_eq_true, Option.isSome_eq_false_iff, Option.isNone_iff_eq_none]

/-- A field is found under its name if no name comes twice. -/
theorem field?_of_mem (h : m.fieldNames.Nodup) {f : Field} (hf : f ∈ m.fields) :
    m.field? f.name = some f := by
  cases hfound : m.field? f.name with
  | none => exact absurd (List.mem_map_of_mem hf) ((field?_eq_none_iff m f.name).1 hfound)
  | some g => rw [eq_of_field? h hfound hf rfl]

/-- Well-formed models are equal if they match, and only then. -/
theorem same_iff (hm : m.WellFormed) (hn : n.WellFormed) : m.same n = true ↔ m.Matches n := by
  simp only [same, Bool.and_eq_true, beq_iff_eq, List.all_eq_true]
  constructor
  · rintro ⟨⟨hname, hlength⟩, hfields⟩
    have hfound : ∀ f ∈ m.fields, ∃ g, n.field? f.name = some g ∧ f.Matches g := by
      intro f hf
      have hsame := hfields f hf
      cases hg : n.field? f.name with
      | none => simp [hg] at hsame
      | some g =>
        rw [hg] at hsame
        exact ⟨g, rfl, (Field.same_iff (hm.nodup_annotations f hf)).1 hsame⟩
    -- There are no more names in `n` than in `m`, so the names of `m` are all of them.
    have hnames : m.fieldNames ⊆ n.fieldNames := by
      intro name hmem
      obtain ⟨f, hf, rfl⟩ := List.mem_map.1 hmem
      obtain ⟨g, hg, -⟩ := hfound f hf
      exact (field?_isSome_iff n f.name).1 (by simp [hg])
    have hperm : m.fieldNames.Perm n.fieldNames :=
      (List.subperm_of_subset hm.nodup_names hnames).perm_of_length_le
        (by simp [fieldNames, hlength])
    refine ⟨hname, fun name => ?_⟩
    cases hf : m.field? name with
    | none =>
      have hnone := (field?_eq_none_iff m name).1 hf
      rw [hperm.mem_iff] at hnone
      rw [(field?_eq_none_iff n name).2 hnone]
      exact .none
    | some f =>
      obtain ⟨g, hg, hfg⟩ := hfound f (List.mem_of_find?_eq_some hf)
      rw [name_of_field? hf] at hg
      rw [hg]
      exact .some hfg
  · intro h
    have hperm : m.fieldNames.Perm n.fieldNames :=
      (List.perm_ext_iff_of_nodup hm.nodup_names hn.nodup_names).2 h.mem_fieldNames_iff
    refine ⟨⟨h.name, by simpa [fieldNames] using hperm.length_eq⟩, fun f hf => ?_⟩
    have hrel := h.field? f.name
    rw [field?_of_mem hm.nodup_names hf] at hrel
    generalize n.field? f.name = g? at *
    cases hrel with
    | some hfg => exact (Field.same_iff (hm.nodup_annotations f hf)).2 hfg

/-! ## What changes do -/

/-- Matching models accept or refuse a field alike, and still match. -/
theorem Matches.addField (h : m.Matches n) (f : Field) :
    (m.addField f).1.Matches (n.addField f).1 ∧ (m.addField f).2 = (n.addField f).2 := by
  have hanswer : (m.addField f).2 = (n.addField f).2 := by
    rw [Bool.eq_iff_iff, addField_added, addField_added, h.mem_fieldNames_iff]
  have hname : ∀ k : Model, (k.addField f).1.name = k.name := by
    intro k
    unfold Model.addField
    split <;> rfl
  refine ⟨⟨by rw [hname, hname, h.name], fun name => ?_⟩, hanswer⟩
  rw [field?_addField, field?_addField]
  have hrel := h.field? name
  generalize m.field? name = f?, n.field? name = g? at *
  cases hrel with
  | some hfg => exact .some hfg
  | none =>
    simp only [Option.none_or]
    split
    · exact .some (Field.matches_equivalence.refl f)
    · exact .none

/-- A change to all fields that keeps their names and lets matching fields match lets matching
models match. -/
theorem Matches.mapFields (h : m.Matches n) {change : Field → Field}
    (hc : ∀ f, (change f).name = f.name)
    (hmatch : ∀ f g : Field, f.Matches g → (change f).Matches (change g)) :
    Model.Matches { m with fields := m.fields.map change }
      { n with fields := n.fields.map change } := by
  refine ⟨h.name, fun name => ?_⟩
  rw [field?_map m hc, field?_map n hc]
  have hrel := h.field? name
  generalize m.field? name = f?, n.field? name = g? at *
  cases hrel with
  | none => exact .none
  | some hfg => exact .some (hmatch _ _ hfg)

theorem Matches.modifyField (h : m.Matches n) (name : String) {change : Field → Field}
    (hc : ∀ f, (change f).name = f.name)
    (hmatch : ∀ f g : Field, f.Matches g → (change f).Matches (change g)) :
    (m.modifyField name change).Matches (n.modifyField name change) := by
  refine h.mapFields (fun f => ?_) fun f g hfg => ?_
  · split
    · exact hc f
    · rfl
  · rw [hfg.name]
    split
    · exact hmatch f g hfg
    · exact hfg

end

end Model

variable {m n : Model}

/-- A run of the rule lets matching models match. -/
theorem Suppression.Run.matches_apply (r : Run) (h : m.Matches n) :
    (r.apply m).Matches (r.apply n) := by
  rw [apply_eq, apply_eq]
  refine h.mapFields (fun f => rfl) fun f g hfg => ?_
  rw [hfg.name]
  exact hfg.marked _

/-- A change answers alike for matching models, and they still match. -/
theorem Change.matches_apply (h : m.Matches n) (c : Change) :
    (c.apply m).1.Matches (c.apply n).1 ∧ (c.apply m).2 = (c.apply n).2 := by
  cases c with
  | add name type documentation annotations =>
    obtain ⟨hmatch, hanswer⟩ := h.addField (.ofParts name type documentation annotations)
    exact ⟨hmatch, congrArg some hanswer⟩
  | annotate field a =>
    refine ⟨h.modifyField field (fun f => f.name_annotate a) fun f g hfg => (hfg.annotate a).1, ?_⟩
    have hrel := h.field? field
    simp only [apply]
    generalize m.field? field = f?, n.field? field = g? at *
    cases hrel with
    | none => rfl
    | some hfg => exact congrArg some (hfg.annotate a).2
  | document field text =>
    exact ⟨h.modifyField field (fun f => f.name_document text) fun f g hfg => hfg.document text, rfl⟩
  | suppress run => exact ⟨run.matches_apply h, rfl⟩
  | reload asPretty => exact ⟨h, rfl⟩

/-- Changes one after the other succeed on two well-formed models that match, answer alike, and
leave models that match. -/
theorem matches_runChanges (hm : m.WellFormed) (hn : n.WellFormed) (h : m.Matches n)
    (changes : List Change) :
    ∃ answers last last', runChanges Model.step m changes = .ok (last, answers) ∧
      runChanges Model.step n changes = .ok (last', answers) ∧
      last.WellFormed ∧ last'.WellFormed ∧ last.Matches last' := by
  induction changes generalizing m n with
  | nil => exact ⟨[], m, n, rfl, rfl, hm, hn, h⟩
  | cons c rest ih =>
    obtain ⟨hmatch, hanswer⟩ := c.matches_apply h
    obtain ⟨answers, last, last', hrun, hrun', hlast⟩ :=
      ih (c.wellFormed_apply hm) (c.wellFormed_apply hn) hmatch
    refine ⟨(c.apply m).2 :: answers, last, last', ?_, ?_, hlast⟩
    · simp only [runChanges, Model.step_eq hm, hrun]
      rfl
    · simp only [runChanges, Model.step_eq hn, hrun', hanswer]
      rfl

/-- Equality of models is an equivalence on well-formed models. Whatever change is made to two models
that are equal, it succeeds on both, answers the same and leaves models that are equal; and so do
changes one after the other. -/
theorem same_equivalence_and_runs :
    Equivalence (fun m n : { m : Model // m.WellFormed } => m.val.same n.val = true) ∧
      ∀ m n : Model, m.WellFormed → n.WellFormed → m.same n = true →
        (∀ c : Change, ∃ answer m' n', m.step c = .ok (m', answer) ∧ n.step c = .ok (n', answer) ∧
          m'.same n' = true) ∧
        ∀ changes : List Change, ∃ answers m' n', runChanges Model.step m changes = .ok (m', answers) ∧
          runChanges Model.step n changes = .ok (n', answers) ∧ m'.same n' = true := by
  refine ⟨⟨fun m => ?_, fun {m n} h => ?_, fun {m n k} h h' => ?_⟩, fun m n hm hn h => ⟨fun c => ?_,
    fun changes => ?_⟩⟩
  · exact (Model.same_iff m.2 m.2).2 (Model.matches_equivalence.refl m.val)
  · rw [Model.same_iff m.2 n.2] at h
    exact (Model.same_iff n.2 m.2).2 (Model.matches_equivalence.symm h)
  · rw [Model.same_iff m.2 n.2] at h
    rw [Model.same_iff n.2 k.2] at h'
    exact (Model.same_iff m.2 k.2).2 (Model.matches_equivalence.trans h h')
  · obtain ⟨hmatch, hanswer⟩ := c.matches_apply ((Model.same_iff hm hn).1 h)
    refine ⟨(c.apply m).2, (c.apply m).1, (c.apply n).1, Model.step_eq hm c, ?_, ?_⟩
    · rw [Model.step_eq hn, hanswer]
    · exact (Model.same_iff (c.wellFormed_apply hm) (c.wellFormed_apply hn)).2 hmatch
  · obtain ⟨answers, m', n', hrun, hrun', hm', hn', hmatch⟩ :=
      matches_runChanges hm hn ((Model.same_iff hm hn).1 h) changes
    exact ⟨answers, m', n', hrun, hrun', (Model.same_iff hm' hn').2 hmatch⟩

/-- Two models whose fields and annotations are in other orders, and a change of each kind. -/
theorem same_equivalence_and_runs_reordered :
    let m : Model := ⟨"M", [⟨"a", "A", "", [.custom "x", .custom "y"]⟩, ⟨"b", "B", "text", []⟩]⟩
    let n : Model := ⟨"M", [⟨"b", "B", "text", []⟩, ⟨"a", "A", "", [.custom "y", .custom "x"]⟩]⟩
    let changes : List Change :=
      [.annotate "a" (.custom "y"), .suppress Suppression.twice, .add "b" "C" "" [], .reload true,
        .add "c" "C" "" [.jsonIgnore], .document "c" "more", .annotate "b" .jsonIgnore,
        .reload false]
    (m.WellFormed ∧ n.WellFormed ∧ m.same n = true) ∧
      ∃ answers m' n', runChanges Model.step m changes = .ok (m', answers) ∧
        runChanges Model.step n changes = .ok (n', answers) ∧ m'.same n' = true := by
  intro m n changes
  have hm : m.WellFormed := ⟨by decide, by decide⟩
  have hn : n.WellFormed := ⟨by decide, by decide⟩
  have hsame : m.same n = true := by decide
  exact ⟨⟨hm, hn, hsame⟩, (same_equivalence_and_runs.2 m n hm hn hsame).2 changes⟩

end SchemaRules
