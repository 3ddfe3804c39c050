import SchemaRules.Proofs.Marking

/-!
# Runs of the rule one after the other

A model may go through the rule many times, each time with a configuration, a way to resolve names
and a schema of its own. A run marks each field as often as its schema's list hits it, and marks
add up: so runs may change places, and what a second copy of a run adds are notes only.

* `Field.marked_marked`: marks add up.
* `Run.wellFormed_apply`: a run keeps a model well-formed.
* `Run.apply_comm`: two runs may change places.
* `outline_apply`: what a run does to the annotations, seen from the annotations alone.
* `applyRuns_perm_and_repeat`: runs in any order, and copies of runs.
-/

namespace SchemaRules

/-- Marks add up. -/
theorem Field.marked_marked (m n : Nat) (f : Field) : (f.marked m).marked n = f.marked (m + n) := by
  induction m generalizing f with
  | zero => rw [Suppression.marked_zero, Nat.zero_add]
  | succ m ih =>
    rw [← Suppression.marked_markField, ih, Suppression.marked_markField, Nat.add_right_comm]

theorem Field.nodup_marked {f : Field} (h : f.annotations.Nodup) (n : Nat) :
    (f.marked n).annotations.Nodup := by
  induction n generalizing f with
  | zero => rwa [Suppression.marked_zero]
  | succ n ih =>
    rw [← Suppression.marked_markField]
    exact ih (nodup_annotate (f := f.document Suppression.note) h .jsonIgnore)

/-- The names of the fields with their annotations, in order. -/
def Model.outline (m : Model) : List (String × List Annotation) :=
  m.fields.map fun f => (f.name, f.annotations)

namespace Suppression

/-- What a run of the rule is made with. -/
structure Run where
  config : Config
  resolve : String → Option Node → String
  root : Node

namespace Run

/-- The model after a run. -/
def apply (r : Run) (m : Model) : Model :=
  suppress r.config.ignoreKeyword r.resolve r.root m

/-- How many entries of the schema's list hit a field. -/
def hitCount (r : Run) (field : String) : Nat :=
  (listed r.config.ignoreKeyword r.root).countP (hits r.resolve r.root field)

/-- A run marks each field as often as the list hits it. -/
theorem apply_eq (r : Run) (m : Model) :
    r.apply m = { m with fields := m.fields.map fun f => f.marked (r.hitCount f.name) } := by
  rw [apply, suppress_eq_foldl, foldl_applyDirective]
  rfl

theorem fieldNames_apply (r : Run) (m : Model) : (r.apply m).fieldNames = m.fieldNames := by
  rw [apply_eq, Model.fieldNames, Model.fieldNames, List.map_map]
  rfl

theorem wellFormed_apply (r : Run) {m : Model} (h : m.WellFormed) : (r.apply m).WellFormed := by
  refine ⟨by rw [fieldNames_apply]; exact h.nodup_names, ?_⟩
  intro g hg
  rw [apply_eq] at hg
  obtain ⟨f, hf, rfl⟩ := List.mem_map.1 hg
  exact Field.nodup_marked (h.nodup_annotations f hf) _

theorem apply_apply (r s : Run) (m : Model) :
    s.apply (r.apply m) =
      { m with fields := m.fields.map fun f =>
          f.marked (r.hitCount f.name + s.hitCount f.name) } := by
  rw [apply_eq, apply_eq]
  simp only [List.map_map]
  congr 1
  apply List.map_congr_left
  intro f _
  exact Field.marked_marked _ _ f

/-- Two runs may change places. -/
theorem apply_comm (r s : Run) (m : Model) : s.apply (r.apply m) = r.apply (s.apply m) := by
  rw [apply_apply, apply_apply]
  simp only [Nat.add_comm]

/-- What a run does to the annotations of a field. -/
def attach (r : Run) (e : String × List Annotation) : String × List Annotation :=
  (e.1, if r.hitCount e.1 = 0 ∨ .jsonIgnore ∈ e.2 then e.2 else e.2 ++ [.jsonIgnore])

theorem attach_attach (r : Run) (e : String × List Annotation) :
    r.attach (r.attach e) = r.attach e := by
  by_cases h : r.hitCount e.1 = 0 ∨ .jsonIgnore ∈ e.2
  · have hkept : r.attach e = e := by simp [attach, h]
    rw [hkept, hkept]
  · simp [attach, h]

end Run

/-- A run does the same to all models that have the same annotations. -/
theorem outline_apply (r : Run) (m : Model) : (r.apply m).outline = m.outline.map r.attach := by
  rw [Run.apply_eq, Model.outline, Model.outline, List.map_map, List.map_map]
  rfl

/-- The model after runs one after the other. -/
def applyRuns (runs : List Run) (m : Model) : Model :=
  runs.foldl (fun m r => r.apply m) m

/-- Runs lead to the same model in any order. -/
theorem applyRuns_perm {runs others : List Run} (h : runs.Perm others) (m : Model) :
    applyRuns runs m = applyRuns others m :=
  h.foldl_eq' (fun r _ s _ m => r.apply_comm s m) m

theorem outline_applyRuns (runs : List Run) (m : Model) :
    (applyRuns runs m).outline = runs.foldl (fun o r => o.map r.attach) m.outline := by
  induction runs generalizing m with
  | nil => rfl
  | cons r rest ih =>
    have hrest : applyRuns (r :: rest) m = applyRuns rest (r.apply m) := rfl
    rw [hrest, ih, outline_apply, List.foldl_cons]

/-- Only the first of several copies of a run attaches anything. -/
theorem foldl_replicate_attach (r : Run) (n : Nat) (o : List (String × List Annotation)) :
    (List.replicate (n + 1) r).foldl (fun o r => o.map r.attach) o = o.map r.attach := by
  induction n generalizing o with
  | zero => rfl
  | succ n ih =>
    have htwice : (o.map r.attach).map r.attach = o.map r.attach := by
      rw [List.map_map]
      exact List.map_congr_left fun e _ => r.attach_attach e
    rw [List.replicate_succ, List.foldl_cons, ih, htwice]

/-- Copies of runs attach what the runs attach. -/
theorem outline_applyRuns_flatMap_replicate (copies : List (Run × Nat)) (m : Model) :
    (applyRuns (copies.flatMap fun c => List.replicate (c.2 + 1) c.1) m).outline =
      (applyRuns (copies.map Prod.fst) m).outline := by
  rw [outline_applyRuns, outline_applyRuns]
  generalize m.outline = o
  induction copies generalizing o with
  | nil => rfl
  | cons c rest ih =>
    rw [List.flatMap_cons, List.foldl_append, foldl_replicate_attach, ih, List.map_cons,
      List.foldl_cons]

/-- Runs in any order lead to the same model. If one or more copies stand for each run, every field
still has the annotations that one copy leaves it, in the same order. -/
theorem applyRuns_perm_and_repeat (m : Model) :
    (∀ runs others : List Run, runs.Perm others → applyRuns runs m = applyRuns others m) ∧
      ∀ copies : List (Run × Nat),
        (applyRuns (copies.flatMap fun c => List.replicate (c.2 + 1) c.1) m).outline =
          (applyRuns (copies.map Prod.fst) m).outline :=
  ⟨fun _ _ h => applyRuns_perm h m, fun copies => outline_applyRuns_flatMap_replicate copies m⟩

/-- A run that keeps names as they are, and names one field twice. -/
def twice : Run :=
  ⟨{}, fun name _ => name,
    .object [("ignoredFields",
      .array [.scalar (.string "a"), .object [("b", .array [])], .scalar (.string "a")])]⟩

/-- A run with a keyword of its own, whose names all lead to one field. -/
def constant : Run :=
  ⟨{ ignoreKeyword := "hidden" }, fun _ _ => "b",
    .object [("hidden", .array [.scalar (.string "x")])]⟩

/-- Both runs mark the second of two fields, which has the annotation before. -/
theorem applyRuns_perm_and_repeat_two :
    let m : Model := ⟨"M", [⟨"a", "A", "", []⟩, ⟨"b", "B", "text", [.custom "c", .jsonIgnore]⟩]⟩
    [twice, constant].Perm [constant, twice] ∧
      applyRuns [twice, constant] m = applyRuns [constant, twice] m ∧
      (applyRuns [twice, twice, twice, constant] m).outline =
        (applyRuns [twice, constant] m).outline := by
  have h := List.Perm.swap constant twice []
  exact ⟨h, (applyRuns_perm_and_repeat _).1 _ _ h,
    (applyRuns_perm_and_repeat _).2 [(twice, 2), (constant, 0)]⟩

end Suppression

end SchemaRules
