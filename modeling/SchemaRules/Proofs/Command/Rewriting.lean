import SchemaRules.Proofs.Changes
import SchemaRules.Proofs.Command.Stages
import SchemaRules.Proofs.Files

/-!
# Rewriting a model file

A model may be marked in steps: every run of the program writes the model that the next run reads.
The files of such runs hold what the rule makes of the model in memory, run for run, whatever
layout each file has; only the documentation of the fields grows.

* `Suppression.Run.iterate_apply`, `Config.exists_noted`: the rule applied again and again.
* `FileSystem.run_ignore`: a run that writes a marked model.
* `FileSystem.Loads.writeAt`, `Apart.writeAt`: what such a run leaves for the next one.
* `FileSystem.runAll_chain`: runs one after the other.
* `FileSystem.runAll_rewriting`: the last file and the rule in memory.
-/

namespace SchemaRules

/-! ## The rule again and again -/

/-- A field with a number of notes after its documentation, and with annotations in place of its
own. -/
def Field.noted (notes : Nat) (annotations : List Annotation) (f : Field) : Field :=
  { f with
    documentation := f.documentation ++ String.join (List.replicate notes Suppression.note)
    annotations := annotations }

/-- One mark attaches what more of them attach. -/
theorem Field.marked_mul {n : Nat} (hn : n ≠ 0) (hits : Nat) (f : Field) :
    f.marked (n * hits) = f.noted (n * hits) (f.marked hits).annotations := by
  have hsame : (f.marked (n * hits)).annotations = (f.marked hits).annotations := by
    simp only [marked, Nat.mul_eq_zero, hn, false_or]
  rw [noted, ← hsame]
  rfl

theorem Suppression.Run.iterate_apply (r : Run) (n : Nat) (m : Model) :
    r.apply^[n] m =
      { m with fields := m.fields.map fun f => f.marked (n * r.hitCount f.name) } := by
  induction n with
  | zero => simp [marked_zero]
  | succ n ih =>
    rw [Function.iterate_succ_apply', ih, apply_eq]
    simp only [List.map_map]
    congr 1
    refine List.map_congr_left fun f _ => ?_
    rw [Nat.succ_mul]
    exact Field.marked_marked _ _ f

/-- The rule as it is configured is a run. -/
theorem Config.suppress_eq_apply (c : Config) (root : Node) :
    c.suppress root = Suppression.Run.apply ⟨c, c.resolver, root⟩ := rfl

theorem Config.wellFormed_iterate_suppress (c : Config) (root : Node) {m : Model}
    (h : m.WellFormed) (n : Nat) : ((c.suppress root)^[n] m).WellFormed := by
  rw [suppress_eq_apply]
  induction n with
  | zero => exact h
  | succ n ih =>
    rw [Function.iterate_succ_apply']
    exact Suppression.Run.wellFormed_apply _ ih

/-- Applied one or more times, the rule leaves every field the annotations that it leaves it the
first time, and as many times the notes. -/
theorem Config.exists_noted (c : Config) (root : Node) (m : Model) {n : Nat} (hn : n ≠ 0) :
    ∃ (notes : Field → Nat) (annotations : Field → List Annotation),
      (c.suppress root m).fields = m.fields.map (fun f => f.noted (notes f) (annotations f)) ∧
      ((c.suppress root)^[n] m).fields =
        m.fields.map fun f => f.noted (n * notes f) (annotations f) := by
  rw [suppress_eq_apply]
  refine ⟨fun f => Suppression.Run.hitCount ⟨c, c.resolver, root⟩ f.name,
    fun f => (f.marked (Suppression.Run.hitCount ⟨c, c.resolver, root⟩ f.name)).annotations, ?_, ?_⟩
  · rw [Suppression.Run.apply_eq]
    rfl
  · rw [Suppression.Run.iterate_apply]
    exact List.map_congr_left fun f _ => f.marked_mul hn _

namespace FileSystem

variable {fs : FileSystem} {config : Option Path} {schema : String} {c : Config} {s : Schema}

/-! ## What is loaded -/

theorem settings_some (fs : FileSystem) (p : Path) :
    fs.settings (some p) = Source.configOf p (Source.textOf (fs.read p)) :=
  fs.configAt_eq p

/-- What was written of a model is loaded, if it is not too large. -/
theorem modelAt_of_read {limit : UInt64} {p : Path} {m : Model} {pretty : Bool}
    (h : m.WellFormed) (hread : fs.read p = .ok (Command.layOut pretty m).toUTF8)
    (hsize : (Command.layOut pretty m).utf8ByteSize ≤ limit.toNat) :
    fs.modelAt limit p = .ok m :=
  modelAt_eq_ok_iff.2 ⟨_, hread, hsize, Model.read_text h pretty⟩

theorem wellFormed_of_modelAt {limit : UInt64} {p : Path} {m : Model}
    (h : fs.modelAt limit p = .ok m) : m.WellFormed := by
  obtain ⟨_, -, -, hmodel⟩ := modelAt_eq_ok_iff.1 h
  exact Model.wellFormed_of_read hmodel

/-- The files that are read besides the model: those of the configuration and the schema. -/
def inputs (fs : FileSystem) (config : Option Path) (schema : String) : List Path :=
  config.toList ++
    match fs.source.locate schema with
    | .ok (_, p) => [p]
    | .error _ => []

/-- The configuration and the schema can be loaded. -/
structure Loads (fs : FileSystem) (config : Option Path) (schema : String) (c : Config)
    (s : Schema) : Prop where
  settings : fs.settings config = .ok c
  schema : fs.schemaAt c.maxSize schema = .ok s

/-- A file can be written at a path, and it is none of those that are read besides the model. -/
def Apart (fs : FileSystem) (config : Option Path) (schema : String) (output : Path) : Prop :=
  ∃ place, fs.target output = .ok place ∧
    ∀ p ∈ fs.inputs config schema, fs.placeOf p ≠ .ok place.1

instance (output : Path) : Decidable (fs.Apart config schema output) :=
  match h : fs.target output with
  | .ok place =>
    decidable_of_iff (∀ p ∈ fs.inputs config schema, fs.placeOf p ≠ .ok place.1)
      (by simp [Apart, h])
  | .error fault => isFalse (by simp [Apart, h])

theorem mem_inputs_iff {p : Path} :
    p ∈ fs.inputs config schema ↔
      config = some p ∨ ∃ url, fs.source.locate schema = .ok (url, p) := by
  unfold inputs
  cases fs.source.locate schema with
  | error e => simp
  | ok found =>
    obtain ⟨url, q⟩ := found
    simp [eq_comm]

namespace Loads

theorem exists_read (h : fs.Loads config schema c s) {p : Path}
    (hp : p ∈ fs.inputs config schema) : ∃ content, fs.read p = .ok content := by
  rcases mem_inputs_iff.1 hp with rfl | ⟨url, hlocate⟩
  · obtain ⟨text, hread, -⟩ := configAt_eq_ok_iff.1 h.settings
    exact ⟨text.toUTF8, hread⟩
  · obtain ⟨text, hread, -⟩ := (schemaAt_eq_ok_iff hlocate).1 h.schema
    exact ⟨text.toUTF8, hread⟩

/-- Configuration and schema are loaded as before if their files are as before. -/
theorem of_read {after : FileSystem} (h : fs.Loads config schema c s)
    (hworking : after.workingPath = fs.workingPath)
    (hread : ∀ p ∈ fs.inputs config schema, after.read p = fs.read p) :
    after.Loads config schema c s := by
  have hlocate : after.source.locate schema = fs.source.locate schema := by
    unfold Source.locate
    rw [show after.source.base = fs.source.base from hworking]
  refine ⟨?_, ?_⟩
  · cases config with
    | none => exact h.settings
    | some p =>
      rw [settings_some, hread p (mem_inputs_iff.2 (.inl rfl)), ← settings_some]
      exact h.settings
  · rw [← h.schema, schemaAt_eq, schemaAt_eq, hlocate]
    cases hfound : fs.source.locate schema with
    | error e => rfl
    | ok found =>
      dsimp only
      rw [hread found.2 (mem_inputs_iff.2 (.inr ⟨found.1, hfound⟩))]

end Loads

section

variable {place : { l : Location // fs.Writable l }} {content : ByteArray}

theorem Loads.writeAt (h : fs.Loads config schema c s)
    (hplace : ∀ p ∈ fs.inputs config schema, fs.placeOf p ≠ .ok place.1) :
    (fs.writeAt place content).Loads config schema c s := by
  refine h.of_read rfl fun p hp => ?_
  obtain ⟨old, hold⟩ := h.exists_read hp
  rw [hold]
  exact read_writeAt_of_ne hold (hplace p hp)

theorem Apart.writeAt {output : Path} (h : fs.Apart config schema output)
    (hloads : fs.Loads config schema c s) :
    (fs.writeAt place content).Apart config schema output := by
  obtain ⟨other, htarget, hother⟩ := h
  refine ⟨_, target_writeAt htarget, fun p hp => ?_⟩
  -- The inputs are there before the write, so their paths lead where they led.
  obtain ⟨old, hold⟩ := hloads.exists_read hp
  obtain ⟨l, hl, -⟩ := read_eq_ok_iff.1 hold
  rw [placeOf_writeAt hl, ← hl]
  exact hother p hp

end

/-! ## Runs -/

/-- A run that loads all it reads, and whose output can be written, writes the marked model. -/
theorem run_ignore {words : List String} {model output : Path} {pretty : Bool} {m : Model}
    {place : { l : Location // fs.Writable l }}
    (hread : Request.read words = .run config (.ignore schema model pretty (some output)))
    (hloads : fs.Loads config schema c s) (hmodel : fs.modelAt c.maxSize model = .ok m)
    (htarget : fs.target output = .ok place) :
    fs.run words =
      ({}, fs.writeAt place (Command.layOut pretty (c.suppress s.root m)).toUTF8) := by
  have hsettings := Session.result_settings { files := fs } fs.workingPath config
  rw [hloads.settings] at hsettings
  have hignore := Session.result_ignoreFields { files := fs } c schema model pretty (some output)
  simp only [hloads.schema, hmodel, htarget] at hignore
  have hperform : Session.result { files := fs } (Request.perform (Session.console fs.workingPath)
      config (.ignore schema model pretty (some output))) = _ :=
    (Session.result_bind_ok hsettings _).trans hignore
  rw [run_eq_of_run hread, hperform]

/-- A run that writes a marked model leaves the next run all that it needs: the files of the
configuration and the schema, the outputs, and the model. -/
theorem exists_run_ignore {words : List String} {model output : Path} {pretty : Bool} {m : Model}
    (hread : Request.read words = .run config (.ignore schema model pretty (some output)))
    (hloads : fs.Loads config schema c s) (hmodel : fs.modelAt c.maxSize model = .ok m)
    (hapart : fs.Apart config schema output) :
    ∃ next, fs.run words = ({}, next) ∧ next.Loads config schema c s ∧
      (∀ other, fs.Apart config schema other → next.Apart config schema other) ∧
      next.read output = .ok (Command.layOut pretty (c.suppress s.root m)).toUTF8 := by
  obtain ⟨place, htarget, hplace⟩ := hapart
  refine ⟨_, run_ignore hread hloads hmodel htarget, hloads.writeAt hplace, ?_, ?_⟩
  · exact fun other hother => hother.writeAt hloads
  · exact read_writeAt htarget

/-- Runs one after the other: how each of them ends, and the file system after the last. -/
def runAll (fs : FileSystem) : List (List String) → List Outcome × FileSystem
  | [] => ([], fs)
  | words :: rest =>
    let first := fs.run words
    let others := runAll first.2 rest
    (first.1 :: others.1, others.2)

end FileSystem

/-- The requests to mark a model in steps. Each writes to a path in a layout, and the next one reads
its model there. -/
def Request.chain (config : Option Path) (schema : String) :
    Path → List (Bool × Path) → List Request
  | _, [] => []
  | model, (pretty, output) :: rest =>
    .run config (.ignore schema model pretty (some output)) :: chain config schema output rest

namespace FileSystem

variable {fs : FileSystem} {config : Option Path} {schema : String} {c : Config} {s : Schema}

/-- All runs of a chain succeed, and the last file holds what as many applications of the rule make
of the model. -/
theorem runAll_chain {words : List (List String)} {steps : List (Bool × Path)} {model : Path}
    {m : Model} (hwords : words.map Request.read = Request.chain config schema model steps)
    (hloads : fs.Loads config schema c s) (hmodel : fs.modelAt c.maxSize model = .ok m)
    (hapart : ∀ step ∈ steps, fs.Apart config schema step.2)
    (hsize : ∀ i, (h : i + 1 < steps.length) →
      (Command.layOut steps[i].1 ((c.suppress s.root)^[i + 1] m)).utf8ByteSize ≤
        c.maxSize.toNat) :
    ∃ after, fs.runAll words = (List.replicate steps.length {}, after) ∧
      ∀ step, steps.getLast? = some step → after.read step.2 =
        .ok (Command.layOut step.1 ((c.suppress s.root)^[steps.length] m)).toUTF8 := by
  -- Each run leaves the model that it marked in the file from which the next one loads it.
  induction steps generalizing words fs model m with
  | nil =>
    obtain rfl : words = [] := by simpa [Request.chain] using hwords
    exact ⟨fs, rfl, fun step hstep => by simp at hstep⟩
  | cons step rest ih =>
    obtain ⟨pretty, output⟩ := step
    cases words with
    | nil => simp [Request.chain] at hwords
    | cons first others =>
      obtain ⟨hfirst, hothers⟩ := List.cons.inj hwords
      obtain ⟨next, hrun, hnext, hkept, hwritten⟩ :=
        exists_run_ignore hfirst hloads hmodel (hapart _ List.mem_cons_self)
      cases rest with
      | nil =>
        obtain rfl : others = [] := by simpa [Request.chain] using hothers
        refine ⟨next, by simp [runAll, hrun], fun step hstep => ?_⟩
        obtain rfl : (pretty, output) = step := by simpa using hstep
        exact hwritten
      | cons second more =>
        have hsecond : next.modelAt c.maxSize output = .ok (c.suppress s.root m) :=
          modelAt_of_read (c.wellFormed_iterate_suppress s.root (wellFormed_of_modelAt hmodel) 1) hwritten
            (hsize 0 (by simp))
        obtain ⟨after, hafter, hlast⟩ := ih hothers hnext hsecond
          (fun step hstep => hkept _ (hapart step (List.mem_cons_of_mem _ hstep)))
          fun i hi => hsize (i + 1) (Nat.succ_lt_succ hi)
        refine ⟨after, by simp [runAll, hrun, hafter, List.replicate_succ], ?_⟩
        exact fun step hstep => hlast step hstep

/-- Marking a model in steps, with one or more runs of which each writes the file that the next one
reads. If the texts between two runs are not too large, all runs succeed, and the last text is read
as the model to which the rule was applied as often in memory. Every field has the annotations of
the first run, and as many times the notes. -/
theorem runAll_rewriting {words : List (List String)} {steps : List (Bool × Path)} {model : Path}
    {m : Model} (hsteps : steps ≠ [])
    (hwords : words.map Request.read = Request.chain config schema model steps)
    (hloads : fs.Loads config schema c s) (hmodel : fs.modelAt c.maxSize model = .ok m)
    (hapart : ∀ step ∈ steps, fs.Apart config schema step.2)
    (hsize : ∀ i, (h : i + 1 < steps.length) →
      (Command.layOut steps[i].1 ((c.suppress s.root)^[i + 1] m)).utf8ByteSize ≤
        c.maxSize.toNat) :
    ∃ after text, fs.runAll words = (List.replicate steps.length {}, after) ∧
      after.read (steps.getLast hsteps).2 = .ok text.toUTF8 ∧
      Model.read text = .ok ((c.suppress s.root)^[steps.length] m) ∧
      ∃ (notes : Field → Nat) (annotations : Field → List Annotation),
        (c.suppress s.root m).fields = m.fields.map (fun f => f.noted (notes f) (annotations f)) ∧
        ((c.suppress s.root)^[steps.length] m).fields =
          m.fields.map fun f => f.noted (steps.length * notes f) (annotations f) := by
  obtain ⟨after, hrun, hlast⟩ := runAll_chain hwords hloads hmodel hapart hsize
  have hwellFormed : ((c.suppress s.root)^[steps.length] m).WellFormed :=
    c.wellFormed_iterate_suppress s.root (wellFormed_of_modelAt hmodel) steps.length
  have hlength : steps.length ≠ 0 := by simpa using hsteps
  exact ⟨after, _, hrun, hlast _ (List.getLast?_eq_some_getLast hsteps),
    Model.read_text hwellFormed _, c.exists_noted s.root m hlength⟩

/-- A model is marked in its own file and then in another one. The second text is larger than the
limit. -/
theorem runAll_rewriting_twice :
    let c : Config := { ignoreKeyword := "hidden", maxSize := 200 }
    let m : Model := ⟨"M", [⟨"a", "A", "", []⟩, ⟨"bB", "B", "text", []⟩]⟩
    let steps := [(false, Path.ofString "m"), (true, Path.ofString "o")]
    let words := [["ignore", "-s", "s", "-m", "m", "-c", "c", "-o", "m"],
      ["--config=c", "ignore", "-pss", "-m=m", "--output", "o"]]
    ∃ s, sample.Loads (some (Path.ofString "c")) "s" c s ∧
      sample.modelAt c.maxSize (Path.ofString "m") = .ok m ∧
      words.map Request.read =
        Request.chain (some (Path.ofString "c")) "s" (Path.ofString "m") steps ∧
      ∃ after text, sample.runAll words = ([{}, {}], after) ∧
        after.read (Path.ofString "o") = .ok text.toUTF8 ∧
        Model.read text = .ok (c.suppress s.root (c.suppress s.root m)) := by
  intro c m steps words
  have hsettings : sample.settings (some (Path.ofString "c")) = .ok c := by decide +kernel
  have hmodel : sample.modelAt c.maxSize (Path.ofString "m") = .ok m := by decide +kernel
  have hwords : words.map Request.read =
      Request.chain (some (Path.ofString "c")) "s" (Path.ofString "m") steps := by decide +kernel
  have hapart : ∀ step ∈ steps, sample.Apart (some (Path.ofString "c")) "s" step.2 := by
    decide +kernel
  have hfirst : (sample.schemaAt c.maxSize "s").map (fun s =>
      (Command.layOut false (c.suppress s.root m)).utf8ByteSize) = .ok 176 := by decide +kernel
  cases hschema : sample.schemaAt c.maxSize "s" with
  | error e => simp [hschema, Except.map] at hfirst
  | ok s =>
    have hloads : sample.Loads (some (Path.ofString "c")) "s" c s := ⟨hsettings, hschema⟩
    have hsize : ∀ i, (h : i + 1 < steps.length) →
        (Command.layOut steps[i].1 ((c.suppress s.root)^[i + 1] m)).utf8ByteSize ≤
          c.maxSize.toNat := by
      intro i hi
      have htwo : i + 1 < 2 := hi
      obtain rfl : i = 0 := by omega
      rw [hschema] at hfirst
      rw [show (Command.layOut steps[0].1 ((c.suppress s.root)^[0 + 1] m)).utf8ByteSize = 176 from
        Except.ok.inj hfirst]
      decide
    obtain ⟨after, text, hrun, hread, htext, -⟩ :=
      runAll_rewriting (by simp [steps]) hwords hloads hmodel hapart hsize
    exact ⟨s, hloads, hmodel, hwords, after, text, hrun, hread, htext⟩

end FileSystem

end SchemaRules
