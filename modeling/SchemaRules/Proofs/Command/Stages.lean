import Mathlib.Tactic.ByContra
import SchemaRules.Proofs.Command.Session

/-!
# The stages of a command

A command goes through stages, and each may fail: first the configuration is loaded, then come the
command's own. Everything that a command prints or writes comes after the last stage that can fail.
So a run that fails has printed nothing but its error, which is that of the first stage that fails,
and has written nothing.

* `FileSystem.failure?`: the error of the first stage that fails, told from the files.
* `Command.Done`: what a command leaves behind that succeeds.
* `Session.result_perform`: a command fails with that error, or is done.
* `FileSystem.run_of_failure`, `run_of_success`: a run with a command.
* `FileSystem.run_exit`: the exit code of a run, its texts and its files.
-/

namespace SchemaRules

/-- The error of a result, if it is one. -/
def errorOf? {ε α : Type} : Except ε α → Option ε
  | .error e => some e
  | .ok _ => none

namespace FileSystem

/-- The error that stops marking: that of the schema, else that of the model, else that of the
output. -/
def ignoreFailure? (fs : FileSystem) (c : Config) (locator : String) (model : Path)
    (output : Option Path) : Option Error :=
  (errorOf? (fs.schemaAt c.maxSize locator)).or <|
    (errorOf? (fs.modelAt c.maxSize model)).or <|
      output.bind fun p => (errorOf? (fs.target p)).map .unwritable

/-- The error that stops the report on an id. -/
def idFailure? (policy : Policy) (id : String) : Option Error :=
  (errorOf? (SchemaId.normalize policy id)).map (.invalidId id)

/-- The error that stops the report on a locator: it has no URL, or its file URL has no path. -/
def locateFailure? (fs : FileSystem) (locator : String) : Option Error :=
  match Locator.resolve fs.workingPath locator with
  | .error fault => some (.invalidLocator locator fault)
  | .ok url =>
    if url.scheme = Url.fileScheme then
      (errorOf? (Locator.filePath url)).map (.invalidLocator url.text)
    else none

/-- The error of the first stage that fails: the configuration comes before the command. -/
def failure? (fs : FileSystem) (config : Option Path) (command : Command) : Option Error :=
  match fs.settings config with
  | .error e => some e
  | .ok c =>
    match command with
    | .ignore schema model _ output => fs.ignoreFailure? c schema model output
    | .checkId id strict => idFailure? (if strict then .strict else c.policy) id
    | .locate locator _ => fs.locateFailure? locator

end FileSystem

/-- What a command leaves behind that succeeds. -/
inductive Command.Done (s : Session) : Command → Session → Prop
  | printed {schema : String} {model : Path} {pretty : Bool} (stdout : String) :
    Done s (.ignore schema model pretty none) { s with stdout := stdout }
  | written {schema : String} {model p : Path} {pretty : Bool}
    {place : { l : Location // s.files.Writable l }} (htarget : s.files.target p = .ok place)
    (content : ByteArray) :
    Done s (.ignore schema model pretty (some p))
      { s with files := s.files.writeAt place content }
  | described {id : String} {strict : Bool} {policy : Policy} {package : String}
    (hpackage : SchemaId.packageName policy id = .ok package) :
    Done s (.checkId id strict) { s with stdout :=
      s.stdout ++ ("Schema id: " ++ id ++ "\n") ++ ("Package:   " ++ package ++ "\n") }
  | located {locator : String} {json : Bool} (stdout : String) :
    Done s (.locate locator json) { s with stdout := stdout }

namespace Command

theorem errorOf?_urlAndPath (fs : FileSystem) (locator : String) :
    errorOf? (urlAndPath fs.workingPath locator) = fs.locateFailure? locator := by
  unfold urlAndPath FileSystem.locateFailure?
  cases Locator.resolve fs.workingPath locator with
  | error fault => rfl
  | ok url =>
    simp only [Except.mapError, bind, Except.bind]
    by_cases hfile : url.scheme = Url.fileScheme
    · rw [if_pos hfile, if_pos hfile]
      cases Locator.filePath url <;> rfl
    · rw [if_neg hfile, if_neg hfile]
      rfl

end Command

namespace Session

variable (s : Session)

theorem result_ignoreFields_cases (c : Config) (locator : String) (model : Path) (pretty : Bool)
    (output : Option Path) :
    (∃ e, s.files.ignoreFailure? c locator model output = some e ∧
      s.result (Command.ignoreFields (console s.files.workingPath) c locator model pretty output) =
        (.error e, s)) ∨
    (s.files.ignoreFailure? c locator model output = none ∧
      ∃ last, s.result
          (Command.ignoreFields (console s.files.workingPath) c locator model pretty output) =
        (.ok (), last) ∧ Command.Done s (.ignore locator model pretty output) last) := by
  rw [result_ignoreFields, FileSystem.ignoreFailure?]
  cases s.files.schemaAt c.maxSize locator with
  | error e => exact .inl ⟨e, rfl, rfl⟩
  | ok schema =>
    cases s.files.modelAt c.maxSize model with
    | error e => exact .inl ⟨e, rfl, rfl⟩
    | ok m =>
      cases output with
      | none => exact .inr ⟨rfl, _, rfl, .printed _⟩
      | some p =>
        dsimp only [Option.bind_some]
        cases htarget : s.files.target p with
        | error fault => exact .inl ⟨.unwritable fault, rfl, rfl⟩
        | ok place => exact .inr ⟨rfl, _, rfl, .written htarget _⟩

theorem result_describeId_cases (policy : Policy) (id : String) (strict : Bool) :
    (∃ e, FileSystem.idFailure? policy id = some e ∧
      s.result (Command.describeId (console s.files.workingPath) policy id) = (.error e, s)) ∨
    (FileSystem.idFailure? policy id = none ∧
      ∃ last, s.result (Command.describeId (console s.files.workingPath) policy id) =
        (.ok (), last) ∧ Command.Done s (.checkId id strict) last) := by
  rw [FileSystem.idFailure?]
  cases hnormal : SchemaId.normalize policy id with
  | error issue => exact .inl ⟨_, rfl, result_describeId_error s _ hnormal⟩
  | ok n =>
    obtain ⟨package, hpackage, hresult⟩ := result_describeId_ok s s.files.workingPath hnormal
    exact .inr ⟨rfl, _, hresult, .described hpackage⟩

theorem result_describeLocator_cases (locator : String) (json : Bool) :
    (∃ e, s.files.locateFailure? locator = some e ∧
      s.result (Command.describeLocator (console s.files.workingPath) locator json) =
        (.error e, s)) ∨
    (s.files.locateFailure? locator = none ∧
      ∃ last, s.result (Command.describeLocator (console s.files.workingPath) locator json) =
        (.ok (), last) ∧ Command.Done s (.locate locator json) last) := by
  rw [← Command.errorOf?_urlAndPath]
  cases hfound : Command.urlAndPath s.files.workingPath locator with
  | error e => exact .inl ⟨e, rfl, result_describeLocator_error s _ hfound⟩
  | ok found =>
    obtain ⟨stdout, hresult⟩ := result_describeLocator_ok s s.files.workingPath json hfound
    exact .inr ⟨rfl, _, hresult, .located stdout⟩

/-- A command fails with the error of the first stage that fails, and the session stays as it was,
or no stage fails and the command is done. -/
theorem result_perform (config : Option Path) (command : Command) :
    (∃ e, s.files.failure? config command = some e ∧
      s.result (Request.perform (console s.files.workingPath) config command) = (.error e, s)) ∨
    (s.files.failure? config command = none ∧
      ∃ last, s.result (Request.perform (console s.files.workingPath) config command) =
        (.ok (), last) ∧ command.Done s last) := by
  have hsettings := result_settings s s.files.workingPath config
  unfold Request.perform FileSystem.failure?
  cases hc : s.files.settings config with
  | error e =>
    rw [hc] at hsettings
    exact .inl ⟨e, rfl, result_bind_error hsettings _⟩
  | ok c =>
    rw [hc] at hsettings
    rw [result_bind_ok hsettings]
    cases command with
    | ignore schema model pretty output =>
      exact result_ignoreFields_cases s c schema model pretty output
    | checkId id strict => exact result_describeId_cases s _ id strict
    | locate locator json => exact result_describeLocator_cases s locator json

end Session

namespace Command.Done

variable {s last : Session} {command : Command}

theorem stderr_eq (h : command.Done s last) : last.stderr = s.stderr := by
  cases h <;> rfl

/-- Only the place of the output holds another content. -/
theorem output_of_get?_ne (h : command.Done s last) {l : Location}
    (hl : last.files.get? l ≠ s.files.get? l) :
    ∃ schema model pretty output, command = .ignore schema model pretty (some output) ∧
      ∃ place, s.files.target output = .ok place ∧ l = place.1 := by
  cases h with
  | @written schema model p pretty place htarget content =>
    refine ⟨schema, model, pretty, p, rfl, place, htarget, ?_⟩
    by_contra hne
    exact hl ((FileSystem.get?_writeAt _ place content l).trans (if_neg hne))
  | printed stdout => exact absurd rfl hl
  | described hpackage => exact absurd rfl hl
  | located stdout => exact absurd rfl hl

end Command.Done

namespace FileSystem

variable {fs : FileSystem} {words : List String} {config : Option Path} {command : Command}

theorem run_eq_of_run (h : Request.read words = .run config command) :
    fs.run words =
      match Session.result { files := fs }
        (Request.perform (Session.console fs.workingPath) config command) with
      | (.ok _, last) => (⟨0, last.stdout, last.stderr⟩, last.files)
      | (.error e, last) =>
        (⟨1, last.stdout, last.stderr ++ ("Error: " ++ e.message ++ "\n")⟩, last.files) := by
  unfold run
  rw [h]
  simp only [Request.serve, StateT.run_bind, Session.result]
  cases hperform : (Request.perform (Session.console fs.workingPath) config command).run.run
    { files := fs } with
  | mk found last => cases found <;> rfl

/-- A run whose command fails prints the error and nothing else, and leaves the files as they
are. -/
theorem run_of_failure (h : Request.read words = .run config command) {e : Error}
    (hfailure : fs.failure? config command = some e) :
    fs.run words = (⟨1, "", "Error: " ++ e.message ++ "\n"⟩, fs) := by
  rw [run_eq_of_run h]
  rcases Session.result_perform { files := fs } config command with
    ⟨first, hfirst, hresult⟩ | ⟨hnone, -⟩
  · obtain rfl : first = e := Option.some.inj (hfirst.symm.trans hfailure)
    rw [hresult]
    simp
  · rw [hnone] at hfailure
    cases hfailure

theorem run_of_success (h : Request.read words = .run config command)
    (hfailure : fs.failure? config command = none) :
    ∃ last, command.Done { files := fs } last ∧
      fs.run words = (⟨0, last.stdout, ""⟩, last.files) := by
  rw [run_eq_of_run h]
  rcases Session.result_perform { files := fs } config command with
    ⟨first, hfirst, -⟩ | ⟨-, last, hresult, hdone⟩
  · rw [hfailure] at hfirst
    cases hfirst
  · refine ⟨last, hdone, ?_⟩
    rw [hresult]
    simp [hdone.stderr_eq]

/-- A run without a command fails at nothing and leaves the files as they are. -/
theorem run_of_text (fs : FileSystem) {words : List String}
    (h : Request.read words = .version ∨ Request.read words = .help) :
    ∃ stdout, fs.run words = (⟨0, stdout, ""⟩, fs) := by
  unfold run
  rcases h with h | h <;> rw [h] <;> exact ⟨_, rfl⟩

/-- A run whose words make sense exits with 0 or 1. With 1 it has printed nothing but the error of
the first stage that fails, and the files are as before. With 0 no stage fails, nothing stands on
the standard error, and only the output's place may hold another content. An id is printed with its
package or not at all. -/
theorem run_exit {fs after : FileSystem} {words : List String} {outcome : Outcome}
    (hwords : Request.read words ≠ .misuse) (hrun : fs.run words = (outcome, after)) :
    (outcome.code = 0 ∨ outcome.code = 1) ∧
    (outcome.code = 1 → outcome.stdout = "" ∧ after = fs ∧
      ∃ config command e, Request.read words = .run config command ∧
        fs.failure? config command = some e ∧
        outcome.stderr = "Error: " ++ e.message ++ "\n") ∧
    (outcome.code = 0 → outcome.stderr = "" ∧
      (∀ config command, Request.read words = .run config command →
        fs.failure? config command = none) ∧
      ∀ l, after.get? l ≠ fs.get? l → ∃ config schema model pretty output,
        Request.read words = .run config (.ignore schema model pretty (some output)) ∧
        ∃ place, fs.target output = .ok place ∧ l = place.1) ∧
    ∀ config id strict, Request.read words = .run config (.checkId id strict) →
      (outcome.code = 1 ∧ outcome.stdout = "") ∨
      (outcome.code = 0 ∧ ∃ policy package, SchemaId.packageName policy id = .ok package ∧
        outcome.stdout = "Schema id: " ++ id ++ "\n" ++ ("Package:   " ++ package ++ "\n")) := by
  cases hread : Request.read words with
  | misuse => exact absurd hread hwords
  | version =>
    obtain ⟨stdout, htext⟩ := run_of_text fs (.inl hread)
    obtain ⟨rfl, rfl⟩ := Prod.mk.inj (htext.symm.trans hrun)
    simp
  | help =>
    obtain ⟨stdout, htext⟩ := run_of_text fs (.inr hread)
    obtain ⟨rfl, rfl⟩ := Prod.mk.inj (htext.symm.trans hrun)
    simp
  | run config command =>
    cases hfailure : fs.failure? config command with
    | some e =>
      obtain ⟨rfl, rfl⟩ := Prod.mk.inj ((run_of_failure hread hfailure).symm.trans hrun)
      refine ⟨.inr rfl, fun _ => ⟨rfl, rfl, config, command, e, rfl, hfailure, rfl⟩,
        fun h => absurd h (by simp), fun _ _ _ _ => .inl ⟨rfl, rfl⟩⟩
    | none =>
      obtain ⟨last, hdone, hlast⟩ := run_of_success hread hfailure
      obtain ⟨rfl, rfl⟩ := Prod.mk.inj (hlast.symm.trans hrun)
      refine ⟨.inl rfl, fun h => absurd h (by simp), fun _ => ⟨rfl, ?_, ?_⟩, ?_⟩
      · intro _ _ hrequest
        obtain ⟨rfl, rfl⟩ := Request.run.inj hrequest
        exact hfailure
      · intro l hl
        obtain ⟨schema, model, pretty, output, rfl, hplace⟩ := hdone.output_of_get?_ne hl
        exact ⟨config, schema, model, pretty, output, rfl, hplace⟩
      · intro _ id strict hrequest
        obtain ⟨rfl, rfl⟩ := Request.run.inj hrequest
        cases hdone with
        | described hpackage => exact .inr ⟨rfl, _, _, hpackage, rfl⟩

/-- A directory with a configuration, a schema and a model. -/
def sample : FileSystem where
  entries :=
    [([[0x63]], .file "\x7b\"ignoreKeyword\":\"hidden\",\"maxSchemaSize\":200\x7d".toUTF8),
      ([[0x73]], .file "\x7b\"hidden\":[\"b-b\",\x7b\"c\":[]\x7d,7,\"b_b\"]\x7d".toUTF8),
      ([[0x6D]],
        .file "\x7b\"name\":\"M\",\"fields\":[[\"a\",\"A\"],[\"bB\",\"B\",\"text\"]]\x7d".toUTF8)]
  workingDirectory := []
  sound := by decide +kernel
  working := rfl

/-- An output in a directory that is not there: schema and model are loaded, and nothing is
written. -/
theorem run_exit_unwritable :
    let words := ["ignore", "-s", "s", "-m", "m", "-c", "c", "-o", "d/o"]
    let outcome : Outcome := ⟨1, "", "Error: No such file or directory (os error 2)\n"⟩
    Request.read words ≠ .misuse ∧ sample.run words = (outcome, sample) ∧
      ∃ config command e, Request.read words = .run config command ∧
        sample.failure? config command = some e ∧
        outcome.stderr = "Error: " ++ e.message ++ "\n" := by
  intro words outcome
  have hread : Request.read words = .run (some (Path.ofString "c"))
      (.ignore "s" (Path.ofString "m") false (some (Path.ofString "d/o"))) := by decide +kernel
  have hwords : Request.read words ≠ .misuse := by
    rw [hread]
    exact Request.noConfusion
  have hfailure : sample.failure? (some (Path.ofString "c"))
      (.ignore "s" (Path.ofString "m") false (some (Path.ofString "d/o"))) =
        some (.unwritable .notFound) := by decide +kernel
  have hrun : sample.run words = (outcome, sample) := run_of_failure hread hfailure
  exact ⟨hwords, hrun, ((run_exit hwords hrun).2.1 rfl).2.2⟩

/-- An output that may not be written: the same. -/
example :
    (run { sample with permission := fun _ => .readOnly "Permission denied (os error 13)" }
      ["ignore", "-s", "s", "-m", "m", "-c", "c", "-o", "m"]).1 =
        ⟨1, "", "Error: Permission denied (os error 13)\n"⟩ := by
  decide +kernel

end FileSystem

end SchemaRules
