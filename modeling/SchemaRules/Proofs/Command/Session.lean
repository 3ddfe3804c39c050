import SchemaRules.Command.Outcome
import SchemaRules.Proofs.Loading
import SchemaRules.Proofs.Delimiters

/-!
# Commands in a session

A session has a file system and what has been printed so far. Here is what each command does to
it. The loaders give in a session what they give in its file system, and leave it as it is; so a
command is told by what the files hold.

* `Session.result`: what a task gives in a session, and the session after it.
* `Session.result_settings`, `result_schema`, `result_model`: the loaders.
* `Session.result_ignoreFields`, `result_describeId_ok`, `result_describeLocator_ok`: the commands.
-/

namespace SchemaRules

namespace FileSystem

/-- The configuration of a request. -/
def settings (fs : FileSystem) (config : Option Path) : Except Error Config :=
  (Request.settings fs.source config).run

end FileSystem

namespace Session

variable {α β : Type}

/-- What a task gives in a session, and the session after it. -/
def result (s : Session) (task : ExceptT Error (StateM Session) α) : Except Error α × Session :=
  task.run.run s

theorem result_bind_ok {s next : Session} {task : ExceptT Error (StateM Session) α} {a : α}
    (h : s.result task = (.ok a, next)) (f : α → ExceptT Error (StateM Session) β) :
    s.result (task >>= f) = next.result (f a) := by
  unfold result at h ⊢
  rw [ExceptT.run_bind, StateT.run_bind, h]
  rfl

theorem result_bind_error {s next : Session} {task : ExceptT Error (StateM Session) α} {e : Error}
    (h : s.result task = (.error e, next)) (f : α → ExceptT Error (StateM Session) β) :
    s.result (task >>= f) = (.error e, next) := by
  unfold result at h ⊢
  rw [ExceptT.run_bind, StateT.run_bind, h]
  rfl

theorem result_lift {s next : Session} {act : StateM Session α} {a : α}
    (h : act.run s = (a, next)) :
    s.result (liftM act : ExceptT Error (StateM Session) α) = (.ok a, next) := by
  have hrun : s.result (liftM act : ExceptT Error (StateM Session) α) =
      (.ok (act.run s).1, (act.run s).2) := rfl
  rw [hrun, h]

section

variable (s : Session) (base : Path)

/-! ## Loaders -/

theorem run_text (p : Path) : ((console base).text p).run s = (s.files.source.text p, s) := by
  rw [Source.text_eq, Source.text_eq, StateT.run_map]
  rfl

theorem result_document (limit : UInt64) (p : Path) :
    s.result ((console base).document limit p) = ((s.files.source.document limit p).run, s) := by
  rw [result, Source.run_document, Source.run_document, StateT.run_map, run_text]
  rfl

theorem result_model (limit : UInt64) (p : Path) :
    s.result ((console base).model limit p) = (s.files.modelAt limit p, s) := by
  have hdocument := result_document s base limit p
  rw [result] at hdocument ⊢
  rw [FileSystem.modelAt, Source.run_model, Source.run_model, StateT.run_map, hdocument]
  rfl

theorem result_settings (config : Option Path) :
    s.result (Request.settings (console base).toSource config) = (s.files.settings config, s) := by
  cases config with
  | none => rfl
  | some p =>
    simp only [Request.settings, FileSystem.settings]
    rw [result, Source.run_config, Source.run_config, StateT.run_map, run_text]
    rfl

theorem result_schema (limit : UInt64) (locator : String) :
    s.result ((console s.files.workingPath).schema limit locator) =
      (s.files.schemaAt limit locator, s) := by
  have hlocate : (console s.files.workingPath).locate locator = s.files.source.locate locator := rfl
  rw [result, FileSystem.schemaAt, Source.run_schema, Source.run_schema, hlocate]
  cases s.files.source.locate locator with
  | error e => rfl
  | ok found =>
    have hdocument := result_document s s.files.workingPath limit found.2
    rw [result] at hdocument
    dsimp only
    rw [StateT.run_map, hdocument]
    rfl

/-! ## Writing -/

theorem run_write (p : Path) (content : ByteArray) :
    ((console base).write p content).run s =
      match s.files.target p with
      | .ok place => (.ok (), { s with files := s.files.writeAt place content })
      | .error fault => (.error fault, s) := by
  simp only [console, StateT.run_bind, StateT.run_get, pure_bind, FileSystem.write]
  cases s.files.target p <;> rfl

/-! ## Commands -/

/-- Fields are marked if schema and model can be loaded, and the model is written if its place can
be written to. A stage that fails leaves the session as it was. -/
theorem result_ignoreFields (c : Config) (locator : String) (model : Path) (pretty : Bool)
    (output : Option Path) :
    s.result (Command.ignoreFields (console s.files.workingPath) c locator model pretty output) =
      match s.files.schemaAt c.maxSize locator with
      | .error e => (.error e, s)
      | .ok schema =>
        match s.files.modelAt c.maxSize model with
        | .error e => (.error e, s)
        | .ok m =>
          match output with
          | none => (.ok (), { s with
              stdout := s.stdout ++ (Command.layOut pretty (c.suppress schema.root m) ++ "\n") })
          | some p =>
            match s.files.target p with
            | .error fault => (.error (.unwritable fault), s)
            | .ok place => (.ok (), { s with
                files := s.files.writeAt place
                  (Command.layOut pretty (c.suppress schema.root m)).toUTF8 }) := by
  unfold Command.ignoreFields
  have hschema := result_schema s c.maxSize locator
  cases hs : s.files.schemaAt c.maxSize locator with
  | error e =>
    rw [hs] at hschema
    exact result_bind_error hschema _
  | ok schema =>
    rw [hs] at hschema
    refine (result_bind_ok hschema _).trans ?_
    have hmodel := result_model s s.files.workingPath c.maxSize model
    cases hm : s.files.modelAt c.maxSize model with
    | error e =>
      rw [hm] at hmodel
      exact result_bind_error hmodel _
    | ok m =>
      rw [hm] at hmodel
      refine (result_bind_ok hmodel _).trans ?_
      cases output with
      | none => rfl
      | some p =>
        have hwrite := run_write s s.files.workingPath p
          (Command.layOut pretty (c.suppress schema.root m)).toUTF8
        dsimp only
        cases ht : s.files.target p with
        | error fault =>
          rw [ht] at hwrite
          exact result_bind_ok (result_lift hwrite) _
        | ok place =>
          rw [ht] at hwrite
          exact result_bind_ok (result_lift hwrite) _

/-- An id that is refused is not printed. -/
theorem result_describeId_error {policy : Policy} {id : String} {issue : IdIssue}
    (h : SchemaId.normalize policy id = .error issue) :
    s.result (Command.describeId (console base) policy id) = (.error (.invalidId id issue), s) := by
  unfold Command.describeId
  rw [h]
  rfl

/-- An id that is accepted is printed with its package. -/
theorem result_describeId_ok {policy : Policy} {id n : String}
    (h : SchemaId.normalize policy id = .ok n) :
    ∃ package, SchemaId.packageName policy id = .ok package ∧
      s.result (Command.describeId (console base) policy id) =
        (.ok (), { s with stdout := s.stdout ++ ("Schema id: " ++ id ++ "\n") ++
          ("Package:   " ++ package ++ "\n") }) := by
  -- The package is refused for the issues of the id alone, and it has none.
  cases hpackage : SchemaId.packageName policy id with
  | error issue =>
    have hcheck := SchemaId.packageName_eq_error_iff.1 hpackage
    rw [SchemaId.normalize_eq_error_iff.2 hcheck] at h
    cases h
  | ok package =>
    obtain rfl := ((SchemaId.normalize_ok_iff policy id n).1 h).2
    refine ⟨package, rfl, ?_⟩
    unfold Command.describeId
    rw [h, hpackage]
    rfl

theorem result_describeLocator_error {locator : String} {json : Bool} {e : Error}
    (h : Command.urlAndPath base locator = .error e) :
    s.result (Command.describeLocator (console base) locator json) = (.error e, s) := by
  unfold Command.describeLocator
  rw [show (console base).base = base from rfl, h]
  rfl

theorem result_describeLocator_ok {locator : String} (json : Bool) {found : Url × Option Path}
    (h : Command.urlAndPath base locator = .ok found) :
    ∃ stdout, s.result (Command.describeLocator (console base) locator json) =
      (.ok (), { s with stdout := stdout }) := by
  obtain ⟨url, path⟩ := found
  unfold Command.describeLocator
  rw [show (console base).base = base from rfl, h]
  cases json with
  | true => exact ⟨_, rfl⟩
  | false =>
    cases path with
    | none => exact ⟨_, rfl⟩
    | some p => exact ⟨_, rfl⟩

end

end Session

end SchemaRules
