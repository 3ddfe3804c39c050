import SchemaRules.Loader

/-!
# What a loader makes of a file

A loader reads one file, once, and all else is a function of what was read. So the loaders give the
same in every monad in which the files are the same, and their errors can be read off the text.

* `textOf`, `documentOf`: the text of a file, and the text of a document.
* `schemaOf`, `modelOf`, `configOf`: what is made of it.
* `Source.text_eq`, `run_document`, `run_schema`, `run_model`, `run_config`: the loaders.
* `Source.run_schema_read`, `run_model_read`: a schema and a model, told from what was read.
* `FileSystem.schemaAt`, `modelAt`, `configAt`: what they give in a file system.
* `FileSystem.schemaAt_eq_ok_iff`, `modelAt_eq_ok_iff`, `configAt_eq_ok_iff`: what is loaded, and
  the text that it is read from.
-/

namespace SchemaRules

namespace Source

/-- The text of what was read. -/
def textOf : Except FileFault ByteArray → Except FileFault String
  | .error fault => .error fault
  | .ok content =>
    match String.fromUTF8? content with
    | some text => .ok text
    | none => .error .notUtf8

/-- The bytes of a text are read as the text. -/
theorem textOf_toUTF8 (text : String) : textOf (.ok text.toUTF8) = .ok text := by
  have hvalid : text.toUTF8.IsValidUTF8 := text.isValidUTF8
  have hread : String.fromUTF8? text.toUTF8 = some text := by
    rw [String.fromUTF8?, dif_pos hvalid]
    rfl
  rw [textOf, hread]

theorem textOf_of_not_valid {bytes : ByteArray} (h : ¬bytes.IsValidUTF8) :
    textOf (.ok bytes) = .error .notUtf8 := by
  have hread : String.fromUTF8? bytes = none := dif_neg h
  rw [textOf, hread]

/-- A text was read from its own bytes and from no others. -/
theorem textOf_eq_ok_iff {content : Except FileFault ByteArray} {text : String} :
    textOf content = .ok text ↔ content = .ok text.toUTF8 := by
  refine ⟨fun h => ?_, fun h => h ▸ textOf_toUTF8 text⟩
  cases content with
  | error fault => cases h
  | ok bytes =>
    by_cases hvalid : bytes.IsValidUTF8
    · obtain ⟨found, rfl⟩ : ∃ found : String, bytes = found.toUTF8 :=
        ⟨.ofByteArray bytes hvalid, rfl⟩
      rw [textOf_toUTF8] at h
      rw [Except.ok.inj h]
    · rw [textOf_of_not_valid hvalid] at h
      cases h

/-- The text of a document at a path. -/
def documentOf (limit : UInt64) (p : Path) : Except FileFault String → Except Error String
  | .error fault => .error (.unreadable p fault)
  | .ok text =>
    if limit.toNat < text.utf8ByteSize then .error (.tooLarge text.utf8ByteSize limit)
    else .ok text

/-- The model of a document. -/
def modelOf (text : String) : Except Error Model :=
  (Model.read text).mapError .ofModel

/-- The schema of a document that a URL leads to. -/
def schemaOf (url : Url) (text : String) : Except Error Schema :=
  ((Node.read text).map fun root => ⟨url, root⟩).mapError .json

/-- The configuration in a file at a path. -/
def configOf (p : Path) : Except FileFault String → Except Error Config
  | .error fault => .error (.unreadableConfig p fault)
  | .ok text =>
    match Config.read text with
    | .error e => .error (.json e)
    | .ok config => (config.check.map fun _ => config).mapError .badConfig

/-- What is made of a document is made of a text that is not too large. -/
theorem bind_documentOf_eq_ok_iff {α : Type} {parse : String → Except Error α} {limit : UInt64}
    {p : Path} {found : Except FileFault String} {a : α} :
    (documentOf limit p found).bind parse = .ok a ↔
      ∃ text, found = .ok text ∧ text.utf8ByteSize ≤ limit.toNat ∧ parse text = .ok a := by
  constructor
  · intro h
    cases found with
    | error fault => cases h
    | ok text =>
      rw [documentOf] at h
      split at h
      · cases h
      · next hsize => exact ⟨text, rfl, Nat.not_lt.1 hsize, h⟩
  · rintro ⟨text, rfl, hsize, hparse⟩
    rw [documentOf, if_neg (Nat.not_lt.2 hsize)]
    exact hparse

theorem modelOf_eq_ok_iff {text : String} {model : Model} :
    modelOf text = .ok model ↔ Model.read text = .ok model := by
  rw [modelOf]
  cases Model.read text with
  | error e => constructor <;> intro h <;> cases h
  | ok found =>
    constructor <;> intro h
    · exact congrArg Except.ok (Except.ok.inj h)
    · rw [h]
      rfl

theorem schemaOf_eq_ok_iff {url : Url} {text : String} {schema : Schema} :
    schemaOf url text = .ok schema ↔ schema.url = url ∧ Node.read text = .ok schema.root := by
  obtain ⟨found, root⟩ := schema
  rw [schemaOf]
  cases Node.read text with
  | error e =>
    constructor
    · intro h
      cases h
    · rintro ⟨-, h⟩
      cases h
  | ok read =>
    constructor
    · intro h
      cases h
      exact ⟨rfl, rfl⟩
    · rintro ⟨rfl, h⟩
      cases h
      rfl

/-- A configuration is made of a text only if it can be used. -/
theorem configOf_eq_ok_iff {p : Path} {found : Except FileFault String} {config : Config} :
    configOf p found = .ok config ↔
      ∃ text, found = .ok text ∧ Config.read text = .ok config ∧ config.check = .ok () := by
  constructor
  · intro h
    cases found with
    | error fault => cases h
    | ok text =>
      rw [configOf] at h
      cases hread : Config.read text with
      | error e =>
        rw [hread] at h
        cases h
      | ok read =>
        rw [hread] at h
        dsimp only at h
        cases hcheck : read.check with
        | error fault =>
          rw [hcheck] at h
          cases h
        | ok _ =>
          rw [hcheck] at h
          obtain rfl : read = config := Except.ok.inj h
          exact ⟨text, rfl, hread, hcheck⟩
  · rintro ⟨text, rfl, hread, hcheck⟩
    rw [configOf, hread]
    dsimp only
    rw [hcheck]
    rfl

variable {m : Type → Type} [Monad m] [LawfulMonad m] (s : Source m)

theorem text_eq (p : Path) : s.text p = textOf <$> s.read p := by
  rw [text, ← bind_pure_comp]
  refine bind_congr fun content => ?_
  cases content with
  | error fault => rfl
  | ok content =>
    dsimp only [textOf]
    cases String.fromUTF8? content <;> rfl

theorem run_document (limit : UInt64) (p : Path) :
    (s.document limit p).run = documentOf limit p <$> s.text p := by
  rw [document, ← bind_pure_comp]
  refine (ExceptT.run_bind_lift _ _).trans (bind_congr fun text => ?_)
  cases text with
  | error fault => rfl
  | ok text =>
    dsimp only [documentOf]
    split
    · rw [ExceptT.bind_throw, ExceptT.run_throw]
    · rfl

theorem run_model (limit : UInt64) (p : Path) :
    (s.model limit p).run = (fun text => text.bind modelOf) <$> (s.document limit p).run := by
  rw [model, ExceptT.run_bind, ← bind_pure_comp]
  refine bind_congr fun document => ?_
  cases document with
  | error e => rfl
  | ok text =>
    dsimp only [modelOf, Except.bind]
    cases Model.read text <;> rfl

theorem run_schema (limit : UInt64) (locator : String) :
    (s.schema limit locator).run =
      match s.locate locator with
      | .error e => pure (.error e)
      | .ok (url, p) => (fun text => text.bind (schemaOf url)) <$> (s.document limit p).run := by
  rw [schema]
  cases s.locate locator with
  | error e =>
    have hthrow : (liftM (.error e : Except Error (Url × Path)) : ExceptT Error m (Url × Path)) =
        throw e := rfl
    rw [hthrow, ExceptT.bind_throw, ExceptT.run_throw]
  | ok found =>
    have hpure : (liftM (.ok found : Except Error (Url × Path)) : ExceptT Error m (Url × Path)) =
        pure found := rfl
    rw [hpure, pure_bind, ExceptT.run_bind]
    dsimp only
    rw [← bind_pure_comp]
    refine bind_congr fun document => ?_
    cases document with
    | error e => rfl
    | ok text =>
      dsimp only [schemaOf, Except.bind]
      cases Node.read text <;> rfl

theorem run_config (p : Path) : (s.config p).run = configOf p <$> s.text p := by
  rw [config, ← bind_pure_comp]
  refine (ExceptT.run_bind_lift _ _).trans (bind_congr fun text => ?_)
  cases text with
  | error fault => rfl
  | ok text =>
    dsimp only [configOf]
    cases Config.read text with
    | error e => rfl
    | ok config =>
      dsimp only
      cases config.check <;> rfl

/-- A model is made of one file, read once. -/
theorem run_model_read (limit : UInt64) (p : Path) :
    (s.model limit p).run =
      (fun content => (documentOf limit p (textOf content)).bind modelOf) <$> s.read p := by
  rw [run_model, run_document, text_eq, Functor.map_map, Functor.map_map]

/-- A schema is made of one file, read once, if its locator leads to one. -/
theorem run_schema_read (limit : UInt64) (locator : String) :
    (s.schema limit locator).run =
      match s.locate locator with
      | .error e => pure (.error e)
      | .ok (url, p) =>
        (fun content => (documentOf limit p (textOf content)).bind (schemaOf url)) <$>
          s.read p := by
  rw [run_schema]
  cases s.locate locator with
  | error e => rfl
  | ok found =>
    dsimp only
    rw [run_document, text_eq, Functor.map_map, Functor.map_map]

end Source

/-! ## Files -/

namespace FileSystem

/-- The schema that a locator leads to. -/
def schemaAt (fs : FileSystem) (limit : UInt64) (locator : String) : Except Error Schema :=
  (fs.source.schema limit locator).run

/-- The model that a path leads to. -/
def modelAt (fs : FileSystem) (limit : UInt64) (p : Path) : Except Error Model :=
  (fs.source.model limit p).run

/-- The configuration in the file at a path. -/
def configAt (fs : FileSystem) (p : Path) : Except Error Config :=
  (fs.source.config p).run

theorem modelAt_eq (fs : FileSystem) (limit : UInt64) (p : Path) :
    fs.modelAt limit p =
      (Source.documentOf limit p (Source.textOf (fs.read p))).bind Source.modelOf :=
  fs.source.run_model_read limit p

theorem schemaAt_eq (fs : FileSystem) (limit : UInt64) (locator : String) :
    fs.schemaAt limit locator =
      match fs.source.locate locator with
      | .error e => .error e
      | .ok (url, p) =>
        (Source.documentOf limit p (Source.textOf (fs.read p))).bind (Source.schemaOf url) :=
  fs.source.run_schema_read limit locator

theorem configAt_eq (fs : FileSystem) (p : Path) :
    fs.configAt p = Source.configOf p (Source.textOf (fs.read p)) := by
  have hconfig := fs.source.run_config p
  rw [Source.text_eq] at hconfig
  exact hconfig

variable {fs : FileSystem} {limit : UInt64} {p : Path}

/-- A model is loaded just from a file that holds a text that is not too large and is read as the
model. -/
theorem modelAt_eq_ok_iff {model : Model} :
    fs.modelAt limit p = .ok model ↔
      ∃ text, fs.read p = .ok text.toUTF8 ∧ text.utf8ByteSize ≤ limit.toNat ∧
        Model.read text = .ok model := by
  simp only [modelAt_eq, Source.bind_documentOf_eq_ok_iff, Source.textOf_eq_ok_iff,
    Source.modelOf_eq_ok_iff]

/-- A schema is loaded just from the file that its locator leads to. -/
theorem schemaAt_eq_ok_iff {url : Url} {locator : String} {schema : Schema}
    (hlocate : fs.source.locate locator = .ok (url, p)) :
    fs.schemaAt limit locator = .ok schema ↔
      ∃ text, fs.read p = .ok text.toUTF8 ∧ text.utf8ByteSize ≤ limit.toNat ∧
        schema.url = url ∧ Node.read text = .ok schema.root := by
  simp only [schemaAt_eq, hlocate, Source.bind_documentOf_eq_ok_iff, Source.textOf_eq_ok_iff,
    Source.schemaOf_eq_ok_iff]

theorem configAt_eq_ok_iff {config : Config} :
    fs.configAt p = .ok config ↔
      ∃ text, fs.read p = .ok text.toUTF8 ∧ Config.read text = .ok config ∧
        config.check = .ok () := by
  simp only [configAt_eq, Source.configOf_eq_ok_iff, Source.textOf_eq_ok_iff]

end FileSystem

end SchemaRules
