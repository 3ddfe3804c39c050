import SchemaRules.Command.Arguments
import SchemaRules.Loader

/-!
# Outcomes

What a command does on a console. It reads files, may write one, and prints; each of its stages
may stop it with an error, and what was printed before that stays printed.

* `Command.perform`: the stages of a command in their order.
* `Request.serve`: serves a request and gives the exit code.
* `FileSystem.run`: a run of the program in a file system.
-/

namespace SchemaRules

/-- Files that can be read and written, and two texts to which a program prints. -/
structure Console (m : Type → Type) extends Source m where
  write : Path → ByteArray → m (Except FileFault Unit)
  /-- Adds to the standard output. -/
  print : String → m Unit
  /-- Adds to the standard error. -/
  printError : String → m Unit

/-- How a run ends. -/
structure Outcome where
  code : UInt32 := 0
  stdout : String := ""
  stderr : String := ""
  deriving DecidableEq, Repr

namespace Command

variable {m : Type → Type} [Monad m]

/-- The text of a model in the chosen layout. -/
def layOut (pretty : Bool) (model : Model) : String :=
  if pretty then model.pretty else model.compact

/-- Marks the fields of a model and writes it to a file or to the output. -/
def ignoreFields (s : Console m) (config : Config) (schemaLocator : String) (modelPath : Path)
    (pretty : Bool) (output : Option Path) : ExceptT Error m Unit := do
  let schema ← s.schema config.maxSize schemaLocator
  let model ← s.model config.maxSize modelPath
  let text := layOut pretty (config.suppress schema.root model)
  match output with
  | none => s.print (text ++ "\n")
  | some path =>
    match ← s.write path text.toUTF8 with
    | .ok _ => return ()
    | .error fault => throw (.unwritable fault)

/-- Reports on a schema id: the id when it is accepted, and then its package. -/
def describeId (s : Console m) (policy : Policy) (id : String) : ExceptT Error m Unit := do
  let normalized ← ((SchemaId.normalize policy id).mapError (.invalidId id) : Except Error String)
  s.print ("Schema id: " ++ normalized ++ "\n")
  let package ← ((SchemaId.packageName policy id).mapError (.invalidId id) : Except Error String)
  s.print ("Package:   " ++ package ++ "\n")

/-- The URL of a locator, and its path if it is a file URL. -/
def urlAndPath (base : Path) (locator : String) : Except Error (Url × Option Path) := do
  let url ← (Locator.resolve base locator).mapError (.invalidLocator locator)
  if url.scheme = Url.fileScheme then
    let path ← (Locator.filePath url).mapError (.invalidLocator url.text)
    return (url, some path)
  else
    return (url, none)

/-- Reports on a locator. -/
def describeLocator (s : Console m) (locator : String) (json : Bool) : ExceptT Error m Unit := do
  let protocol := Protocol.ofLocator locator
  let (url, path) ← urlAndPath s.base locator
  let path := path.map Path.display
  if json then
    let value : Json.Value := .object [("protocol", .string protocol.name),
      ("url", .string url.text), ("path", path.elim (.scalar .null) .string)]
    s.print (value.pretty ++ "\n")
  else
    s.print ("Protocol: " ++ protocol.display ++ "\n")
    s.print ("URL:      " ++ url.text ++ "\n")
    match path with
    | some path => s.print ("Path:     " ++ path ++ "\n")
    | none => return ()

/-- Performs a command. -/
def perform (s : Console m) (config : Config) : Command → ExceptT Error m Unit
  | ignore schema model pretty output => ignoreFields s config schema model pretty output
  | checkId id strict => describeId s (if strict then .strict else config.policy) id
  | locate locator json => describeLocator s locator json

end Command

namespace Request

variable {m : Type → Type} [Monad m]

/-- The text of the version. -/
def versionText : String := "schemagen 0.1.0\n"

/-- The configuration of a request: that of a file, or the default one. -/
def settings (s : Source m) : Option Path → ExceptT Error m Config
  | some path => s.config path
  | none => pure {}

/-- Performs a command under the configuration of a request. -/
def perform (s : Console m) (config : Option Path) (command : Command) : ExceptT Error m Unit := do
  let c ← settings s.toSource config
  command.perform s c

/-- Serves a request, and gives the exit code. For help and misuse nothing is printed: a text about
the options decides nothing. -/
def serve (s : Console m) : Request → m UInt32
  | run config command => do
    match ← (perform s config command).run with
    | .ok _ => return 0
    | .error e =>
      s.printError ("Error: " ++ e.message ++ "\n")
      return 1
  | version => do
    s.print versionText
    return 0
  | help => return 0
  | misuse => return 2

end Request

/-- A file system, and what has been printed so far. -/
structure Session where
  files : FileSystem
  stdout : String := ""
  stderr : String := ""

/-- The console of a session; relative paths are seen from `base`. -/
def Session.console (base : Path) : Console (StateM Session) where
  base := base
  read := fun p => return (← get).files.read p
  write := fun p content => do
    match (← get).files.write p content with
    | .ok files =>
      modify fun s => { s with files := files }
      return .ok ()
    | .error fault => return .error fault
  print := fun text => modify fun s => { s with stdout := s.stdout ++ text }
  printError := fun text => modify fun s => { s with stderr := s.stderr ++ text }

/-- A run of the program in a file system: how it ends, and the file system after it. -/
def FileSystem.run (fs : FileSystem) (words : List String) : Outcome × FileSystem :=
  let last := ((Request.read words).serve (Session.console fs.workingPath)).run { files := fs }
  (⟨last.1, last.2.stdout, last.2.stderr⟩, last.2.files)

end SchemaRules
