import SchemaRules.Entries
import SchemaRules.Path

/-!
# Commands and arguments

The program is asked for a command by the words after its name. A command takes options, which
begin with a dash, and operands. A long option has its value after `=` or in the next word; short
options may share a word, and the rest of the word is the value of the first that takes one. After
`--` every word is an operand. No option may be given twice.

* `Command`, `Request`: what the program can be asked to do.
* `Request.read`: what the words ask for.
-/

namespace SchemaRules

/-- A task. -/
inductive Command where
  /-- Mark the fields of a model that the schema lists. -/
  | ignore (schema : String) (model : Path) (pretty : Bool) (output : Option Path)
  /-- Check a schema id and name its package. -/
  | checkId (id : String) (strict : Bool)
  /-- Say what a locator is and where it leads. -/
  | locate (locator : String) (json : Bool)
  deriving DecidableEq, Repr

/-- What the arguments of the program ask for. -/
inductive Request where
  | run (config : Option Path) (command : Command)
  | version
  | help
  /-- The arguments make no sense. -/
  | misuse
  deriving DecidableEq, Repr

namespace Arguments

/-- Why words are not read to their end. -/
inductive Stop where
  | misuse
  | help
  | version
  deriving DecidableEq, Repr

/-- What an option does. -/
inductive Effect where
  | flag
  | text
  /-- It takes the path of a file, which is not empty. -/
  | path
  | help
  | version
  deriving DecidableEq, Repr

/-- Whether an option takes a value. -/
def Effect.takesValue : Effect → Bool
  | text => true
  | path => true
  | _ => false

/-- An option. -/
structure Switch where
  long : String
  short : Option Char
  effect : Effect

/-- What may stand at one level of the words. -/
structure Grammar where
  switches : List Switch
  /-- How many operands are taken. -/
  operands : Nat
  /-- The words that begin the next level. -/
  subcommands : List String := []

/-- What has been given at one level. -/
structure Given where
  values : List (String × String) := []
  operands : List String := []

/-- The value of an option. -/
def Given.value? (g : Given) (long : String) : Option String :=
  g.values.lookup long

/-- Whether a flag is set. -/
def Given.has (g : Given) (long : String) : Bool :=
  (g.value? long).isSome

/-- Gives an option a value. -/
def give (g : Given) (s : Switch) (value : String) : Except Stop Given :=
  if g.has s.long ∨ (s.effect = .path ∧ value = "") then .error .misuse
  else .ok { g with values := g.values ++ [(s.long, value)] }

/-- Takes an option that has no value. -/
def turn (g : Given) (s : Switch) : Except Stop Given :=
  match s.effect with
  | .help => .error .help
  | .version => .error .version
  | _ => give g s ""

/-- Takes an operand. -/
def operand (grammar : Grammar) (g : Given) (word : String) : Except Stop Given :=
  if g.operands.length < grammar.operands then
    .ok { g with operands := g.operands ++ [word] }
  else .error .misuse

/-- Whether a word is an option or several: a lone dash is not. -/
def isOption (word : String) : Bool :=
  match word.toList with
  | '-' :: _ :: _ => true
  | _ => false

/-- Gives an option the next word for its value. -/
def giveNext (g : Given) (s : Switch) (next : Option String) : Except Stop (Given × Bool) :=
  match next with
  | some word => if isOption word then .error .misuse else (give g s word).map (·, true)
  | none => .error .misuse

/-- Takes a long option, and says whether the next word was its value. -/
def long (grammar : Grammar) (g : Given) (word : List Char) (next : Option String) :
    Except Stop (Given × Bool) := do
  let name := String.ofList (word.takeWhile (· != '='))
  match grammar.switches.find? (·.long == name), word.dropWhile (· != '=') with
  | none, _ => .error .misuse
  | some s, [] => if s.effect.takesValue then giveNext g s next else return (← turn g s, false)
  | some s, _ :: value =>
    if s.effect.takesValue then return (← give g s (String.ofList value), false)
    else .error .misuse

/-- Takes short options, and says whether the next word was the value of the last. -/
def short (grammar : Grammar) (g : Given) (letters : List Char) (next : Option String) :
    Except Stop (Given × Bool) :=
  match letters with
  | [] => .ok (g, false)
  | c :: rest =>
    match grammar.switches.find? (·.short == some c) with
    | none => .error .misuse
    | some s =>
      if s.effect.takesValue then
        match rest with
        | [] => giveNext g s next
        | '=' :: value => (give g s (String.ofList value)).map (·, false)
        | value => (give g s (String.ofList value)).map (·, false)
      else do
        let g ← turn g s
        short grammar g rest next

/-- Takes one word, and says whether the next word was taken with it. -/
def take (grammar : Grammar) (g : Given) (word : String) (next : Option String) :
    Except Stop (Given × Bool) :=
  match word.toList with
  | '-' :: '-' :: name => long grammar g name next
  | '-' :: c :: letters => short grammar g (c :: letters) next
  | _ => (operand grammar g word).map (·, false)

/-- Takes the words of one level. A word that begins the next level ends it; it and the words
after it are left. -/
def level (grammar : Grammar) (g : Given) (words : List String) :
    Except Stop (Given × List String) :=
  match words with
  | [] => .ok (g, [])
  | word :: rest =>
    if grammar.subcommands.contains word then .ok (g, word :: rest)
    else if word = "--" then (rest.foldlM (operand grammar) g).map (·, [])
    else
      match take grammar g word rest.head? with
      | .error stop => .error stop
      | .ok (g, tookNext) => level grammar g (if tookNext then rest.tail else rest)
termination_by words.length
decreasing_by
  split
  · simp only [List.length_tail, List.length_cons]; omega
  · simp

/-- The option that asks for help. -/
def help : Switch := ⟨"help", some 'h', .help⟩

/-- The option that names a configuration. It may stand at every level. -/
def config : Switch := ⟨"config", some 'c', .path⟩

/-- What may stand before the command. -/
def program : Grammar where
  switches := [config, help, ⟨"version", some 'V', .version⟩]
  operands := 0
  subcommands := ["ignore", "check-id", "locate", "help"]

/-- What may stand after `ignore`. -/
def ignore : Grammar where
  switches :=
    [⟨"schema", some 's', .text⟩, ⟨"model", some 'm', .path⟩, ⟨"pretty", some 'p', .flag⟩,
      ⟨"output", some 'o', .path⟩, config, help]
  operands := 0

/-- What may stand after `check-id`. -/
def checkId : Grammar where
  switches := [⟨"strict", none, .flag⟩, config, help]
  operands := 1

/-- What may stand after `locate`. -/
def locate : Grammar where
  switches := [⟨"json", some 'j', .flag⟩, config, help]
  operands := 1

/-- The words of a command after its name. Nothing may be left, and nothing may be missing. -/
def command (grammar : Grammar) (build : Given → Option Command) (words : List String) :
    Except Stop (Option Path × Command) := do
  let (g, _) ← level grammar {} words
  match build g with
  | some c => return ((g.value? config.long).map Path.ofString, c)
  | none => throw .misuse

/-- The command of its name and the words after it. -/
def named (name : String) (words : List String) : Except Stop (Option Path × Command) :=
  match name with
  | "ignore" =>
    command ignore (fun g => do
      return .ignore (← g.value? "schema") (Path.ofString (← g.value? "model")) (g.has "pretty")
        ((g.value? "output").map Path.ofString)) words
  | "check-id" =>
    command checkId (fun g => g.operands.head?.map (.checkId · (g.has "strict"))) words
  | "locate" =>
    command locate (fun g => g.operands.head?.map (.locate · (g.has "json"))) words
  | "help" =>
    match words with
    | [] => throw .help
    | [topic] => if program.subcommands.contains topic then throw .help else throw .misuse
    | _ => throw .misuse
  | _ => throw .misuse

/-- The configuration and the command that words ask for. The configuration that stands after the
command wins. -/
def read (words : List String) : Except Stop (Option Path × Command) := do
  match ← level program {} words with
  | (g, name :: rest) =>
    let (inner, c) ← named name rest
    return (inner.or ((g.value? config.long).map Path.ofString), c)
  | (_, []) => throw .misuse

end Arguments

/-- What the words after the program's name ask for. -/
def Request.read (words : List String) : Request :=
  match Arguments.read words with
  | .ok (config, command) => .run config command
  | .error .misuse => .misuse
  | .error .help => .help
  | .error .version => .version

end SchemaRules
