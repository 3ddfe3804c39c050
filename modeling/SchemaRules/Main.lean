import SchemaRules.Command.Arguments
import SchemaRules.Command.Outcome

/-!
# The program

The command line on the files of this machine.
-/

namespace SchemaRules

/-- The fault that an error of the machine stands for. -/
def faultOf (e : IO.Error) : FileFault :=
  match e with
  | .noFileOrDirectory _ _ _ => .notFound
  | .inappropriateType _ 20 _ => .notDirectory
  | .inappropriateType _ 21 _ => .isDirectory
  | .inappropriateType _ _ _ => .isDirectory
  | e => .refused (toString e)

/-- Does something with the file of a path, if it can have one. -/
def withFile {α : Type} (p : Path) (act : String → IO α) : IO (Except FileFault α) := do
  match FileSystem.checkPath p, Utf8.decode? p.bytes with
  | .error fault, _ => return .error fault
  | .ok _, none => return .error .notFound
  | .ok _, some name =>
    try
      return .ok (← act name)
    catch e => return .error (faultOf e)

/-- The files and the terminal of this machine. -/
def machine : IO (Console IO) := do
  return {
    base := Path.ofString (← IO.currentDir).toString
    read := fun p => withFile p fun name => IO.FS.readBinFile name
    write := fun p content => withFile p fun name => IO.FS.writeBinFile name content
    print := fun text => IO.print text
    printError := fun text => IO.eprint text }

end SchemaRules

open SchemaRules in
/-- Runs the program. -/
def main (words : List String) : IO UInt32 := do
  (Request.read words).serve (← machine)
