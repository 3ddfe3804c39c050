import SchemaRules.Path
import SchemaRules.Url.Basic

/-!
# File URLs

The URL of an absolute path, and the path of a URL. Each component of the path is a segment of
the URL, and bytes that a segment cannot hold are escaped.

* `Url.ofPath`, `Url.toPath?`: the two directions.
-/

namespace SchemaRules.Url

/-- The scheme of files. -/
def fileScheme : List Char :=
  "file".toList

/-- The URL of an absolute path. -/
def ofPath (p : Path) : Url :=
  let names := p.components.map (Percent.encode Reserved.fileName)
  ⟨fileScheme, some ⟨.empty, [], [], none⟩, .segments (if names.isEmpty then [[]] else names),
    none, none⟩

/-- Whether bytes end in a drive letter. -/
def endsInDrive (bytes : List UInt8) : Bool :=
  match bytes.reverse with
  | mark :: letter :: _ :: _ =>
    (mark == 0x3A || mark == 0x7C)
      && ((0x41 ≤ letter && letter ≤ 0x5A) || (0x61 ≤ letter && letter ≤ 0x7A))
  | _ => false

/-- The path of a URL of this machine. After a drive letter at the end it has a slash. -/
def toPath? (u : Url) : Option Path :=
  match u.host, u.route with
  | .empty, .segments (first :: rest) => some (pathOf (first :: rest))
  | .name host, .segments (first :: rest) =>
    if host = "localhost".toList then some (pathOf (first :: rest)) else none
  | _, _ => none
where
  /-- The path of segments. -/
  pathOf (segments : List (List Char)) : Path :=
    let bytes := segments.flatMap fun s => Path.separator :: Percent.decode s
    ⟨if endsInDrive bytes then bytes ++ [Path.separator] else bytes⟩

end SchemaRules.Url
