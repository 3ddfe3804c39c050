import SchemaRules.Url.Basic

/-!
# Segments

The segments of a hierarchical route. `.` and `..` are not kept: they stay in place or step back
as they are read. A segment that is a drive letter is a root of its own, and is never stepped
back over; at the start of a file URL it also drops the host.

* `Url.readSegments`: the segments of a route and whether they drop the host.
-/

namespace SchemaRules.Url

/-- How a URL is read: a few schemes give hosts and slashes a meaning of their own. -/
inductive Kind where
  | file
  /-- A scheme of the network, which has a `portNumber` of its own. -/
  | web (standardPort : UInt16)
  | other
  deriving DecidableEq, Repr

namespace Kind

/-- The kind of a scheme. -/
def ofScheme (scheme : List Char) : Kind :=
  match String.ofList scheme with
  | "file" => .file
  | "http" | "ws" => .web 80
  | "https" | "wss" => .web 443
  | "ftp" => .web 21
  | _ => .other

/-- Whether a character separates segments: a slash, or a backslash except in other schemes. -/
def isSlash (k : Kind) (c : Char) : Bool :=
  c == '/' || (c == '\\' && k != .other)

end Kind

/-- Whether a character is left out wherever it stands. -/
def isIgnored (c : Char) : Bool :=
  c == '\t' || c == '\n' || c == '\r'

/-- A text without what is left out. -/
def visible (text : List Char) : List Char :=
  text.filter fun c => !isIgnored c

/-- Whether a segment stands for the one before. -/
def isParent (segment : List Char) : Bool :=
  ["..", "%2e.", ".%2e", "%2e%2e"].contains (String.ofList (segment.map Char.toLower))

/-- Whether a segment stands for no step. -/
def isHere (segment : List Char) : Bool :=
  [".", "%2e"].contains (String.ofList (segment.map Char.toLower))

/-- Whether a text is a drive letter. -/
def isDrive : List Char → Bool
  | [letter, mark] => letter.isAlpha && (mark == ':' || mark == '|')
  | _ => false

/-- The drive letter at the start of a segment that is broken off by a character that is left out,
and what is visible after it. -/
def brokenDrive? (written : List Char) : Option (List Char × List Char) :=
  match written.dropWhile isIgnored with
  | letter :: more =>
    match more.dropWhile isIgnored with
    | ':' :: rest =>
      if letter.isAlpha && rest.head?.any isIgnored && !(visible rest).isEmpty then
        some ([letter, ':'], visible rest)
      else none
    | _ => none
  | [] => none

/-- Whether a text begins with a drive letter that is a root. -/
def beginsWithDrive : List Char → Bool
  | letter :: mark :: rest => isDrive [letter, mark] && (rest.isEmpty || rest.head? == some '\\')
  | _ => false

/-- The segments without the last one, unless that is a root. -/
def stepBack (names : List (List Char)) : List (List Char) :=
  if names.getLast?.any beginsWithDrive then names else names.dropLast

/-- The segments that have been read, and whether the host is dropped. -/
structure Progress where
  names : List (List Char) := []
  dropsHost : Bool := false

namespace Progress

/-- Adds a segment to those that have been read. -/
def add (p : Progress) (segment : List Char) : Progress :=
  { p with names := p.names ++ [Percent.encodeText Reserved.path segment] }

/-- Adds the first segment of a file URL. A drive letter is written with a colon and drops the
host, and one that is broken off is a segment of its own. -/
def addRoot (p : Progress) (written : List Char) : Progress :=
  match visible written, brokenDrive? written with
  | [letter, mark], _ =>
    if isDrive [letter, mark] then ⟨[[letter, ':']], true⟩ else p.add [letter, mark]
  | _, some (drive, rest) => (p.add drive).add rest
  | segment, none => p.add segment

/-- Takes a segment as it is written. -/
def step (k : Kind) (p : Progress) (written : List Char) : Progress :=
  let segment := visible written
  if isParent segment then { p with names := stepBack p.names }
  else if isHere segment then p
  else if k = .file ∧ p.names = [] then p.addRoot written
  else p.add segment

/-- Ends a route. A text that ends in a dot segment ends in a slash. In a file URL the empty
segments at the start are dropped. -/
def finish (k : Kind) (p : Progress) (last : List Char) : Progress :=
  let segment := visible last
  let names := if isParent segment || isHere segment then p.names ++ [[]] else p.names
  if k = .file then
    let kept := names.dropWhile List.isEmpty
    { p with names := if kept.isEmpty then [[]] else kept }
  else { p with names := names }

end Progress

/-- Reads a route, without the slash at its start. -/
def readSegments (k : Kind) (text : List Char) : Progress :=
  let segments := text.splitOnP k.isSlash
  (segments.foldl (Progress.step k) {}).finish k (segments.getLast?.getD [])

end SchemaRules.Url
