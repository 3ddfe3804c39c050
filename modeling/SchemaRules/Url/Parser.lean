import SchemaRules.Url.Segment

/-!
# Reading URLs

`Url.read` reads a URL that stands on its own. The text is read from left to right, part by
part; each part ends at a character that it cannot hold. Tabs and line ends are left out wherever
they stand, but in a file URL they still break a drive letter off.
-/

namespace SchemaRules.Url

/-- Whether a character ends an authority. -/
def Kind.endsAuthority (k : Kind) (c : Char) : Bool :=
  k.isSlash c || c == '?' || c == '#'

/-- The parts before and after the last of a character. -/
def splitLast? (c : Char) (text : List Char) : Option (List Char × List Char) :=
  let after := text.reverse.takeWhile (· != c)
  match text.reverse.dropWhile (· != c) with
  | [] => none
  | _ :: before => some (before.reverse, after.reverse)

/-- The user and the password of an account. -/
def readAccount (text : List Char) : List Char × List Char :=
  let encode := Percent.encodeText Reserved.userinfo
  (encode (text.takeWhile (· != ':')), encode ((text.dropWhile (· != ':')).drop 1))

/-- Takes the account from the start of an authority: user, password and what follows. -/
def splitAccount (k : Kind) (text : List Char) :
    Except Fault (List Char × List Char × List Char) :=
  let rest := text.dropWhile fun c => !k.endsAuthority c
  match splitLast? '@' (text.takeWhile fun c => !k.endsAuthority c) with
  | none => .ok ([], [], text)
  | some (account, after) =>
    if account.isEmpty && after.isEmpty && !rest.isEmpty then .error .emptyHost
    else
      let (user, password) := readAccount account
      .ok (user, password, after ++ rest)

/-- The text of a host and what follows it. A colon ends a host, but not between brackets. -/
def spanHost (k : Kind) (inside : Bool) : List Char → List Char × List Char
  | [] => ([], [])
  | c :: rest =>
    if (c == ':' && !inside) || k.endsAuthority c then ([], c :: rest)
    else
      let (host, after) := spanHost k (c == '[' || (c != ']' && inside)) rest
      (c :: host, after)

/-- The `portNumber` that a kind of URL has where none is written. -/
def Kind.standardPort : Kind → Option UInt16
  | .web standard => some standard
  | _ => none

/-- Takes a `portNumber`, after its colon, and gives what follows it. -/
def splitPort (k : Kind) (text : List Char) : Except Fault (Option UInt16 × List Char) :=
  let digits := text.takeWhile Char.isDigit
  let rest := text.dropWhile Char.isDigit
  let n := digits.foldl (fun n c => n * 10 + (c.toNat - '0'.toNat)) 0
  if 65535 < n || !(rest.head?.all ['/', '\\', '?', '#'].contains) then .error .badPort
  else
    let number := UInt16.ofNat n
    .ok (if digits.isEmpty || some number == k.standardPort then none else some number, rest)

/-- Takes the authority, and gives what follows it. -/
def splitAuthority (k : Kind) (text : List Char) : Except Fault (Authority × List Char) := do
  let (user, password, text) ← splitAccount k text
  let (hostText, after) := spanHost k false text
  let host ← if k = .other then Host.readText hostText else Host.readDomain hostText
  if host = .empty ∧ (after.head? = some ':' ∨ user ≠ [] ∨ password ≠ []) then throw .emptyHost
  let (portNumber, rest) ← match after with
    | ':' :: text => splitPort k text
    | _ => pure (none, after)
  return (⟨host, user, password, portNumber⟩, rest)

/-- What a query escapes. -/
def Kind.reservedQuery (k : Kind) : UInt8 → Bool :=
  if k = .other then Reserved.query else Reserved.specialQuery

/-- The query and the fragment at the end of a URL. -/
def readEnd (k : Kind) (text : List Char) : Option (List Char) × Option (List Char) :=
  let fragment := match text.dropWhile (· != '#') with
    | _ :: body => some (Percent.encodeText Reserved.fragment body)
    | [] => none
  let query := match text.takeWhile (· != '#') with
    | _ :: body => some (Percent.encodeText k.reservedQuery body)
    | [] => none
  (query, fragment)

/-- Whether a character ends a route. -/
def endsRoute (c : Char) : Bool :=
  c == '?' || c == '#'

/-- What follows the slash at the start of a text. -/
def afterSlash? (k : Kind) (text : List Char) : Option (List Char) :=
  match text.dropWhile isIgnored with
  | c :: rest => if k.isSlash c then some rest else none
  | [] => none

/-- A text without the slash at its start. -/
def dropSlash (k : Kind) (text : List Char) : List Char :=
  (afterSlash? k text).getD text

/-- A URL with a hierarchical route: the rest of its text after the authority. -/
def withRoute (k : Kind) (scheme : List Char) (authority : Option Authority) (text : List Char) :
    Url :=
  let (query, fragment) := readEnd k (visible (text.dropWhile fun c => !endsRoute c))
  let body := text.takeWhile fun c => !endsRoute c
  if k = .other ∧ body.isEmpty then ⟨scheme, authority, .segments [], query, fragment⟩
  else
    let progress := readSegments k (dropSlash k body)
    let authority :=
      if progress.dropsHost then authority.map ({ · with host := .empty }) else authority
    ⟨scheme, authority, .segments progress.names, query, fragment⟩

/-- A URL with a route that is a text. -/
def withText (k : Kind) (scheme text : List Char) : Url :=
  let (query, fragment) := readEnd k (text.dropWhile fun c => !endsRoute c)
  let body := text.takeWhile fun c => !endsRoute c
  ⟨scheme, none, .text (Percent.encodeText Reserved.controls body), query, fragment⟩

/-- The host of a file URL: this machine has none. -/
def readFileHost (text : List Char) : Except Fault Host :=
  if text.isEmpty then .ok .empty
  else do
    let host ← Host.readDomain text
    return if host == .name "localhost".toList then .empty else host

/-- Reads a file URL after its scheme. Where the host is empty, the slash after it begins one
segment more, which is empty too: a drive letter that follows is not the first segment, unless
the empty one is stepped back over. -/
def readFile (scheme text : List Char) : Except Fault Url :=
  match (afterSlash? .file text).bind (afterSlash? .file) with
  | some text =>
    let hostText := visible (text.takeWhile fun c => !Kind.file.endsAuthority c)
    let rest := text.dropWhile fun c => !Kind.file.endsAuthority c
    if isDrive hostText then .ok (withRoute .file scheme (some ⟨.empty, [], [], none⟩) text)
    else do
      let host ← readFileHost hostText
      return withRoute .file scheme (some ⟨host, [], [], none⟩)
        (if host = .empty then '/' :: rest else rest)
  | none => .ok (withRoute .file scheme (some ⟨.empty, [], [], none⟩) text)

/-- Reads a URL with an authority, after the slashes before it. -/
def readWithAuthority (k : Kind) (scheme text : List Char) : Except Fault Url := do
  let (authority, rest) ← splitAuthority k text
  return withRoute k scheme (some authority) rest

/-- Reads a URL after its scheme. -/
def readAfterScheme (scheme text : List Char) : Except Fault Url :=
  match Kind.ofScheme scheme with
  | .file => readFile scheme text
  | .web standard =>
    readWithAuthority (.web standard) scheme
      ((visible text).dropWhile (Kind.web standard).isSlash)
  | .other =>
    match visible text with
    | '/' :: '/' :: rest => readWithAuthority .other scheme rest
    | '/' :: rest => .ok (withRoute .other scheme none ('/' :: rest))
    | text => .ok (withText .other scheme text)

/-- Whether a character may stand in a scheme after its first letter. -/
def isSchemeChar (c : Char) : Bool :=
  c.isAlphanum || c == '+' || c == '-' || c == '.'

/-- Takes the scheme with its colon; letters are read in lower case. -/
def splitScheme? (text : List Char) : Option (List Char × List Char) :=
  match visible (text.takeWhile (· != ':')), text.dropWhile (· != ':') with
  | c :: scheme, _ :: rest =>
    if c.isAlpha && scheme.all isSchemeChar then some ((c :: scheme).map Char.toLower, rest)
    else none
  | _, _ => none

/-- Whether a character is a control or a space. -/
def isMargin (c : Char) : Bool :=
  c ≤ ' '

/-- A text without its margins. -/
def trimMargins (text : List Char) : List Char :=
  ((text.dropWhile isMargin).reverse.dropWhile isMargin).reverse

/-- Reads a URL. -/
def read (text : String) : Except Fault Url :=
  match splitScheme? (trimMargins text.toList) with
  | some (scheme, rest) => readAfterScheme scheme rest
  | none => .error .noScheme

end SchemaRules.Url
