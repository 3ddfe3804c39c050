import SchemaRules.Url.Host

/-!
# URLs

A URL names its scheme, perhaps a host with an account and a `portNumber`, a route to a resource,
and perhaps a query and a fragment. Its parts are kept as they are written, with their escapes.

* `Url.print`: the text of a URL.
-/

namespace SchemaRules

namespace Url

/-- The host that is asked, and the account and the service there. -/
structure Authority where
  host : Host
  user : List Char := []
  password : List Char := []
  /-- The number of the service, where it is not the one that the scheme implies. -/
  portNumber : Option UInt16 := none
  deriving DecidableEq, Repr

namespace Authority

/-- The text of the account, with the mark that ends it. -/
def printAccount (a : Authority) : List Char :=
  if a.user.isEmpty && a.password.isEmpty then []
  else if a.password.isEmpty then a.user ++ ['@']
  else a.user ++ ':' :: a.password ++ ['@']

/-- The text of an authority. -/
def print (a : Authority) : List Char :=
  let number := match a.portNumber with
    | some n => ':' :: Nat.toDigits 10 n.toNat
    | none => []
  a.printAccount ++ a.host.print ++ number

end Authority

/-- The way to a resource. -/
inductive Route where
  /-- Segments, each after a slash. -/
  | segments (names : List (List Char))
  /-- A text of which only the scheme knows the meaning. -/
  | text (body : List Char)
  deriving DecidableEq, Repr

/-- The text of a route. -/
def Route.print : Route → List Char
  | segments names => names.flatMap ('/' :: ·)
  | text body => body

end Url

/-- A URL. -/
structure Url where
  scheme : List Char
  authority : Option Url.Authority
  route : Url.Route
  query : Option (List Char) := none
  fragment : Option (List Char) := none
  deriving DecidableEq, Repr

namespace Url

/-- The host of a URL. -/
def host (u : Url) : Host :=
  match u.authority with
  | some a => a.host
  | none => .empty

/-- The text of a part that a mark begins. -/
def printPart (mark : Char) : Option (List Char) → List Char
  | some text => mark :: text
  | none => []

/-- What stands between scheme and route: the authority, or what keeps a route that begins with
an empty segment from being taken for one. -/
def printAuthority (u : Url) : List Char :=
  match u.authority, u.route with
  | some a, _ => '/' :: '/' :: a.print
  | none, .segments ([] :: _ :: _) => ['/', '.']
  | none, _ => []

/-- The characters of a URL. -/
def print (u : Url) : List Char :=
  u.scheme ++ ':' :: u.printAuthority ++ u.route.print ++ printPart '?' u.query
    ++ printPart '#' u.fragment

/-- The text of a URL. -/
def text (u : Url) : String :=
  String.ofList u.print

end Url

end SchemaRules
