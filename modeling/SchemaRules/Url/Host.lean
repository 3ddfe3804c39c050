import SchemaRules.Url.Address
import SchemaRules.Url.Domain
import SchemaRules.Url.Reserved

/-!
# Hosts

The host of a URL: a name, an address, or nothing. Where the scheme gives hosts a meaning, a name
is a domain name in its ASCII form and a number is an address; elsewhere a name is any text.

* `Host.readDomain`, `Host.readText`: the two ways to read a host, with what is refused.
-/

namespace SchemaRules.Url

/-- Why a text is no URL. -/
inductive Fault where
  | emptyHost
  | badDomain
  | badPort
  | badIpv4
  | badIpv6
  | badHostCharacter
  | noScheme
  deriving DecidableEq, Repr

/-- The wording of a fault. -/
def Fault.message : Fault → String
  | emptyHost => "empty host"
  | badDomain => "invalid international domain name"
  | badPort => "invalid port number"
  | badIpv4 => "invalid IPv4 address"
  | badIpv6 => "invalid IPv6 address"
  | badHostCharacter => "invalid domain character"
  | noScheme => "relative URL without a base"

/-- A host. -/
inductive Host where
  | empty
  | name (text : List Char)
  | ipv4 (address : UInt32)
  | ipv6 (pieces : List UInt16)
  deriving DecidableEq, Repr

namespace Host

/-- The text of a host. -/
def print : Host → List Char
  | empty => []
  | name text => text
  | ipv4 address => Ipv4.print address
  | ipv6 pieces => '[' :: Ipv6.print pieces ++ [']']

/-- The host of a name that may be empty. -/
def ofName (text : List Char) : Host :=
  if text.isEmpty then .empty else .name text

/-- Reads an IPv6 address with its brackets, of which the first has been read. -/
def readBracketed (text : List Char) : Except Fault Host :=
  if text.getLast? = some ']' then
    match Ipv6.read text.dropLast with
    | some pieces => .ok (.ipv6 pieces)
    | none => .error .badIpv6
  else .error .badIpv6

/-- Reads the host of a scheme that gives hosts a meaning. -/
def readDomain (text : List Char) : Except Fault Host :=
  match text with
  | '[' :: rest => readBracketed rest
  | _ =>
    match Domain.toAscii? (Percent.decode text) with
    | none => .error .badDomain
    | some domain =>
      if domain.isEmpty then .error .emptyHost
      else if Ipv4.endsInNumber domain then
        match Ipv4.read domain with
        | some address => .ok (.ipv4 address)
        | none => .error .badIpv4
      else .ok (.name domain)

/-- The characters that no host has. -/
def forbidden : List Char :=
  ['\x00', '\t', '\n', '\r', ' ', '#', '/', ':', '<', '>', '?', '@', '[', '\\', ']', '^', '|']

/-- Reads the host of any other scheme. -/
def readText (text : List Char) : Except Fault Host :=
  match text with
  | '[' :: rest => readBracketed rest
  | _ =>
    if text.any forbidden.contains then .error .badHostCharacter
    else .ok (ofName (Percent.encodeText Reserved.controls text))

end Host

end SchemaRules.Url
