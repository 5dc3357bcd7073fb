import PageHarvest.Url.Address

namespace PageHarvest.Url

inductive Fault
  | emptyHost
  /-- A name of a site that cannot be written in ASCII. -/
  | domain
  | port
  | ipv4
  | ipv6
  /-- A character that no host may have. -/
  | hostCharacter
  | relativeWithoutBase
  | relativeToOpaque
deriving DecidableEq, Repr

def Fault.message : Fault → String
  | emptyHost => "empty host"
  | domain => "invalid international domain name"
  | port => "invalid port number"
  | ipv4 => "invalid IPv4 address"
  | ipv6 => "invalid IPv6 address"
  | hostCharacter => "invalid domain character"
  | relativeWithoutBase => "relative URL without a base"
  | relativeToOpaque => "relative URL with a cannot-be-a-base base"

inductive Host
  /-- A name, empty if the URL has none. -/
  | named (name : List Char)
  | ipv4 (address : Nat)
  | ipv6 (pieces : List Nat)
deriving DecidableEq, Repr

namespace Host

def chars : Host → List Char
  | named name => name
  | ipv4 address => ipv4Text address
  | ipv6 pieces => '[' :: ipv6Text pieces ++ [']']

end Host

/-- What stands between the double slash and the path. -/
structure Authority where
  user : List Char := []
  /-- Not empty if it is there. -/
  password : Option (List Char) := none
  host : Host := .named []
  port : Option Nat := none
deriving DecidableEq, Repr

namespace Authority

def chars (a : Authority) : List Char :=
  let password := match a.password with
    | some p => ':' :: p
    | none => []
  let credentials := a.user ++ password
  let port := match a.port with
    | some n => ':' :: digitsOf 10 n
    | none => []
  credentials ++ (if credentials.isEmpty then [] else ['@']) ++ a.host.chars ++ port

end Authority

inductive Path
  /-- A path that relative URLs know nothing of. -/
  | unsplit (text : List Char)
  /-- Empty, or a slash before every segment. -/
  | segments (text : List Char)
deriving DecidableEq, Repr

namespace Path

def chars : Path → List Char
  | .unsplit text => text
  | .segments text => text

end Path

end Url

structure Url where
  scheme : List Char
  authority : Option Url.Authority := none
  path : Url.Path
  query : Option (List Char) := none
  fragment : Option (List Char) := none
deriving DecidableEq, Repr

namespace Url

/-- How a URL with a scheme is taken apart. -/
inductive SchemeKind
  | file
  /-- Schemes that always have a host. -/
  | special
  | other
deriving DecidableEq, Repr

def specialSchemes : List (List Char × Nat) :=
  [("http".toList, 80), ("https".toList, 443), ("ws".toList, 80), ("wss".toList, 443),
   ("ftp".toList, 21)]

def defaultPort? (scheme : List Char) : Option Nat :=
  (specialSchemes.find? (·.1 == scheme)).map (·.2)

def schemeKind (scheme : List Char) : SchemeKind :=
  if scheme == "file".toList then .file
  else if (defaultPort? scheme).isSome then .special
  else .other

def SchemeKind.takesBackslash : SchemeKind → Bool
  | file | special => true
  | other => false

def kind (u : Url) : SchemeKind :=
  schemeKind u.scheme

def isOpaque (u : Url) : Bool :=
  match u.path with
  | .unsplit _ => true
  | .segments _ => false

def chars (u : Url) : List Char :=
  let path := u.path.chars
  let middle := match u.authority with
    | some a => '/' :: '/' :: a.chars
    | none => if ['/', '/'].isPrefixOf path then ['/', '.'] else []
  let query := match u.query with
    | some q => '?' :: q
    | none => []
  let fragment := match u.fragment with
    | some f => '#' :: f
    | none => []
  u.scheme ++ ':' :: middle ++ path ++ query ++ fragment

def text (u : Url) : String :=
  String.ofList u.chars

end Url
end PageHarvest
