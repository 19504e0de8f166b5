import Rerank.Url.Ipv6

/-!
# Urls

A url has a scheme and a path, and it may have an authority, a query and a fragment.  All parts are
kept as they are written, with the characters encoded that have to be.
-/

namespace Rerank

namespace Url

/-- Why a text is not a url. -/
inductive ParseError where
  | relativeWithoutBase
  | emptyHost
  | invalidPort
  | invalidIpv4
  | invalidIpv6
  | invalidDomainName
  | invalidDomainCharacter
deriving DecidableEq, Repr

def ParseError.message : ParseError → String
  | relativeWithoutBase => "relative URL without a base"
  | emptyHost => "empty host"
  | invalidPort => "invalid port number"
  | invalidIpv4 => "invalid IPv4 address"
  | invalidIpv6 => "invalid IPv6 address"
  | invalidDomainName => "invalid international domain name"
  | invalidDomainCharacter => "invalid domain character"

inductive Host where
  /-- A name, which may be empty. -/
  | name (text : String)
  /-- An address below `2 ^ 32`. -/
  | ipv4 (address : Nat)
  /-- Eight groups below `2 ^ 16`. -/
  | ipv6 (groups : List Nat)
deriving DecidableEq, Repr

/-- Who and where: the credentials, the host, and the port if it is not the scheme's own. -/
structure Authority where
  username : String
  password : Option String
  host : Host
  port : Option Nat
deriving DecidableEq, Repr

inductive Path where
  /-- A text without structure, where the scheme is followed neither by a slash nor by an
  authority. -/
  | rootless (text : String)
  /-- Segments, each with a slash before it. -/
  | rooted (segments : List String)
deriving DecidableEq, Repr

end Url

/-- An absolute url. -/
structure Url where
  scheme : String
  authority : Option Url.Authority
  path : Url.Path
  query : Option String
  fragment : Option String
deriving DecidableEq, Repr

namespace Url

def Host.text : Host → String
  | name text => text
  | ipv4 address => String.ofList (Ipv4.text address)
  | ipv6 groups => String.ofList ('[' :: Ipv6.text groups ++ [']'])

def Host.isEmpty (host : Host) : Bool :=
  host == .name ""

/-- The credentials with the sign that ends them, or nothing. -/
def Authority.userinfo (a : Authority) : String :=
  match a.password with
  | some password => a.username ++ ":" ++ password ++ "@"
  | none => if a.username.isEmpty then "" else a.username ++ "@"

/-- The text of an authority, without the slashes before it. -/
def Authority.text (a : Authority) : String :=
  a.userinfo ++ a.host.text ++ (match a.port with | some port => s!":{port}" | none => "")

def Path.text : Path → String
  | rootless text => text
  | rooted segments => String.join (segments.map ("/" ++ ·))

/-- The text of a url.  Where a path without authority begins with two slashes, a segment `.` keeps
them from being read as the beginning of an authority. -/
def text (url : Url) : String :=
  let start :=
    match url.authority, url.path with
    | some authority, _ => "//" ++ authority.text
    | none, .rooted ("" :: _ :: _) => "/."
    | none, _ => ""
  let query := match url.query with | some query => "?" ++ query | none => ""
  let fragment := match url.fragment with | some fragment => "#" ++ fragment | none => ""
  url.scheme ++ ":" ++ start ++ url.path.text ++ query ++ fragment

def hasHost (url : Url) : Bool :=
  match url.authority with
  | some authority => !authority.host.isEmpty
  | none => false

def withoutCredentials (url : Url) : Url :=
  { url with
    authority := url.authority.map fun authority =>
      { authority with username := "", password := none } }

end Url

end Rerank
