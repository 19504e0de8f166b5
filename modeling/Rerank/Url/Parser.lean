import Rerank.Text.Blank
import Rerank.Url.Host
import Rerank.Url.Path

/-!
# Reading urls

A text is cut into its parts from left to right, each part ending at the first character that cannot
belong to it, and each part is then read by itself.  Control characters and spaces around the text
are disregarded, and so are tabs and line breaks anywhere in it, except that they end a drive letter
at the front of the path of a file.
-/

namespace Rerank.Url

/-- What a scheme says about the rest of a url. -/
inductive SchemeKind where
  /-- A local file. -/
  | file
  /-- A scheme that always has an authority, with its default port. -/
  | special (port : Nat)
  /-- Any other scheme. -/
  | other
deriving DecidableEq, Repr

/-- The kind of a scheme. -/
def SchemeKind.of (scheme : String) : SchemeKind :=
  match scheme with
  | "http" | "ws" => .special 80
  | "https" | "wss" => .special 443
  | "ftp" => .special 21
  | "file" => .file
  | _ => .other

/-- Whether backslashes are slashes. -/
def SchemeKind.isSpecial : SchemeKind → Bool
  | file | special _ => true
  | other => false

/-- Whether a character may stand in a scheme. -/
def isSchemeChar (c : Char) : Bool :=
  c.isAlphanum || c == '+' || c == '-' || c == '.'

/-- Splits off the scheme, in lower case, and its colon. -/
def splitScheme? (cs : List Char) : Option (String × List Char) :=
  match cs.takeWhile isSchemeChar, cs.dropWhile isSchemeChar with
  | letter :: scheme, ':' :: rest =>
    if letter.isAlpha then some (String.ofList ((letter :: scheme).map Char.toLower), rest)
    else none
  | _, _ => none

/-- The text without control characters and spaces around it. -/
def trimmed (s : String) : List Char :=
  Text.trimBoth (fun c => decide (c.toNat ≤ 0x20)) s.toList

/-- Whether a path ends before the character, where a query or a fragment begins. -/
def isPathEnd (c : Char) : Bool :=
  c == '?' || c == '#'

/-- Reads the query and the fragment. -/
def readQueryAndFragment (special : Bool) (cs : List Char) : Option String × Option String :=
  let set := if special then inSpecialQuerySet else inQuerySet
  let query :=
    match cs with
    | '?' :: rest => some (String.ofList (percentEncode set (rest.takeWhile (· != '#'))))
    | _ => none
  let fragment :=
    match cs.dropWhile (· != '#') with
    | '#' :: rest => some (String.ofList (percentEncode inFragmentSet rest))
    | _ => none
  (query, fragment)

/-- Splits at the last sign `@`, if there is one. -/
def splitCredentials? (cs : List Char) : Option (List Char × List Char) :=
  let host := (cs.reverse.takeWhile (· != '@')).reverse
  if host.length < cs.length then some (cs.take (cs.length - host.length - 1), host) else none

/-- Reads user name and password.  An empty password counts as none. -/
def readCredentials (cs : List Char) : String × Option String :=
  let encoded (part : List Char) : String := String.ofList (percentEncode inUserinfoSet part)
  let username := encoded (cs.takeWhile (· != ':'))
  match cs.dropWhile (· != ':') with
  | ':' :: c :: password => (username, some (encoded (c :: password)))
  | _ => (username, none)

/-- Splits off the host, which ends at the first colon outside brackets. -/
def splitHost (bracketed : Bool) : List Char → List Char × List Char
  | [] => ([], [])
  | c :: rest =>
    if c == ':' && !bracketed then ([], c :: rest)
    else
      let (host, after) := splitHost (c == '[' || (bracketed && c != ']')) rest
      (c :: host, after)

/-- Reads a port after its colon, if it has digits, and gives back what follows it, which is nothing
or begins with a backslash. -/
def readPort (cs : List Char) : Except ParseError (Option Nat × List Char) :=
  let digits := cs.takeWhile Char.isDigit
  let rest := cs.dropWhile Char.isDigit
  let port := digits.foldl (fun n d => n * 10 + (d.toNat - '0'.toNat)) 0
  if 65535 < port then .error .invalidPort
  else
    match rest with
    | [] => .ok (if digits.isEmpty then none else some port, [])
    | '\\' :: _ => .ok (if digits.isEmpty then none else some port, rest)
    | _ => .error .invalidPort

variable [Idna]

/-- Reads an authority and gives back what is left of its text.  `atEnd` says whether the url ends
with the authority. -/
def readAuthority (kind : SchemeKind) (atEnd : Bool) (cs : List Char) :
    Except ParseError (Authority × List Char) := do
  let (credentials, location) :=
    match splitCredentials? cs with
    | some (credentials, location) => (some credentials, location)
    | none => (none, cs)
  if credentials == some [] && location.isEmpty && !atEnd then throw .emptyHost
  let (username, password) := readCredentials (credentials.getD [])
  let (hostText, after) := splitHost false location
  if kind.isSpecial && hostText.isEmpty then throw .emptyHost
  let host ← if kind.isSpecial then Host.readSpecial hostText else Host.readOther hostText
  if host.isEmpty && !after.isEmpty then throw .emptyHost
  let (port, rest) ← match after with
    | ':' :: portText => readPort portText
    | rest => pure (none, rest)
  if host.isEmpty && (!username.isEmpty || password.isSome) then throw .emptyHost
  let port := if port.map SchemeKind.special == some kind then none else port
  return ({ username, password, host, port }, rest)

/-- The text after a slash at its front, tabs and line breaks before the slash disregarded. -/
def afterSlash? (cs : List Char) : Option (List Char) :=
  match cs.dropWhile Path.isBreak with
  | c :: rest => if Path.isSlash true c then some rest else none
  | [] => none

/-- Reads the host of a file and gives back the path from its first segment on.  A drive letter
counts as no host and is left to the path.  After no host or a local one the path has an empty first
segment, so that a drive letter in it is not at its front. -/
def readFileHost (cs : List Char) : Except ParseError (Host × List Char) := do
  let hostText := cs.takeWhile fun c => !(Path.isSlash true c || isPathEnd c)
  let rest := cs.drop hostText.length
  let hostText := Path.withoutBreaks hostText
  if Path.isDriveLetter hostText then return (.name "", cs)
  if hostText.isEmpty then return (.name "", rest)
  match ← Host.readSpecial hostText with
  | .name "localhost" => return (.name "", rest)
  | host => return (host, (afterSlash? rest).getD rest)

/-- Reads a file url after its colon, with its tabs and line breaks. -/
def readFile (cs : List Char) : Except ParseError Url := do
  let (host, rest) ← match afterSlash? cs with
    | none => pure (.name "", cs)
    | some path =>
      match afterSlash? path with
      | none => pure (.name "", path)
      | some authority => readFileHost authority
  let (segments, drive) := Path.ofFile (rest.takeWhile (!isPathEnd ·))
  let host := if drive then .name "" else host
  let (query, fragment) :=
    readQueryAndFragment true (Path.withoutBreaks (rest.dropWhile (!isPathEnd ·)))
  return {
    scheme := "file"
    authority := some { username := "", password := none, host, port := none }
    path := .rooted segments
    query, fragment }

/-- Reads a url with a special scheme after its colon and the slashes that follow it. -/
def readSpecial (scheme : String) (kind : SchemeKind) (cs : List Char) : Except ParseError Url := do
  let authorityText := cs.takeWhile fun c => !(Path.isSlash true c || isPathEnd c)
  let rest := cs.drop authorityText.length
  let (authority, _) ← readAuthority kind rest.isEmpty authorityText
  let (query, fragment) := readQueryAndFragment true (rest.dropWhile (!isPathEnd ·))
  return {
    scheme
    authority := some authority
    path := .rooted (Path.ofSpecial (rest.takeWhile (!isPathEnd ·)))
    query, fragment }

/-- Reads a url with any other scheme after its colon. -/
def readOther (scheme : String) (cs : List Char) : Except ParseError Url := do
  let (authority, rest) ← match cs with
    | '/' :: '/' :: rest =>
      let authorityText := rest.takeWhile fun c => !(c == '/' || isPathEnd c)
      let tail := rest.drop authorityText.length
      let (authority, left) ← readAuthority .other tail.isEmpty authorityText
      pure (some authority, left ++ tail)
    | _ => pure (none, cs)
  let pathText := rest.takeWhile (!isPathEnd ·)
  let path : Path :=
    if authority.isSome || pathText.head? == some '/' then .rooted (Path.ofOther pathText)
    else .rootless (String.ofList (percentEncode isControl pathText))
  let (query, fragment) := readQueryAndFragment false (rest.dropWhile (!isPathEnd ·))
  return { scheme, authority, path, query, fragment }

/-- Reads an absolute url. -/
def parse (s : String) : Except ParseError Url :=
  match splitScheme? (Path.withoutBreaks (trimmed s)) with
  | none => .error .relativeWithoutBase
  | some (scheme, rest) =>
    match SchemeKind.of scheme with
    | .file => readFile (((trimmed s).dropWhile (· != ':')).drop 1)
    | .special port => readSpecial scheme (.special port) (rest.dropWhile (Path.isSlash true))
    | .other => readOther scheme rest

/-- The url with the given segments as its path.  The path of a file is read once more, because a
drive letter may have come to its front. -/
def withSegments (url : Url) (segments : List String) : Url :=
  match SchemeKind.of url.scheme with
  | .file => { url with path := .rooted (Path.resolveFile (segments.map String.toList)).1 }
  | _ => { url with path := .rooted segments }

end Rerank.Url
