import Rerank.Url.Basic
import Rerank.Url.Percent

/-!
# Reading the host of a url

With a special scheme a host is an address or a domain name.  Such a name is percent-decoded and
brought into its ASCII form: lower case, with every label that is not ASCII encoded.  The tables of
characters behind that form are not fixed here; what is relied on is in `Idna`.  With any other
scheme a host is an IPv6 address between brackets or a text that is kept.
-/

namespace Rerank.Url

/-- The bytes of characters that are all ASCII. -/
def asciiBytes (cs : List Char) : List UInt8 :=
  cs.map fun c => UInt8.ofNat c.toNat

/-- Whether some label of a name in lower case has the mark of encoded labels at its front. -/
def hasEncodedLabel (domain : List Char) : Bool :=
  (splitOn (· == '.') domain).any fun label => ['x', 'n', '-', '-'].isPrefixOf label

/-- Characters that no domain name may hold. -/
def Host.isForbiddenInDomain (c : Char) : Bool :=
  decide (c.toNat ≤ 0x20) || decide (0x7F ≤ c.toNat) ||
    ['%', '#', '/', ':', '<', '>', '?', '@', '[', '\\', ']', '^', '|'].contains c

/-- How domain names of any script are written in ASCII.  Which names can be, and how, is up to the
tables of characters behind a mapping, except where they are not needed. -/
class Idna where
  /-- The ASCII form of the name with the given UTF-8 bytes, if it has one. -/
  toAscii : List UInt8 → Option String
  /-- A name that is ASCII, without encoded labels, is brought into lower case. -/
  toAscii_of_plain : ∀ cs : List Char, (∀ c ∈ cs, c.toNat < 0x80) →
    hasEncodedLabel (cs.map Char.toLower) = false →
    toAscii (asciiBytes cs) =
      if (cs.map Char.toLower).any Host.isForbiddenInDomain then none
      else some (String.ofList (cs.map Char.toLower))
  /-- An ASCII form holds nothing that a domain name may not hold, and is in lower case. -/
  allowed_of_toAscii : ∀ bytes name, toAscii bytes = some name →
    ∀ c ∈ name.toList, Host.isForbiddenInDomain c = false ∧ c.toLower = c
  /-- An ASCII form is its own ASCII form. -/
  toAscii_of_toAscii : ∀ bytes name, toAscii bytes = some name →
    toAscii (asciiBytes name.toList) = some name

namespace Host

/-- Characters that no host may hold. -/
def isForbidden (c : Char) : Bool :=
  ['\x00', '\t', '\n', '\r', ' ', '#', '/', ':', '<', '>', '?', '@', '[', '\\', ']', '^',
    '|'].contains c

/-- Reads an address after the bracket that opens it. -/
def readBracketed (cs : List Char) : Except ParseError Host :=
  match cs.getLast?, Ipv6.parse? cs.dropLast with
  | some ']', some groups => .ok (.ipv6 groups)
  | _, _ => .error .invalidIpv6

variable [Idna]

/-- Reads a domain name, given by its UTF-8 bytes, or the IPv4 address that it is in its ASCII
form. -/
def readDomain (bytes : List UInt8) : Except ParseError Host :=
  match Idna.toAscii bytes with
  | none => .error .invalidDomainName
  | some domain =>
    if domain.isEmpty then .error .emptyHost
    else
      let labels := splitOn (· == '.') domain.toList
      if Ipv4.endsInNumber labels then
        match Ipv4.parse? labels with
        | some address => .ok (.ipv4 address)
        | none => .error .invalidIpv4
      else .ok (.name domain)

/-- Reads the host of a url with a special scheme. -/
def readSpecial (cs : List Char) : Except ParseError Host :=
  match cs with
  | '[' :: rest => readBracketed rest
  | _ => readDomain (percentDecode cs)

/-- Reads the host of a url with any other scheme. -/
def readOther (cs : List Char) : Except ParseError Host :=
  match cs with
  | '[' :: rest => readBracketed rest
  | _ =>
    if cs.any isForbidden then .error .invalidDomainCharacter
    else .ok (.name (String.ofList (percentEncode isControl cs)))

end Host

end Rerank.Url
