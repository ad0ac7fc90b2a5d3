import RelGraph.Rdf.Term
import RelGraph.Text.Property.Ranges
import RelGraph.Text.Split

/-!
# The grammar of IRIs

An absolute IRI is a scheme, a colon, an authority after two slashes if there is one, a path, a
query after a question mark and a fragment after a number sign.  Each part admits its own
characters and percent-encoded bytes; the text of an IRI is kept as it is.
-/

namespace RelGraph.Rdf

/-- An ASCII hexadecimal digit. -/
def isHexDigit (c : Char) : Bool :=
  c.isDigit || ('a' ≤ c && c ≤ 'f') || ('A' ≤ c && c ≤ 'F')

/-- ASCII characters that may stand in every part after the scheme. -/
def isAsciiIriChar (c : Char) : Bool :=
  c.isAlphanum || "!$&'()*+,-.;=_~".toList.contains c

/-- The ranges beyond ASCII that may stand in every part after the scheme. -/
def iriRanges : List (Nat × Nat) :=
  [(0xA0, 0xD7FF), (0xF900, 0xFDCF), (0xFDF0, 0xFFEF), (0x10000, 0x1FFFD), (0x20000, 0x2FFFD),
   (0x30000, 0x3FFFD), (0x40000, 0x4FFFD), (0x50000, 0x5FFFD), (0x60000, 0x6FFFD),
   (0x70000, 0x7FFFD), (0x80000, 0x8FFFD), (0x90000, 0x9FFFD), (0xA0000, 0xAFFFD),
   (0xB0000, 0xBFFFD), (0xC0000, 0xCFFFD), (0xD0000, 0xDFFFD), (0xE1000, 0xEFFFD)]

/-- The ranges for private use, which a query may hold. -/
def privateRanges : List (Nat × Nat) :=
  [(0xE000, 0xF8FF), (0xF0000, 0xFFFFD), (0x100000, 0x10FFFD)]

/-- Characters that may stand in every part after the scheme. -/
def isIriChar (c : Char) : Bool :=
  isAsciiIriChar c || Text.inRanges iriRanges c

/-- The text holds only the admitted characters and percent-encoded bytes. -/
def admits (ok : Char → Bool) : List Char → Bool
  | [] => true
  | '%' :: h :: l :: cs => isHexDigit h && isHexDigit l && admits ok cs
  | c :: cs => c ≠ '%' && ok c && admits ok cs

/-! ### Hosts given by number -/

/-- Decimal digits without a leading zero, below 256. -/
def isOctet (cs : List Char) : Bool :=
  match cs with
  | [] => false
  | c :: rest =>
    cs.all Char.isDigit && cs.length ≤ 3 && (c ≠ '0' || rest.isEmpty)
      && cs.foldl (fun n d => n * 10 + (d.toNat - 48)) 0 < 256

/-- Four octets with dots between them. -/
def isIpv4 (cs : List Char) : Bool :=
  let parts := Text.split '.' cs
  parts.length = 4 && parts.all isOctet

/-- One to four hexadecimal digits. -/
def isIpv6Group (cs : List Char) : Bool :=
  !cs.isEmpty && cs.length ≤ 4 && cs.all isHexDigit

/-- The number of groups of colon-separated pieces; the last one may be four octets, which
count as two groups. -/
def ipv6Groups? (octets : Bool) : List (List Char) → Option Nat
  | [] => some 0
  | [p] => if isIpv6Group p then some 1 else if octets && isIpv4 p then some 2 else none
  | p :: ps => if isIpv6Group p then (ipv6Groups? octets ps).map (· + 1) else none

/-- The pieces of one side of the double colon; a side may be empty. -/
def ipv6Side (cs : List Char) : List (List Char) :=
  if cs.isEmpty then [] else Text.split ':' cs

/-- The text up to the first double colon and the text after it. -/
def splitDoubleColon : List Char → Option (List Char × List Char)
  | [] => none
  | ':' :: ':' :: cs => some ([], cs)
  | c :: cs => (splitDoubleColon cs).map fun p => (c :: p.1, p.2)

/-- Eight groups, or fewer of them with one double colon in place of the missing ones. -/
def isIpv6 (cs : List Char) : Bool :=
  match splitDoubleColon cs with
  | none => ipv6Groups? true (Text.split ':' cs) == some 8
  | some (left, right) =>
    match ipv6Groups? false (ipv6Side left), ipv6Groups? true (ipv6Side right) with
    | some m, some n => m + n ≤ 7
    | _, _ => false

/-- A version of hexadecimal digits after a `v`, a dot, and an address. -/
def isFutureAddress (cs : List Char) : Bool :=
  match Text.splitFirst '.' cs with
  | some (version, address) =>
    !version.isEmpty && version.all isHexDigit
      && !address.isEmpty && address.all fun c => isAsciiIriChar c || c = ':'
  | none => false

/-- The text between the brackets of a host. -/
def isBracketed : List Char → Bool
  | 'v' :: cs => isFutureAddress cs
  | 'V' :: cs => isFutureAddress cs
  | cs => isIpv6 cs

/-! ### The parts of an IRI -/

/-- A letter, then letters, digits and a few signs. -/
def isScheme : List Char → Bool
  | [] => false
  | c :: cs => c.isAlpha && cs.all fun d => d.isAlphanum || d = '+' || d = '-' || d = '.'

/-- A host, and the number of a service after a colon. -/
def isHostNumber (cs : List Char) : Bool :=
  match cs with
  | '[' :: rest =>
    match Text.splitFirst ']' rest with
    | some (address, []) => isBracketed address
    | some (address, ':' :: number) => isBracketed address && number.all Char.isDigit
    | _ => false
  | _ =>
    match Text.splitFirst ':' cs with
    | some (host, number) => admits isIriChar host && number.all Char.isDigit
    | none => admits isIriChar cs

/-- A host and a number, after a user and an at sign if there is one. -/
def isAuthority (cs : List Char) : Bool :=
  match Text.splitFirst '@' cs with
  | some (user, host) => admits (fun c => isIriChar c || c = ':') user && isHostNumber host
  | none => isHostNumber cs

/-- A path, its segments separated by slashes. -/
def isPath (cs : List Char) : Bool :=
  admits (fun c => isIriChar c || c = ':' || c = '@' || c = '/') cs

/-- What stands between the scheme and the query. -/
def isHierarchy (cs : List Char) : Bool :=
  match cs with
  | '/' :: '/' :: rest =>
    isAuthority (rest.takeWhile (· ≠ '/')) && isPath (rest.dropWhile (· ≠ '/'))
  | _ => isPath cs

/-- A query. -/
def isQuery (cs : List Char) : Bool :=
  admits (fun c => isIriChar c || c = ':' || c = '@' || c = '/' || c = '?'
    || Text.inRanges privateRanges c) cs

/-- A fragment. -/
def isFragment (cs : List Char) : Bool :=
  admits (fun c => isIriChar c || c = ':' || c = '@' || c = '/' || c = '?') cs

/-- What stands after the scheme: the fragment is cut off first, then the query. -/
def isAfterScheme (cs : List Char) : Bool :=
  let beforeFragment := cs.takeWhile (· ≠ '#')
  isHierarchy (beforeFragment.takeWhile (· ≠ '?'))
    && isQuery ((beforeFragment.dropWhile (· ≠ '?')).drop 1)
    && isFragment ((cs.dropWhile (· ≠ '#')).drop 1)

/-- The text is an absolute IRI. -/
def isAbsoluteIri (cs : List Char) : Bool :=
  match Text.splitFirst ':' cs with
  | some (scheme, rest) => isScheme scheme && isAfterScheme rest
  | none => false

/-- Reads an absolute IRI. -/
def Iri.parse? (text : String) : Option Iri :=
  if isAbsoluteIri text.toList then some ⟨text⟩ else none

end RelGraph.Rdf
