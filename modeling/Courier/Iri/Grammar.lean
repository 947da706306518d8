import Courier.Text.Hex
import Courier.Text.Ranges

/-!
# The grammar of internationalised resource identifiers

Which characters each component may hold, and when an authority is well formed.  Components are
lists of characters; `%` stands only before two hexadecimal digits.
-/

namespace Courier.Iri.Grammar

open Courier.Text

/-! ### Characters -/

/-- The code points beyond ASCII that may stand anywhere in an identifier. -/
def ucsRanges : Ranges :=
  [(0xa0, 0xd7ff), (0xf900, 0xfdcf), (0xfdf0, 0xffef), (0x10000, 0x1fffd), (0x20000, 0x2fffd),
    (0x30000, 0x3fffd), (0x40000, 0x4fffd), (0x50000, 0x5fffd), (0x60000, 0x6fffd),
    (0x70000, 0x7fffd), (0x80000, 0x8fffd), (0x90000, 0x9fffd), (0xa0000, 0xafffd),
    (0xb0000, 0xbfffd), (0xc0000, 0xcfffd), (0xd0000, 0xdfffd), (0xe1000, 0xefffd)]

/-- The private code points, which only a query may hold. -/
def privateRanges : Ranges :=
  [(0xe000, 0xf8ff), (0xf0000, 0xffffd), (0x100000, 0x10fffd)]

/-- Letters, digits and the marks that never need escaping. -/
def isUnreserved (c : Char) : Bool :=
  c.isAlphanum || "-._~".toList.contains c || ucsRanges.contains c

/-- The delimiters that a component may use for its own purposes. -/
def isSubDelimiter (c : Char) : Bool :=
  "!$&'()*+,;=".toList.contains c

/-- The characters of a host name. -/
def isNameChar (c : Char) : Bool :=
  isUnreserved c || isSubDelimiter c

/-- The characters of user information before a host. -/
def isUserChar (c : Char) : Bool :=
  isNameChar c || c == ':'

/-- The characters of a path, slashes included. -/
def isPathChar (c : Char) : Bool :=
  isUserChar c || c == '@' || c == '/'

/-- The characters of a query. -/
def isQueryChar (c : Char) : Bool :=
  isPathChar c || c == '?' || privateRanges.contains c

/-- The characters of a fragment. -/
def isFragmentChar (c : Char) : Bool :=
  isPathChar c || c == '?'

/-- The characters of a scheme after its first letter. -/
def isSchemeChar (c : Char) : Bool :=
  c.isAlphanum || "+-.".toList.contains c

/-- Whether the text has allowed characters only, apart from `%` before two digits. -/
def allAllowed (allowed : Char → Bool) : List Char → Bool
  | [] => true
  | '%' :: a :: b :: rest => isHexDigit a && isHexDigit b && allAllowed allowed rest
  | c :: rest => c != '%' && allowed c && allAllowed allowed rest

/-! ### Numeric hosts -/

/-- A decimal number below 256 without leading zeros. -/
def isOctet (cs : List Char) : Bool :=
  match cs with
  | [a] => a.isDigit
  | [a, b] => a.isDigit && b.isDigit && a != '0'
  | [a, b, c] =>
    a.isDigit && b.isDigit && c.isDigit && a != '0' &&
      100 * (a.toNat - 48) + 10 * (b.toNat - 48) + (c.toNat - 48) < 256
  | _ => false

/-- Four octets with points between them. -/
def isDottedQuad (cs : List Char) : Bool :=
  let octets := cs.splitOn '.'
  octets.length = 4 && octets.all isOctet

/-- One group of an address: up to four hexadecimal digits. -/
def isGroup (cs : List Char) : Bool :=
  1 ≤ cs.length && cs.length ≤ 4 && cs.all isHexDigit

/-- How many of the eight groups a row of pieces fills.  A dotted quad fills two and may stand only
at the end, where `mayEndDotted` permits it. -/
def groupCount? (mayEndDotted : Bool) : List (List Char) → Option Nat
  | [] => some 0
  | [last] =>
    if isGroup last then some 1
    else if mayEndDotted && isDottedQuad last then some 2
    else none
  | piece :: rest => if isGroup piece then (groupCount? mayEndDotted rest).map (· + 1) else none

/-- The groups of one side of `::`, where an empty side has none. -/
def sideCount? (mayEndDotted : Bool) (cs : List Char) : Option Nat :=
  if cs.isEmpty then some 0 else groupCount? mayEndDotted (cs.splitOn ':')

/-- The two sides of the first `::`. -/
def splitGap : List Char → Option (List Char × List Char)
  | ':' :: ':' :: rest => some ([], rest)
  | c :: rest => (splitGap rest).map fun (before, after) => (c :: before, after)
  | [] => none

/-- An address of eight groups, of which `::` may stand for one or more. -/
def isNumericAddress (cs : List Char) : Bool :=
  match splitGap cs with
  | none => groupCount? true (cs.splitOn ':') == some 8
  | some (before, after) =>
    match sideCount? false before, sideCount? true after with
    | some m, some n => m + n ≤ 7
    | _, _ => false

/-- An address of a future kind: its version in hexadecimal, a point, and the address. -/
def isFutureAddress : List Char → Bool
  | [] => false
  | v :: rest =>
    let (version, address) := rest.span isHexDigit
    (v == 'v' || v == 'V') && !version.isEmpty &&
      match address with
      | '.' :: c :: address => (c :: address).all isUserChar
      | _ => false

/-! ### Authorities -/

/-- Nothing, or a colon and the digits of a port. -/
def isPortPart : List Char → Bool
  | [] => true
  | c :: digits => c == ':' && digits.all Char.isDigit

/-- A host and its port.  An address in brackets is numeric; any other host is a name. -/
def isHostPart (cs : List Char) : Bool :=
  match cs with
  | '[' :: rest =>
    match rest.span (· != ']') with
    | (address, _ :: port) =>
      (isNumericAddress address || isFutureAddress address) && isPortPart port
    | (_, []) => false
  | _ =>
    let (name, port) := cs.span (· != ':')
    allAllowed isNameChar name && isPortPart port

/-- User information up to the first `@`, if there is one, and a host. -/
def isAuthority (cs : List Char) : Bool :=
  match cs.span fun c => c != '@' && c != '[' with
  | (user, '@' :: host) => allAllowed isUserChar user && isHostPart host
  | _ => isHostPart cs

end Courier.Iri.Grammar
