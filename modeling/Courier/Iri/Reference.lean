import Courier.Iri.Grammar

/-!
# References and their components

A reference names a resource, either by itself or seen from a base.  It is cut into components by
delimiters alone, whether or not they are well formed; writing the components gives the reference
back.  `resolve` finds what a reference means seen from a base.
-/

namespace Courier.Iri

open Grammar

/-- The components of a reference, without the delimiters between them. -/
structure Reference where
  /-- The scheme, before the first colon. -/
  scheme : Option (List Char)
  /-- The authority, after `//`. -/
  authority : Option (List Char)
  /-- The path, with its slashes. -/
  path : List Char
  /-- The query, after `?`. -/
  query : Option (List Char)
  /-- The fragment, after `#`. -/
  fragment : Option (List Char)
  deriving DecidableEq

namespace Reference

/-! ### Cutting and writing -/

/-- The scheme and what follows its colon, if the text starts with a scheme. -/
def splitScheme (cs : List Char) : Option (List Char) × List Char :=
  match cs.span isSchemeChar with
  | (c :: scheme, ':' :: rest) => if c.isAlpha then (some (c :: scheme), rest) else (none, cs)
  | _ => (none, cs)

/-- The authority and what follows it, if the text starts with two slashes. -/
def splitAuthority (cs : List Char) : Option (List Char) × List Char :=
  match cs with
  | '/' :: '/' :: rest =>
    let (authority, rest) := rest.span fun c => c != '/' && c != '?' && c != '#'
    (some authority, rest)
  | _ => (none, cs)

/-- What follows the delimiter, if the text starts with it, up to where `stop` holds. -/
def splitAfter (delimiter : Char) (stop : Char → Bool) (cs : List Char) :
    Option (List Char) × List Char :=
  match cs with
  | c :: rest =>
    if c = delimiter then
      let (part, rest) := rest.span (!stop ·)
      (some part, rest)
    else (none, cs)
  | [] => (none, [])

/-- The components of a text. -/
def ofList (cs : List Char) : Reference :=
  let (scheme, rest) := splitScheme cs
  let (authority, rest) := splitAuthority rest
  let (path, rest) := rest.span fun c => c != '?' && c != '#'
  let (query, rest) := splitAfter '?' (· == '#') rest
  let (fragment, _) := splitAfter '#' (fun _ => false) rest
  { scheme, authority, path, query, fragment }

/-- The text of the components. -/
def toList (r : Reference) : List Char :=
  (match r.scheme with | some s => s ++ [':'] | none => []) ++
  (match r.authority with | some a => '/' :: '/' :: a | none => []) ++
  r.path ++
  (match r.query with | some q => '?' :: q | none => []) ++
  (match r.fragment with | some f => '#' :: f | none => [])

/-- Whether a component that may be absent has only what is allowed in it. -/
def optional (valid : List Char → Bool) : Option (List Char) → Bool
  | none => true
  | some part => valid part

/-- Whether every component has the characters that it may have. -/
def isWellFormed (r : Reference) : Bool :=
  optional isAuthority r.authority && allAllowed isPathChar r.path &&
    optional (allAllowed isQueryChar) r.query && optional (allAllowed isFragmentChar) r.fragment

/-! ### Resolution -/

/-- The path without the segments `.` and `..`, where `..` takes the segment before it away.  The
segments already settled are in `settled`, each with its slash; `slash` says whether a slash stands
before the next one. -/
def settleSegments (settled : List (List Char)) (slash : Bool) :
    List (List Char) → List (List Char)
  | [] => settled
  | segment :: rest =>
    if segment = ['.'] ∨ segment = ['.', '.'] then
      if slash then
        let settled := if segment = ['.'] then settled else settled.dropLast
        if rest.isEmpty then settled ++ [['/']] else settleSegments settled true rest
      else settleSegments settled false rest
    else settleSegments (settled ++ [if slash then '/' :: segment else segment]) true rest

/-- The path without the segments `.` and `..`. -/
def withoutDots (path : List Char) : List Char :=
  (settleSegments [] false (path.splitOn '/')).flatten

/-- The relative path seen from the base: it takes the place of the base's last segment. -/
def merge (base : Reference) (path : List Char) : List Char :=
  if base.authority.isSome && base.path.isEmpty then '/' :: path
  else (base.path.reverse.dropWhile (· != '/')).reverse ++ path

/-- What the reference means seen from the base. -/
def resolve (base r : Reference) : Reference :=
  if r.scheme.isSome then r
  else if r.authority.isSome then { r with scheme := base.scheme, path := withoutDots r.path }
  else
    let seen := { r with scheme := base.scheme, authority := base.authority }
    match r.path with
    | [] => { seen with path := base.path, query := r.query <|> base.query }
    | '/' :: _ => { seen with path := withoutDots r.path }
    | _ => { seen with path := withoutDots (merge base r.path) }

/-- Whether writing the components and cutting them again can tell the path from an authority. -/
def isUnambiguous (r : Reference) : Bool :=
  r.authority.isSome || !r.path.take 2 == ['/', '/']

end Reference

end Courier.Iri
