/-!
# Language tags

A language tag is a row of subtags: a language with up to three extensions of it, a script, a
region, variants, extensions of one letter or digit, and a private part, in this order.  A tag may
also be private as a whole; its subtags then have any length.  Only the shape is checked, not
whether a subtag is registered.  Tags are kept in lower case.
-/

namespace Courier.Turtle.LanguageTag

/-- How far the reading of a tag has come. -/
inductive Stage where
  /-- The language has been read, with so many extensions of it. -/
  | language (extensions : Nat)
  /-- No further extension of the language may come. -/
  | extended
  /-- The script has been read. -/
  | script
  /-- The region or a variant has been read. -/
  | region
  /-- An extension; `bare` if nothing of it but its letter has come. -/
  | extension (bare : Bool)
  /-- The private part; `bare` if nothing of it but its letter has come. -/
  | privatePart (bare : Bool)
  deriving DecidableEq

namespace Stage

/-- Whether a script may come next. -/
def beforeScript : Stage → Bool
  | language _ | extended => true
  | _ => false

/-- Whether a region may come next. -/
def beforeRegion (s : Stage) : Bool :=
  s.beforeScript || s == script

/-- Whether a variant may come next. -/
def beforeVariant (s : Stage) : Bool :=
  s.beforeRegion || s == region

/-- Whether the tag may end here. -/
def isFinal : Stage → Bool
  | extension bare | privatePart bare => !bare
  | _ => true

/-- The stage after one more subtag, if the subtag may come. -/
def next (s : Stage) (subtag : List Char) : Option Stage :=
  let length := subtag.length
  if length = 0 ∨ 8 < length ∨ !subtag.all Char.isAlphanum then none
  else
    match s with
    | privatePart _ => some (privatePart false)
    | s =>
      if length = 1 then
        if s = extension true then none
        else if subtag = ['x'] then some (privatePart true)
        else some (extension true)
      else
        match s with
        | extension _ => some (extension false)
        | s =>
          let letters := subtag.all Char.isAlpha
          let digits := subtag.all Char.isDigit
          let variant :=
            if s.beforeVariant && (5 ≤ length && (subtag.take 1).all Char.isAlpha ||
              4 ≤ length && (subtag.take 1).all Char.isDigit) then some region else none
          if length = 3 && letters then
            match s with
            | language n => if n < 3 then some (language (n + 1)) else none
            | _ => none
          else if s.beforeScript && length = 4 && letters then some script
          else if s.beforeRegion && (length = 2 && letters || length = 3 && digits) then some region
          else variant

end Stage

/-- The tags of old that have no such shape but stay in use. -/
def grandfathered : List String :=
  ["art-lojban", "cel-gaulish", "en-gb-oed", "i-ami", "i-bnn", "i-default", "i-enochian", "i-hak",
    "i-klingon", "i-lux", "i-mingo", "i-navajo", "i-pwn", "i-tao", "i-tay", "i-tsu", "no-bok",
    "no-nyn", "sgn-be-fr", "sgn-be-nl", "sgn-ch-de", "zh-guoyu", "zh-hakka", "zh-min",
    "zh-min-nan", "zh-xiang"]

/-- The stage after the first subtag, which is a language. -/
def start (subtag : List Char) : Option Stage :=
  if 2 ≤ subtag.length ∧ subtag.length ≤ 8 ∧ subtag.all Char.isAlpha then
    some (if subtag.length < 4 then .language 0 else .extended)
  else none

/-- Whether a tag in lower case has the shape of a language tag. -/
def isWellFormed (tag : List Char) : Bool :=
  grandfathered.any (·.toList == tag) ||
    match tag.splitOn '-' with
    | [] => false
    | ['x'] :: rest => !rest.isEmpty && rest.all (·.all Char.isAlphanum)
    | first :: rest =>
      match (start first).bind fun s => rest.foldlM Stage.next s with
      | some s => s.isFinal
      | none => false

/-- The tag in lower case, if it is well formed. -/
def normalize? (tag : List Char) : Option String :=
  let lower := tag.map Char.toLower
  if isWellFormed lower then some (.ofList lower) else none

end Courier.Turtle.LanguageTag
