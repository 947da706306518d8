import Courier.Text.Ranges

/-!
# Blank characters

White space in the sense of the Unicode property White_Space, trimming, and the words between
blanks.  The functions on `String` go through the list of characters, so that each has one law on
lists.
-/

namespace Courier.Text

/-- The code points of white space. -/
def blankRanges : Ranges :=
  [(0x9, 0xd), (0x20, 0x20), (0x85, 0x85), (0xa0, 0xa0), (0x1680, 0x1680), (0x2000, 0x200a),
    (0x2028, 0x2029), (0x202f, 0x202f), (0x205f, 0x205f), (0x3000, 0x3000)]

/-- Whether the character is white space of any script. -/
def isBlank (c : Char) : Bool :=
  blankRanges.contains c

/-- Whatever the core library calls white space is blank. -/
theorem isBlank_of_isWhitespace {c : Char} (h : c.isWhitespace = true) : isBlank c = true := by
  simp only [Char.isWhitespace, Bool.or_eq_true, decide_eq_true_eq] at h
  rcases h with ((rfl | rfl) | rfl) | rfl <;> decide

/-! ### Trimming -/

/-- The characters without the blanks at the start. -/
def trimStart (cs : List Char) : List Char :=
  cs.dropWhile isBlank

/-- The characters without the blanks at the end. -/
def trimEnd (cs : List Char) : List Char :=
  (cs.reverse.dropWhile isBlank).reverse

/-- The text without the blanks at both ends. -/
def trim (text : String) : String :=
  .ofList (trimEnd (trimStart text.toList))

/-- Whether the text has blanks only. -/
def isBlankText (text : String) : Bool :=
  text.toList.all isBlank

/-- The text without any `c` at the end. -/
def dropTrailing (c : Char) (text : String) : String :=
  .ofList (text.toList.reverse.dropWhile (· == c)).reverse

/-! ### Pieces -/

/-- The pieces between the separators; one more than there are separators. -/
def pieces (isSeparator : Char → Bool) : List Char → List (List Char)
  | [] => [[]]
  | c :: cs =>
    match pieces isSeparator cs with
    | [] => [[c]]
    | piece :: rest => if isSeparator c then [] :: piece :: rest else (c :: piece) :: rest

/-- The pieces of a text between the separators. -/
def split (separator : Char) (text : String) : List String :=
  (pieces (· == separator) text.toList).map .ofList

/-- The words of a text: the nonempty pieces between blanks. -/
def words (text : String) : List String :=
  ((pieces isBlank text.toList).filter (!·.isEmpty)).map .ofList

/-- The two sides of the first separator, if there is one. -/
def splitOnce (separator : Char) (text : String) : Option (String × String) :=
  match text.toList.span (· != separator) with
  | (_, []) => none
  | (before, _ :: after) => some (.ofList before, .ofList after)

end Courier.Text
