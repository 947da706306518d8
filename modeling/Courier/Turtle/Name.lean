import Courier.Text.Ranges

/-!
# Characters of names

Which characters may start a name and which may follow.  Prefixes, local names and labels of blank
nodes are all built from these two sets.
-/

namespace Courier.Turtle

open Courier.Text

/-- The code points beyond ASCII that may start a name. -/
def nameStartRanges : Ranges :=
  [(0xc0, 0xd6), (0xd8, 0xf6), (0xf8, 0x2ff), (0x370, 0x37d), (0x37f, 0x1fff), (0x200c, 0x200d),
    (0x2070, 0x218f), (0x2c00, 0x2fef), (0x3001, 0xd7ff), (0xf900, 0xfdcf), (0xfdf0, 0xfffd),
    (0x10000, 0xeffff)]

/-- The further code points beyond ASCII that may follow in a name. -/
def nameFollowRanges : Ranges :=
  [(0xb7, 0xb7), (0x300, 0x36f), (0x203f, 0x2040)]

/-- Whether a prefix may start with the character. -/
def isNameStart (c : Char) : Bool :=
  c.isAlpha || nameStartRanges.contains c

/-- Whether the character may follow in a name. -/
def isNameChar (c : Char) : Bool :=
  isNameStart c || c == '_' || c == '-' || c.isDigit || nameFollowRanges.contains c

/-- Whether a label may start with the character. -/
def isLabelStart (c : Char) : Bool :=
  isNameStart c || c == '_' || c.isDigit

end Courier.Turtle
