import FileDepot.Text.Point

/-!
# Blank characters and trimming

A character is *blank* when it separates words: the control characters from tab to carriage return,
the four information separators, and every Unicode space. Trimming removes the blanks at both edges
of a text and leaves those between its words alone.
-/

namespace FileDepot.Text

/-- Whether a character is blank. -/
def isBlank (c : Char) : Bool :=
  let n := c.toNat
  (9 ≤ n && n ≤ 13) || (28 ≤ n && n ≤ 32) || n == 0x85 || n == 0xa0 || n == 0x1680 ||
    (0x2000 ≤ n && n ≤ 0x200a) || n == 0x2028 || n == 0x2029 || n == 0x202f || n == 0x205f ||
    n == 0x3000

/-- Drop the characters in class `p` at the end of a text. -/
def trimEndBy (p : Char → Bool) (s : List Char) : List Char :=
  (s.reverse.dropWhile p).reverse

/-- Drop the characters in class `p` at both edges of a text. -/
def trimBy (p : Char → Bool) (s : List Char) : List Char :=
  trimEndBy p (s.dropWhile p)

/-- Drop the blanks at both edges of a text. -/
def trim (s : List Char) : List Char :=
  trimBy isBlank s

/-- Drop the blanks at both edges of a string. -/
def strip (s : String) : String :=
  String.ofList (trim s.toList)

/-- Whether a code point is blank. -/
def isBlankPoint (p : Point) : Bool := p.char?.any isBlank

/-- Drop the blanks at both edges of a text of code points. -/
def trimPoints (s : List Point) : List Point :=
  ((s.dropWhile isBlankPoint).reverse.dropWhile isBlankPoint).reverse

end FileDepot.Text
