import FileDepot.Text.Point
import FileDepot.Text.Printable

/-!
# Quoted text

How a text is shown inside a message: between single quotes, or between double quotes when it holds
a single quote and no double one. The quote, the backslash and the characters that cannot be shown
are written as escapes.
-/

namespace FileDepot.Text.Quoted

/-- The quote a text is put between. -/
def mark (s : List Char) : Char :=
  if s.contains '\x27' && !s.contains '"' then '"' else '\x27'

/-- One character between quotes `q`. -/
def escape (q c : Char) : List Char :=
  let n := c.toNat
  if c = q || c = '\\' then ['\\', c]
  else if c = '\n' then ['\\', 'n']
  else if c = '\r' then ['\\', 'r']
  else if c = '\t' then ['\\', 't']
  else if isPrintable c then [c]
  else if n < 0x100 then '\\' :: 'x' :: hexPadded 2 n
  else if n < 0x10000 then '\\' :: 'u' :: hexPadded 4 n
  else '\\' :: 'U' :: hexPadded 8 n

/-- One code point between quotes `q`. -/
def escapePoint (q : Char) : Point → List Char
  | .char c => escape q c
  | .surrogate place => '\\' :: 'u' :: hexPadded 4 (Point.surrogate place).toNat

/-- A text between its quotes. -/
def encode (s : List Char) : List Char :=
  mark s :: (s.flatMap (escape (mark s)) ++ [mark s])

/-- A text of code points between its quotes. -/
def encodePoints (s : List Point) : List Char :=
  let q := mark (s.filterMap Point.char?)
  q :: (s.flatMap (escapePoint q) ++ [q])

end FileDepot.Text.Quoted

namespace FileDepot.Text

/-- A string between its quotes. -/
def quoted (s : String) : String :=
  String.ofList (Quoted.encode s.toList)

/-- A text of code points between its quotes, as a string. -/
def quotedPoints (s : List Point) : String := String.ofList (Quoted.encodePoints s)

/-- A list of strings, each between its quotes, in square brackets. -/
def quotedList (xs : List String) : String :=
  "[" ++ ", ".intercalate (xs.map quoted) ++ "]"

end FileDepot.Text
