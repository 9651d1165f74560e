/-!
# Blanks, fields and lines

Fields are the longest runs without a blank.  Blanks are the characters with the `White_Space`
property.  A line ends at a line feed, and a carriage return just before the line feed belongs to
the end; what follows the last line feed is a line only if it is not empty.
-/

namespace BlockHeap

namespace Text

/-- Whether a character has the `White_Space` property. -/
def isBlank (c : Char) : Bool :=
  let code := c.toNat
  (0x09 ≤ code && code ≤ 0x0D) || code == 0x20 || code == 0x85 || code == 0xA0 || code == 0x1680
    || (0x2000 ≤ code && code ≤ 0x200A) || code == 0x2028 || code == 0x2029 || code == 0x202F
    || code == 0x205F || code == 0x3000

/-- The longest runs of characters that are not blank, in order. -/
def fields (text : List Char) : List (List Char) :=
  (text.splitOnP isBlank).filter fun field => !field.isEmpty

/-- Puts a character in front of the first line. -/
def consLine (c : Char) : List (List Char) → List (List Char)
  | [] => [[c]]
  | line :: rest => (c :: line) :: rest

/-- The lines of a text, without their ends. -/
def lines : List Char → List (List Char)
  | [] => []
  | '\n' :: rest => [] :: lines rest
  | '\r' :: '\n' :: rest => [] :: lines rest
  | c :: rest => consLine c (lines rest)

end Text

end BlockHeap
