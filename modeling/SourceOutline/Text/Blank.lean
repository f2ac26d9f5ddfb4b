import SourceOutline.Text.Ranges

/-!
# Blanks and trimming

The blanks are the white space of Unicode together with the four information separators of ASCII.
Trimming removes a class of characters from one or both ends of a text; with the class of blanks it
is the trimming of lines, and with the two round brackets it uncovers a parameter list.
-/

namespace SourceOutline.Text

/-- The blanks. -/
def blankRanges : Ranges := [
   (9, 13), (28, 32), (0x85, 0x85), (0xa0, 0xa0), (0x1680, 0x1680), (0x2000, 0x200a),
   (0x2028, 0x2029), (0x202f, 0x202f), (0x205f, 0x205f), (0x3000, 0x3000)]

/-- Whether the character is a blank. -/
def isBlank (c : Char) : Bool := blankRanges.covers c

/-- The characters that are left when those of class `p` are removed from the end. -/
def dropEndWhile (p : Char → Bool) (cs : List Char) : List Char :=
  (cs.reverse.dropWhile p).reverse

/-- Removes characters of class `p` from the start. -/
def trimStartBy (p : Char → Bool) (s : String) : String :=
  String.ofList (s.toList.dropWhile p)

/-- Removes characters of class `p` from the end. -/
def trimEndBy (p : Char → Bool) (s : String) : String :=
  String.ofList (dropEndWhile p s.toList)

/-- Removes characters of class `p` from both ends. -/
def trimBy (p : Char → Bool) (s : String) : String :=
  String.ofList (dropEndWhile p (s.toList.dropWhile p))

/-- Removes blanks from the start. -/
def trimStart (s : String) : String := trimStartBy isBlank s

/-- Removes blanks from the end. -/
def trimEnd (s : String) : String := trimEndBy isBlank s

/-- Removes blanks from both ends. -/
def trim (s : String) : String := trimBy isBlank s

/-- A round bracket. -/
def isRoundBracket (c : Char) : Bool := c == '(' || c == ')'

/-- Removes round brackets from both ends, however many there are. -/
def trimBrackets (s : String) : String := trimBy isRoundBracket s

end SourceOutline.Text
