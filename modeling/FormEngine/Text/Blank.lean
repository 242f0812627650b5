import FormEngine.Text.Ranges

/-!
Blank characters: the separators of words and lines, with the four information separators that
the white space property of the character standard leaves out.
-/

namespace FormEngine

namespace Blank

def ranges : CodeRanges := [
  (9, 13), (28, 32), (133, 133), (160, 160), (5760, 5760), (8192, 8202), (8232, 8233),
  (8239, 8239), (8287, 8287), (12288, 12288)]

/-- The information separators, blank here and no white space in the character standard. -/
def separators : CodeRanges := [(28, 31)]

end Blank

def isBlank (c : Char) : Bool := Blank.ranges.has c

/-- White space in the sense of the character standard. -/
def isWhiteSpace (c : Char) : Bool := isBlank c && !Blank.separators.has c

/-- Drops the characters of a class at both ends. -/
def trimWhere (drop : Char → Bool) (cs : List Char) : List Char :=
  ((cs.dropWhile drop).reverse.dropWhile drop).reverse

def stripBlank (s : String) : String := String.ofList (trimWhere isBlank s.toList)

end FormEngine
