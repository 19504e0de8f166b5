import Rerank.Text.CodeRange

/-!
# Blank text

The characters with the Unicode property `White_Space`, trimming them off both ends of a text, and
the texts that hold nothing else.
-/

namespace Rerank.Text

/-- The code points with the property `White_Space`. -/
def whiteSpace : CodeRanges :=
  [(0x9, 0xD), (0x20, 0x20), (0x85, 0x85), (0xA0, 0xA0), (0x1680, 0x1680), (0x2000, 0x200A),
    (0x2028, 0x2029), (0x202F, 0x202F), (0x205F, 0x205F), (0x3000, 0x3000)]

def isSpace (c : Char) : Bool :=
  whiteSpace.contains c

/-- Drops from the end of a list the elements that satisfy `p`. -/
def trimEnd {α : Type} (p : α → Bool) (l : List α) : List α :=
  (l.reverse.dropWhile p).reverse

/-- Drops from both ends of a list the elements that satisfy `p`. -/
def trimBoth {α : Type} (p : α → Bool) (l : List α) : List α :=
  trimEnd p (l.dropWhile p)

/-- The text without white space at its ends. -/
def trim (s : String) : String :=
  String.ofList (trimBoth isSpace s.toList)

/-- Whether the text holds nothing but white space. -/
def isBlank (s : String) : Bool :=
  s.toList.all isSpace

/-- The text, unless it is blank. -/
def nonBlank (s : String) : Option String :=
  if isBlank s then none else some s

/-- The text without slashes at its end. -/
def trimEndSlashes (s : String) : String :=
  String.ofList (trimEnd (· == '/') s.toList)

/-- The text with the letters `a` to `z` in upper case and all else unchanged. -/
def upperAscii (s : String) : String :=
  String.ofList (s.toList.map Char.toUpper)

end Rerank.Text
