import MusicianGraph.Text.Span

/-! # White space and trimming

Blank characters are the Unicode white space together with the four information separators; the
zero width characters are not blank. `strip` takes them off both ends of a text. -/

namespace MusicianGraph

def whiteSpace : List Span :=
  [⟨0x9, 0xD⟩, ⟨0x20, 0x20⟩, ⟨0x85, 0x85⟩, ⟨0xA0, 0xA0⟩, ⟨0x1680, 0x1680⟩, ⟨0x2000, 0x200A⟩,
    ⟨0x2028, 0x2029⟩, ⟨0x202F, 0x202F⟩, ⟨0x205F, 0x205F⟩, ⟨0x3000, 0x3000⟩]

/-- The information separators, which separate words as well. -/
def separators : List Span := [⟨0x1C, 0x1F⟩]

def isWhiteSpace (c : Char) : Bool := inSpans whiteSpace c

/-- White space or an information separator. -/
def isBlank (c : Char) : Bool := inSpans (whiteSpace ++ separators) c

/-- Drop the members of a class at both ends. -/
def trimBoth (member : Char → Bool) (cs : List Char) : List Char :=
  ((cs.dropWhile member).reverse.dropWhile member).reverse

/-- Drop the blanks at both ends. -/
def stripChars (cs : List Char) : List Char := trimBoth isBlank cs

/-- A text without the blanks at its ends. -/
def strip (s : String) : String := String.ofList (stripChars s.toList)

end MusicianGraph
